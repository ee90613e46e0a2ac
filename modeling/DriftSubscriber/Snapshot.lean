import DriftSubscriber.Removal

/-!
# The snapshot of `add_account`

Without an initial value, `add_account` stores the key's decoder and oracle id under
the lock (lines 81-92) and only then awaits `get_account_data_and_slot` (line 97).
When the fetch raises, the call returns (line 104) and leaves the key registered
without a value.  When it returns, line 101 writes the snapshot straight into
`data_map`, bypassing the slot test of `_update_data` that the read loop and `fetch()`
go through, so a notification merged while the fetch was outstanding can be
overwritten by an older value.
-/

namespace DriftSubscriber

namespace EventLoop

variable {Pubkey Record : Type} [DecidableEq Pubkey] (codec : PubkeyCodec Pubkey)

/-- `add_account` without an initial value, for an address with no subscription and a key
with no cached value, whose fetch raises: the key keeps its decoder and the address the
oracle id, and nothing else changes. -/
theorem addAccount_failed_fetch_registers_key (l : EventLoop Pubkey Record)
    (call : AddAccountCall Pubkey Record) (hdata : call.initialData = none)
    (hsubscribed : call.pubkey ∉ l.pubkeyToSubscription)
    (hcached : (l.dataMap.get? (call.key codec)).join = none) :
    l.run codec [.addAccount call, .resume l.tasks.length (.fetched (.error ()))] =
      some { l with
        decodeMap := l.decodeMap.insert (call.key codec) (call.decodeFn l.programDecode)
        pubkeyToOracleIds :=
          match call.oracleId with
          | some oracleId =>
              l.pubkeyToOracleIds.insert call.pubkey ((l.oracleIdsOf call.pubkey).add oracleId)
          | none => l.pubkeyToOracleIds
        tasks := l.tasks ++ [.finished] } := by
  have hnone : l.pubkeyToSubscription.get? call.pubkey = none :=
    (Dict.get?_eq_none_iff _ _).mpr hsubscribed
  have hneeded : l.toRegistry.snapshotNeeded call (call.key codec) = true := by
    simp only [Registry.snapshotNeeded, hdata, hcached, Option.isNone_none, Bool.and_self]
  have hadd : l.addAccount codec call =
      (l.setRegistry (l.toRegistry.registerFresh call (call.key codec) (call.decodeFn l.programDecode)),
        .addAccount call .fetching) := by
    simp only [addAccount, hnone, hneeded, if_true]
  have htask : (spawn (l.addAccount codec call)).tasks[l.tasks.length]? =
      some (.addAccount call .fetching) := by
    simp [hadd, spawn]
  rw [run_cons, step, Option.some_bind, run_cons, step_resume codec _ htask, resumeTask_fetching_error]
  cases hoid : call.oracleId <;>
    simp only [Option.map_some', Option.some_bind, run_nil, hadd, spawn, setRegistry,
      Registry.registerFresh, Registry.storeKey, Registry.addOracleId, Registry.oracleIdsOf, hdata, hoid,
      List.set_append_right _ _ (le_refl _), Nat.sub_self, List.set_cons_zero]

end EventLoop

/-- `add_account(ADDR1, oracle_id="ADDR1-1")` without an initial value. -/
def oracleFeedCall : AddAccountCall SampleAddress Payload := ⟨.addr1, none, none, some "ADDR1-1"⟩

/-- From `__init__`, a failed snapshot of `ADDR1-1` leaves its decoder and its oracle id. -/
theorem failed_fetch_leaves_decoder_and_oracleId :
    (EventLoop.init rawDecoder).Ends sampleCodec
      [.addAccount oracleFeedCall, .resume 0 (.fetched (.error ()))] fun l =>
      l.decodeMap.keys = ["ADDR1-1"] ∧ (l.oracleIdsOf .addr1).keys = ["ADDR1-1"] ∧ l.wire = [] := by
  decide

/-- `ADDR1` subscribed through its plain key on connection `0`; `ADDR1-1` added without an
initial value, its snapshot outstanding while the confirmation `42` and a notification of
slot `100` arrive. -/
def staleSnapshotRun : List (Event SampleAddress Payload) :=
  [.subscribe, .resume 0 .completed, .resume 0 (.connected true),
   .addAccount ⟨.addr1, none, none, none⟩, .resume 1 (.fetched (.ok (some ⟨50, .bytes []⟩))),
   .resume 1 (.sent true), .addAccount oracleFeedCall,
   .resume 0 (.received (some ⟨.int 42, .int 1, none⟩)),
   .resume 0 (.received (some ⟨.account (.ofSlot 100) (.bytes []), .null,
     some (.int 42)⟩))]

/-- `ADDR1-1` holds the value of slot `100`; the outstanding snapshot, of slot `90`, then
replaces it while the key stays registered. -/
theorem snapshot_overwrites_newer_notification :
    (EventLoop.init rawDecoder).Ends sampleCodec staleSnapshotRun fun l =>
      (l.dataMap.get? "ADDR1-1").join.map DataAndSlot.slot = some 100 ∧
      l.Ends sampleCodec [.resume 2 (.fetched (.ok (some ⟨90, .bytes []⟩)))] fun l' =>
        "ADDR1-1" ∈ l'.decodeMap ∧ (l'.dataMap.get? "ADDR1-1").join.map DataAndSlot.slot = some 90 := by
  decide

end DriftSubscriber

import DriftSubscriber.Snapshot
import DriftSubscriber.Steps

/-!
# What `add_account` registers

Under `_lock`, `add_account` (lines 64-92) stores the decoder under the logical key and
records an oracle id for the address, except on the early return of lines 67-79: for an
address that already has a subscription, only an `oracle_id` is registered, and a call
without one writes nothing.  The rest of the coroutine (the snapshot fetch and the
subscribe request) touches neither `decode_map` nor `pubkey_to_oracle_ids`, so what the
first segment registered is what the call leaves, however its awaits end.
-/

namespace DriftSubscriber

namespace Registry

variable {Pubkey Record : Type} [DecidableEq Pubkey] (codec : PubkeyCodec Pubkey)

/-- The key of a call is registered for its address with the decoder `decodeFn`, and its
oracle id, if any, is one of the address's. -/
def KeyRegistered (call : AddAccountCall Pubkey Record) (decodeFn : Decoder Record)
    (reg : Registry Pubkey Record) : Prop :=
  reg.decodeMap.get? (call.key codec) = some decodeFn ∧
    ∀ oracleId, call.oracleId = some oracleId → oracleId ∈ reg.oracleIdsOf call.pubkey

variable {codec} {call : AddAccountCall Pubkey Record} {decodeFn : Decoder Record}
  (reg : Registry Pubkey Record)

/-- A registration stands in any registry with the same decoders and oracle ids. -/
theorem KeyRegistered.of_eq {reg' : Registry Pubkey Record} (h : KeyRegistered codec call decodeFn reg)
    (hdecode : reg'.decodeMap = reg.decodeMap) (hids : reg'.pubkeyToOracleIds = reg.pubkeyToOracleIds) :
    KeyRegistered codec call decodeFn reg' := by
  unfold KeyRegistered oracleIdsOf at *
  rwa [hdecode, hids]

theorem mem_oracleIdsOf_addOracleId (P : Pubkey) (oracleId : String) :
    oracleId ∈ (reg.addOracleId P oracleId).oracleIdsOf P := by
  simp [addOracleId, oracleIdsOf]

/-- Lines 82-92: a fresh registration stores the key and the oracle id. -/
theorem keyRegistered_registerFresh :
    KeyRegistered codec call decodeFn (reg.registerFresh call (call.key codec) decodeFn) := by
  refine ⟨by simp, fun oracleId hoid => ?_⟩
  unfold registerFresh
  rw [hoid]
  exact mem_oracleIdsOf_addOracleId _ _ _

/-- Lines 69-78: an oracle id joining a subscription stores its key and itself. -/
theorem keyRegistered_joinSubscription {oracleId : String} (hoid : call.oracleId = some oracleId)
    (subscriptionId : Int) :
    KeyRegistered codec call decodeFn (reg.joinSubscription call (call.key codec) decodeFn subscriptionId) := by
  unfold joinSubscription
  rw [hoid]
  refine ⟨by simp [storeKey], fun oracleId' hoid' => ?_⟩
  cases hoid.symm.trans hoid'
  exact mem_oracleIdsOf_addOracleId _ _ _

end Registry

namespace EventLoop

variable {Pubkey Record : Type} [DecidableEq Pubkey] (codec : PubkeyCodec Pubkey)
  (l : EventLoop Pubkey Record) (call : AddAccountCall Pubkey Record)

/-- What a suspended `add_account` is: finished, or the same call at an await. -/
def IsCallOf (task : Task Pubkey Record) : Prop := task = .finished ∨ ∃ pc, task = .addAccount call pc

/-- Lines 107-134: the subscribe request touches no decoder, no oracle id and no task. -/
theorem requestSubscription_frame :
    (l.requestSubscription call).1.decodeMap = l.decodeMap ∧
      (l.requestSubscription call).1.pubkeyToOracleIds = l.pubkeyToOracleIds ∧
      (l.requestSubscription call).1.tasks = l.tasks ∧ IsCallOf call (l.requestSubscription call).2 := by
  unfold requestSubscription Registry.reserveRequest
  split
  · exact ⟨rfl, rfl, rfl, .inl rfl⟩
  · split_ifs
    · exact ⟨rfl, rfl, rfl, .inl rfl⟩
    · exact ⟨rfl, rfl, rfl, .inr ⟨_, rfl⟩⟩

/-- The first segment of `add_account` registers the key, unless the address already has
a subscription and the call has no oracle id. -/
theorem addAccount_keyRegistered (hkey : call.pubkey ∉ l.pubkeyToSubscription ∨ call.oracleId.isSome) :
    Registry.KeyRegistered codec call (call.decodeFn l.programDecode) (l.addAccount codec call).1.toRegistry := by
  unfold addAccount
  split
  · rename_i subscriptionId hsub
    obtain ⟨oracleId, hoid⟩ := Option.isSome_iff_exists.mp <| hkey.resolve_left fun hnot =>
      hnot ((Dict.mem_iff_get?_isSome _ _).mpr (by rw [hsub]; rfl))
    exact Registry.keyRegistered_joinSubscription _ hoid _
  · have hfresh : Registry.KeyRegistered codec call (call.decodeFn l.programDecode)
        (l.toRegistry.registerFresh call (call.key codec) (call.decodeFn l.programDecode)) :=
      Registry.keyRegistered_registerFresh _
    dsimp only
    split
    · exact hfresh
    · obtain ⟨hdecode, hids, -⟩ := requestSubscription_frame
        (l.setRegistry (l.toRegistry.registerFresh call (call.key codec) (call.decodeFn l.programDecode))) call
      exact hfresh.of_eq _ hdecode hids

/-- A resumed `add_account` touches no decoder and no oracle id, keeps the task list, and
stays the same call. -/
theorem resumeTask_addAccount_frame {pc : AddAccountPc} {outcome : Outcome Record}
    {p : EventLoop Pubkey Record × Task Pubkey Record}
    (h : l.resumeTask codec (.addAccount call pc) outcome = some p) :
    p.1.decodeMap = l.decodeMap ∧ p.1.pubkeyToOracleIds = l.pubkeyToOracleIds ∧
      p.1.tasks = l.tasks ∧ IsCallOf call p.2 := by
  cases pc <;> cases outcome <;> try cases h
  case fetching.fetched result =>
    cases result <;> cases h
    · exact ⟨rfl, rfl, rfl, .inl rfl⟩
    · exact requestSubscription_frame (l.storeSnapshot codec call _) call
  case sending.sent ok =>
    cases ok <;> cases h <;> exact ⟨rfl, rfl, rfl, .inl rfl⟩

/-- Resuming only the call's own coroutine, at any outcomes, keeps the decoders and the
oracle ids. -/
theorem run_resume_addAccount_frame (outcomes : List (Outcome Record)) :
    ∀ {l l' : EventLoop Pubkey Record} {index : Nat} {task : Task Pubkey Record},
      l.tasks[index]? = some task → IsCallOf call task →
      l.run codec (outcomes.map (.resume index)) = some l' →
      l'.decodeMap = l.decodeMap ∧ l'.pubkeyToOracleIds = l.pubkeyToOracleIds := by
  induction outcomes with
  | nil => intro l l' _ _ _ _ hrun; cases hrun; exact ⟨rfl, rfl⟩
  | cons outcome outcomes ih =>
    intro l l' index task htask hcall hrun
    rw [List.map_cons, run_cons, step_resume codec l htask] at hrun
    obtain ⟨l₁, hstep, hrest⟩ := Option.bind_eq_some.mp hrun
    obtain ⟨p, hp, rfl⟩ := Option.map_eq_some'.mp hstep
    rcases hcall with rfl | ⟨pc, rfl⟩
    · cases hp
    obtain ⟨hdecode, hids, htasks, hcall'⟩ := resumeTask_addAccount_frame codec l call hp
    have hindex : index < p.1.tasks.length := htasks ▸ (List.getElem?_eq_some_iff.mp htask).1
    obtain ⟨hdecode', hids'⟩ := ih (List.getElem?_set_self hindex) hcall' hrest
    exact ⟨hdecode'.trans hdecode, hids'.trans hids⟩

/-- `add_account` run to its end with nothing interleaved, whatever its fetch and its send
return: the key has the call's decoder, the default the program's, and an oracle id is
one of the address's, unless the address was already subscribed and no oracle id was
given. -/
theorem addAccount_registers_key (outcomes : List (Outcome Record)) {l' : EventLoop Pubkey Record}
    (hkey : call.pubkey ∉ l.pubkeyToSubscription ∨ call.oracleId.isSome)
    (hrun : l.run codec (.addAccount call :: outcomes.map (.resume l.tasks.length)) = some l') :
    l'.decodeMap.get? (call.key codec) = some (call.decodeFn l.programDecode) ∧
      ∀ oracleId, call.oracleId = some oracleId → oracleId ∈ l'.oracleIdsOf call.pubkey := by
  rw [run_cons, step, Option.some_bind] at hrun
  obtain ⟨htasks, -, hcall⟩ := addAccount_frame codec l call
  have htask : (spawn (l.addAccount codec call)).tasks[l.tasks.length]? = some (l.addAccount codec call).2 := by
    simp [spawn, htasks]
  obtain ⟨hdecode, hids⟩ := run_resume_addAccount_frame codec call outcomes htask hcall hrun
  exact (addAccount_keyRegistered codec l call hkey).of_eq _ hdecode hids

end EventLoop

/-- From `__init__`, `add_account(ADDR1, oracle_id="ADDR1-1")` without an initial value,
its snapshot coming back with slot `1`. -/
theorem addAccount_registers_key_sample :
    ∃ l', (EventLoop.init rawDecoder).run sampleCodec
        (.addAccount oracleFeedCall :: [Outcome.fetched (.ok (some ⟨1, .bytes []⟩))].map (.resume 0)) =
          some l' ∧
      l'.decodeMap.get? (oracleFeedCall.key sampleCodec) = some (oracleFeedCall.decodeFn rawDecoder) ∧
      ∀ oracleId, oracleFeedCall.oracleId = some oracleId → oracleId ∈ l'.oracleIdsOf oracleFeedCall.pubkey := by
  obtain ⟨l', hrun⟩ : ∃ l', (EventLoop.init rawDecoder).run sampleCodec
      (.addAccount oracleFeedCall :: [Outcome.fetched (.ok (some ⟨1, .bytes []⟩))].map (.resume 0)) =
        some l' := ⟨_, rfl⟩
  exact ⟨l', hrun, EventLoop.addAccount_registers_key sampleCodec (.init rawDecoder) oracleFeedCall _
    (.inr rfl) hrun⟩

/-- `ADDR1` subscribed on connection `0` through its oracle id `ADDR1-1` only, confirmed
as subscription `42`. -/
def oracleOnlyRun : List (Event SampleAddress Payload) :=
  [.subscribe, .resume 0 .completed, .resume 0 (.connected true),
   .addAccount ⟨.addr1, none, some ⟨1, .bytes []⟩, some "ADDR1-1"⟩, .resume 1 (.sent true),
   .resume 0 (.received (some ⟨.int 42, .int 1, none⟩))]

/-- With `ADDR1` subscribed, `add_account(ADDR1)` without `oracle_id` registers no decoder
under `ADDR1`. -/
theorem addAccount_subscribed_skips_plain_key :
    (EventLoop.init rawDecoder).Ends sampleCodec oracleOnlyRun fun l =>
      SampleAddress.addr1 ∈ l.pubkeyToSubscription ∧ "ADDR1" ∉ l.decodeMap ∧
      l.Ends sampleCodec [.addAccount ⟨.addr1, none, some ⟨1, .bytes []⟩, none⟩] fun l' =>
        "ADDR1" ∉ l'.decodeMap := by
  decide

end DriftSubscriber

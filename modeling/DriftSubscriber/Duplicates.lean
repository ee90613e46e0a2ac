import DriftSubscriber.EventLoop

/-!
# Duplicate subscriptions of one address

Both checks of `add_account` (lines 67 and 111) and the dedup of the batch (line
239) look only at `pubkey_to_subscription`, which is filled when a confirmation
arrives.  While a subscribe for an address is in flight, a second `add_account`
for it records and sends another one.  Two confirmations with distinct ids then
leave `subscription_map` routing both ids to the address while
`pubkey_to_subscription` keeps only the last, and `remove_account` drops only
that one.
-/

namespace DriftSubscriber

namespace EventLoop

variable {Pubkey Record : Type} [DecidableEq Pubkey] (codec : PubkeyCodec Pubkey)

/-- From any connected state in which the address has no confirmed subscription, an
`add_account` with an initial value records a new request for it, whatever requests for
the address are already in flight, and leaves those in place. -/
theorem addAccount_requests_while_inflight (l : EventLoop Pubkey Record)
    (call : AddAccountCall Pubkey Record) {conn : Nat} {data : DataAndSlot Record}
    (hsubscribed : call.pubkey ∉ l.pubkeyToSubscription) (hws : l.ws = some conn)
    (hdata : call.initialData = some data) :
    (spawn (l.addAccount codec call)).inflightSubscribes.get? (l.requestIdCounter + 1) =
        some (call.pubkey, call.oracleId) ∧
      ∀ requestId, requestId ≠ l.requestIdCounter + 1 →
        (spawn (l.addAccount codec call)).inflightSubscribes.get? requestId =
          l.inflightSubscribes.get? requestId := by
  have hnone : l.pubkeyToSubscription.get? call.pubkey = none :=
    (Dict.get?_eq_none_iff _ _).mpr hsubscribed
  simp only [addAccount, hnone, Registry.snapshotNeeded, hdata, Option.isNone_some,
    Bool.false_and, Bool.false_eq_true, if_false, requestSubscription, setRegistry, hws, spawn,
    Registry.reserveRequest, Registry.registerFresh_pubkeyToSubscription, hsubscribed,
    Registry.recordInflight, Registry.registerFresh_inflightSubscribes,
    Registry.registerFresh_requestIdCounter, Dict.get?_insert]
  exact ⟨by simp, fun requestId h => by simp [h]⟩

end EventLoop

/-- Two feeds of `ADDR1`, its own text and the oracle id `ADDR1-1`, added with initial
values on an open connection before the first confirmation. -/
def twoFeedsRun : List (Event SampleAddress Payload) :=
  [.subscribe, .resume 0 .completed, .resume 0 (.connected true),
   .addAccount ⟨.addr1, none, some ⟨1, .bytes []⟩, none⟩,
   .addAccount ⟨.addr1, none, some ⟨1, .bytes []⟩, some "ADDR1-1"⟩,
   .resume 1 (.sent true), .resume 2 (.sent true)]

/-- Two requests for `ADDR1` are in flight together, and two subscribe frames for it are
sent on connection `0`. -/
theorem twoFeeds_send_two_subscribes :
    (EventLoop.init rawDecoder).Ends sampleCodec twoFeedsRun fun l =>
      l.inflightSubscribes.get? 1 = some (.addr1, none) ∧
      l.inflightSubscribes.get? 2 = some (.addr1, some "ADDR1-1") ∧
      l.wire = [.accountSubscribe 0 1 .addr1, .accountSubscribe 0 2 .addr1] := by
  decide

/-- The server confirms the two requests with the distinct ids `42` and `43`. -/
def twoConfirmationsRun : List (Event SampleAddress Payload) :=
  twoFeedsRun ++
    [.resume 0 (.received (some ⟨.int 42, .int 1, none⟩)),
     .resume 0 (.received (some ⟨.int 43, .int 2, none⟩))]

/-- After two confirmations with distinct ids, `subscription_map` routes `42` to `ADDR1`
while `pubkey_to_subscription` holds `43`; `remove_account(ADDR1)` then deletes `43` and
leaves `42` routed to `ADDR1`. -/
theorem twoConfirmations_break_inverse :
    (EventLoop.init rawDecoder).Ends sampleCodec twoConfirmationsRun fun l =>
      l.subscriptionMap.get? 42 = some .addr1 ∧ l.pubkeyToSubscription.get? .addr1 = some 43 ∧
      (l.removeAccount sampleCodec .addr1 none).subscriptionMap.get? 42 = some .addr1 ∧
      (l.removeAccount sampleCodec .addr1 none).pubkeyToSubscription.get? .addr1 = none := by
  decide

end DriftSubscriber

import DriftSubscriber.Invariants

/-!
# Subscriptions stay routed, and `remove_account` finds its own

`pubkey_to_subscription` and `subscription_map` are written together: a confirmation binds
its id both ways (lines 389-390 and 405-406), `remove_account` deletes the address's id from
both (lines 181-182), and a lost connection and `unsubscribe()` clear both.  So while the
server confirms only ids that `subscription_map` does not hold, every id in
`pubkey_to_subscription` is routed back to its address by `subscription_map`, in every state
the subscriber reaches by any interleaving of calls and awaits; and `remove_account` never
reaches line 181 with an id that `subscription_map` lacks, where `del` would raise
`KeyError`.

The condition on the server is needed: an id confirmed again for a second address routes to
that one only, and once the second is removed, removing the first raises.  Two confirmations
of one address with distinct ids keep the property: the older id stays routed to the address
although the address no longer names it.
-/

namespace DriftSubscriber

/-- The subscription id a frame confirms: `msg.result` when it is an `int` (line 369). -/
def Msg.confirmedId? (msg : Msg) : Option Int :=
  match msg.result with
  | .int subscriptionId => some subscriptionId
  | _ => none

namespace Registry

variable {Pubkey Record : Type} [DecidableEq Pubkey] (codec : PubkeyCodec Pubkey)
  (reg : Registry Pubkey Record)

/-- Every id in `pubkey_to_subscription` is routed back to its address by `subscription_map`. -/
def Routed : Prop :=
  ∀ P subscriptionId, reg.pubkeyToSubscription.get? P = some subscriptionId →
    reg.subscriptionMap.get? subscriptionId = some P

/-- The frame confirms no id that `subscription_map` holds. -/
def NewId (msg : Msg) : Prop :=
  ∀ subscriptionId, msg.confirmedId? = some subscriptionId → subscriptionId ∉ reg.subscriptionMap

variable {reg}

theorem Routed.of_maps {reg' : Registry Pubkey Record} (h : reg.Routed)
    (hsm : reg'.subscriptionMap = reg.subscriptionMap)
    (hpts : reg'.pubkeyToSubscription = reg.pubkeyToSubscription) : reg'.Routed := by
  rw [Routed, hsm, hpts]
  exact h

theorem Routed.of_empty (hpts : reg.pubkeyToSubscription = .empty) : reg.Routed := fun _ _ hs => by
  rw [hpts, Dict.get?_empty] at hs
  cases hs

/-- Binding a new id both ways keeps every id routed. -/
theorem Routed.bindSubscription (h : reg.Routed) {subscriptionId : Int}
    (hnew : subscriptionId ∉ reg.subscriptionMap) (P : Pubkey) : (reg.bindSubscription subscriptionId P).Routed := by
  intro Q t hQ
  simp only [Registry.bindSubscription, Dict.get?_insert] at hQ ⊢
  split_ifs at hQ with hQP
  · cases hQ; subst hQP; simp
  · have ht := h Q t hQ
    have hts : t ≠ subscriptionId := by
      rintro rfl
      exact hnew ((Dict.mem_iff_get?_isSome _ _).mpr (by rw [ht]; rfl))
    rw [if_neg hts, ht]

theorem Routed.confirmFallback (h : reg.Routed) {subscriptionId : Int}
    (hnew : subscriptionId ∉ reg.subscriptionMap) : (reg.confirmFallback subscriptionId).Routed := by
  unfold Registry.confirmFallback
  split
  · exact h.bindSubscription hnew _
  · exact h

/-- Every message the reader handles, whose confirmation (if any) carries a new id. -/
theorem Routed.handleMsg (h : reg.Routed) {msg : Msg} (hnew : reg.NewId msg) :
    (reg.handleMsg codec msg).Routed := by
  obtain ⟨result, id, subscription⟩ := msg
  cases result with
  | int subscriptionId =>
      have hs : subscriptionId ∉ reg.subscriptionMap := hnew _ rfl
      have hretract : ∀ requestId, ({ reg with inflightSubscribes := reg.inflightSubscribes.erase requestId } :
          Registry Pubkey Record).Routed := fun _ => h.of_maps rfl rfl
      show (reg.confirm subscriptionId id).Routed
      unfold confirm
      split
      · exact h.confirmFallback hs
      · split
        · split
          · exact (hretract _).bindSubscription hs _
          · exact h.confirmFallback hs
        · exact h.confirmFallback hs
        · exact h
  | account context data =>
      show (reg.notify codec subscription context data).Routed
      unfold notify
      split
      · exact h
      · exact h
      · split
        · split
          · rename_i P _
            have hframe := (fanOut_merged reg (contextSlot context) data codec P).frame
            exact h.of_maps (by rw [hframe]) (by rw [hframe])
          · exact h
        · exact h
  | other => exact h

theorem dropOracleIds_routes (P : Pubkey) (oracleId : Option String) :
    (reg.dropOracleIds P oracleId).subscriptionMap = reg.subscriptionMap ∧
      (reg.dropOracleIds P oracleId).pubkeyToSubscription = reg.pubkeyToSubscription := by
  cases oracleId <;> simp only [dropOracleIds] <;> split <;> simp [dropKey, foldl_dropKey]

/-- `remove_account` keeps every id routed, and when it reaches a subscription it drops it
from both maps: line 181 finds the id it deletes. -/
theorem Routed.removeAccount (h : reg.Routed) (P : Pubkey) (oracleId : Option String) :
    (reg.removeAccount codec P oracleId).1.Routed ∧
      ∀ reg' subscriptionId, reg.removeAccount codec P oracleId = (reg', some subscriptionId) →
        subscriptionId ∉ reg'.subscriptionMap ∧ P ∉ reg'.pubkeyToSubscription := by
  obtain ⟨hsm, hpts⟩ := reg.dropOracleIds_routes P oracleId
  have h₁ : (reg.dropOracleIds P oracleId).Routed := h.of_maps hsm hpts
  unfold Registry.removeAccount
  dsimp only
  split
  · exact ⟨h₁, fun _ _ h => by cases h⟩
  · split
    · exact ⟨h₁, fun _ _ h => by cases h⟩
    · rename_i subscriptionId hP
      have hs := h₁ P subscriptionId hP
      have hmem : subscriptionId ∈ (reg.dropOracleIds P oracleId).subscriptionMap :=
        (Dict.mem_iff_get?_isSome _ _).mpr (by rw [hs]; rfl)
      simp only [dropSubscription, if_pos hmem, Option.getD_some, Prod.mk.injEq, and_imp]
      refine ⟨fun Q t hQ => ?_, fun _ _ hreg hsid => by cases hreg; cases hsid; simp⟩
      simp only [Dict.get?_erase] at hQ ⊢
      split_ifs at hQ with hQP
      have ht := h₁ Q t hQ
      have hts : t ≠ subscriptionId := by
        rintro rfl
        exact hQP (Option.some.inj (ht.symm.trans hs))
      rw [if_neg hts, ht]

end Registry

/-- The subscription id that the frame of a step confirms. -/
def Event.confirmedId? {Pubkey Record : Type} : Event Pubkey Record → Option Int
  | .resume _ (.received (some msg)) => msg.confirmedId?
  | _ => none

namespace EventLoop

variable {Pubkey Record : Type} [DecidableEq Pubkey] (codec : PubkeyCodec Pubkey)

/-- What a resumed coroutine does to the two routing maps: it keeps them, clears them (a lost
connection, the final clear of `unsubscribe()`), or handles the frame it was resumed with. -/
inductive RouteMove (l : EventLoop Pubkey Record) (outcome : Outcome Record) (reg : Registry Pubkey Record) :
    Prop
  | keep : reg.subscriptionMap = l.subscriptionMap → reg.pubkeyToSubscription = l.pubkeyToSubscription →
      RouteMove l outcome reg
  | clear : reg.pubkeyToSubscription = .empty → RouteMove l outcome reg
  | handle (msg : Msg) : outcome = .received (some msg) → reg = l.toRegistry.handleMsg codec msg →
      RouteMove l outcome reg

variable {l : EventLoop Pubkey Record} {outcome : Outcome Record}

theorem RouteMove.routed {reg : Registry Pubkey Record} (hm : RouteMove codec l outcome reg)
    (h : l.Routed) (hnew : ∀ msg, outcome = .received (some msg) → l.NewId msg) : reg.Routed := by
  cases hm with
  | keep hsm hpts => exact h.of_maps hsm hpts
  | clear hpts => exact .of_empty hpts
  | handle msg houtcome hreg => exact hreg ▸ h.handleMsg codec (hnew msg houtcome)

theorem RouteMove.of_quiet {p : EventLoop Pubkey Record × Option (ReaderPc Pubkey)} (hq : Quiet l p) :
    RouteMove codec l outcome p.1.toRegistry :=
  hq.registry.elim (fun h => .keep (by rw [h]) (by rw [h])) (fun h => .clear (by rw [h]; rfl))

theorem RouteMove.sendBatch {l₁ : EventLoop Pubkey Record} (hsm : l₁.subscriptionMap = l.subscriptionMap)
    (hpts : l₁.pubkeyToSubscription = l.pubkeyToSubscription) (conn : Nat) (pairs : List (Pubkey × String)) :
    RouteMove codec l outcome (l₁.sendBatch codec conn pairs).1.toRegistry := by
  cases pairs with
  | nil => simp only [EventLoop.sendBatch, readNext]; split <;> exact .keep hsm hpts
  | cons pair rest => exact .keep hsm hpts

variable (l) in
/-- Every branch of `_subscribe_ws` resuming at an await, on the routing maps. -/
theorem resumeReader_routes {cancelled : Bool} {pc : ReaderPc Pubkey}
    {p : EventLoop Pubkey Record × Option (ReaderPc Pubkey)}
    (h : l.resumeReader codec cancelled pc outcome = some p) : RouteMove codec l outcome p.1.toRegistry := by
  cases outcome
  case cancelled =>
    rw [resumeReader_cancelled] at h
    cases cancelled <;> cases h
    exact .of_quiet codec (cancelAt_quiet l _)
  all_goals cases pc <;> (try cases ‹AfterClose›) <;> try cases h
  case sent.sending ok conn requestId P rest =>
    cases ok
    · exact .sendBatch codec (by rfl) (by rfl) _ _
    · exact .sendBatch codec (by rfl) (by rfl) _ _
  case connected.connecting ok =>
    cases ok <;> cases h
    · exact .of_quiet codec (dropConnection_quiet l)
    · unfold openConnection; dsimp only; split
      · exact .sendBatch codec (by rfl) (by rfl) _ _
      · exact .keep rfl rfl
  case received.receiving msg conn =>
    cases msg <;> cases h
    · exact .of_quiet codec (readNext_quiet l _)
    · rename_i msg
      split
      · refine .handle msg rfl ?_
        unfold readNext; split <;> rfl
      · exact .keep rfl rfl
  case idle.receiving => exact .of_quiet codec (readNext_quiet l _)
  case closedByPeer.receiving => exact .keep rfl rfl
  case completed.start => exact .of_quiet codec ((whileRunning_quiet { l with running := true }).of_same l rfl rfl rfl rfl rfl)
  case completed.closing.loop => exact .of_quiet codec (whileRunning_quiet l)
  case completed.closing.exit => exact .keep rfl rfl
  case completed.closing.cancel => exact .of_quiet codec (cancelHandler_quiet l)
  case completed.sleeping => exact .of_quiet codec (whileRunning_quiet l)
  case completed.closingOnCancel outer => exact .of_quiet codec (closeAfterCancel_quiet l _)

variable (l) in
/-- Every branch of `resumeTask`, on the routing maps. -/
theorem resumeTask_routes {task : Task Pubkey Record} {p : EventLoop Pubkey Record × Task Pubkey Record}
    (h : l.resumeTask codec task outcome = some p) : RouteMove codec l outcome p.1.toRegistry := by
  have hrequest : ∀ {l₁ : EventLoop Pubkey Record} (call : AddAccountCall Pubkey Record),
      l₁.subscriptionMap = l.subscriptionMap → l₁.pubkeyToSubscription = l.pubkeyToSubscription →
      RouteMove codec l outcome (l₁.requestSubscription call).1.toRegistry := by
    intro l₁ call hsm hpts
    unfold requestSubscription
    split
    · exact .keep hsm hpts
    · by_cases hsub : call.pubkey ∈ l₁.pubkeyToSubscription
      · simp only [Registry.reserveRequest, if_pos hsub]
        exact .keep hsm hpts
      · simp only [Registry.reserveRequest, if_neg hsub]
        exact .keep hsm hpts
  cases task with
  | addAccount call pc =>
      cases pc <;> cases outcome <;> try cases h
      case fetching.fetched result =>
        cases result <;> cases h
        · exact .keep rfl rfl
        · exact hrequest call rfl rfl
      case sending.sent requestId conn ok => cases ok <;> cases h <;> exact .keep rfl rfl
  | fetchOne P key =>
      cases outcome <;> try cases h
      case fetched result => cases result <;> cases h <;> exact .keep rfl rfl
  | fetchAll keys =>
      cases outcome <;> try cases h
      case gathered results =>
        rw [resumeTask_fetchAll] at h
        split at h
        · cases h
          obtain ⟨dataMap, hframe⟩ := l.toRegistry.mergeGathered_frame keys results
          exact .keep (by simp [hframe]) (by simp [hframe])
        · cases h
  | reader cancelled pc =>
      obtain ⟨p, hp, rfl⟩ := Option.map_eq_some'.mp h
      exact resumeReader_routes codec l hp
  | unsubscribe pc =>
      have hrelease : RouteMove codec l outcome l.unsubscribeRelease.1.toRegistry := by
        unfold unsubscribeRelease; dsimp only; split
        · rw [foldl_record_unsubscribeRaised]; exact .keep rfl rfl
        · exact .clear rfl
      cases pc
      case joining reader =>
        obtain ⟨-, -, rfl⟩ := resumeTask_joining_eq_some codec l h
        exact hrelease
      all_goals cases outcome <;> cases h
      · unfold unsubscribeJoin; split
        · exact .keep rfl rfl
        · exact hrelease
      · exact .clear rfl
  | finished => cases h

/-- The calls of the application keep every id routed. -/
theorem StepEffect.routed {e : Event Pubkey Record} {reg : Registry Pubkey Record}
    (hm : StepEffect codec l e reg) (h : l.Routed) (hcall : ∀ index outcome, e ≠ .resume index outcome) :
    reg.Routed := by
  cases hm with
  | join call subscriptionId _ =>
      unfold Registry.joinSubscription
      split
      · exact h
      · exact h.of_maps rfl rfl
  | register call _ => exact h.of_maps (by simp) (by simp)
  | registerRequest call _ => exact h.of_maps (by simp) (by simp)
  | remove P oracleId => exact (h.removeAccount codec P oracleId).1
  | keep => exact h
  | reset => exact .of_empty rfl
  | resume index outcome _ _ => exact absurd rfl (hcall index outcome)

/-- One step keeps every id routed when the frame it brings confirms a new id. -/
theorem step_routed {e : Event Pubkey Record} {l' : EventLoop Pubkey Record} (h : l.Routed)
    (hnew : ∀ subscriptionId, e.confirmedId? = some subscriptionId → subscriptionId ∉ l.subscriptionMap)
    (hstep : l.step codec e = some l') : l'.Routed := by
  cases e
  case resume index outcome =>
    obtain ⟨_, _, _, hp, rfl⟩ := step_resume_eq_some codec l hstep
    exact (resumeTask_routes codec l hp).routed codec h fun msg houtcome s hs => by
      subst houtcome
      exact hnew s hs
  all_goals exact (step_effect codec l hstep).routed codec h fun _ _ => nofun

/-- The states reached from `__init__` by any interleaving of calls and awaits in which every
confirmation the server sends carries an id that `subscription_map` does not hold when it
arrives. -/
inductive ReachableFresh : EventLoop Pubkey Record → Prop
  | init (programDecode : Decoder Record) : ReachableFresh (init programDecode)
  | step {l l' : EventLoop Pubkey Record} (e : Event Pubkey Record) : ReachableFresh l →
      (∀ subscriptionId, e.confirmedId? = some subscriptionId → subscriptionId ∉ l.subscriptionMap) →
      l.step codec e = some l' → ReachableFresh l'

theorem ReachableFresh.routed (h : ReachableFresh codec l) : l.Routed := by
  induction h with
  | init _ => exact .of_empty rfl
  | step e _ hnew hstep ih => exact step_routed codec ih hnew hstep

/-- In every state reached while the server confirms only new ids, every id of
`pubkey_to_subscription` routes back to its address, and `remove_account`, once it reaches an
address's subscription (line 173), deletes the id from `subscription_map` and the address from
`pubkey_to_subscription`: the `del` of line 181 never raises `KeyError`. -/
theorem subscriptions_stay_routed (h : ReachableFresh codec l) :
    l.Routed ∧ ∀ P oracleId reg subscriptionId,
      l.toRegistry.removeAccount codec P oracleId = (reg, some subscriptionId) →
        subscriptionId ∉ reg.subscriptionMap ∧ P ∉ reg.pubkeyToSubscription :=
  ⟨ReachableFresh.routed codec h, fun P oracleId => ((ReachableFresh.routed codec h).removeAccount codec P oracleId).2⟩

end EventLoop

/-- `ADDR1` added with a value on socket `0`, its request `1` sent and confirmed as subscription
`42`. -/
def subscribedLoop : EventLoop SampleAddress Payload :=
  { (EventLoop.init rawDecoder).setRegistry
      { Registry.init with
        subscriptionMap := Dict.empty.insert 42 .addr1
        pubkeyToSubscription := Dict.empty.insert .addr1 42
        decodeMap := Dict.empty.insert "ADDR1" rawDecoder
        dataMap := Dict.empty.insert "ADDR1" (some ⟨1, .bytes []⟩)
        requestIdCounter := 1 } with
    ws := some 0, task := some 0, running := true, connections := 1,
    tasks := [.reader false (.receiving 0), .finished], wire := [.accountSubscribe 0 1 .addr1] }

theorem subscriptions_stay_routed_sample :
    EventLoop.ReachableFresh sampleCodec subscribedLoop ∧ subscribedLoop.toRegistry.Routed ∧
      ∀ P oracleId reg subscriptionId,
        subscribedLoop.toRegistry.removeAccount sampleCodec P oracleId = (reg, some subscriptionId) →
          subscriptionId ∉ reg.subscriptionMap ∧ P ∉ reg.pubkeyToSubscription :=
  have hreach : EventLoop.ReachableFresh sampleCodec subscribedLoop :=
    .step (.resume 0 (.received (some ⟨.int 42, .int 1, none⟩)))
      (.step (.resume 1 (.sent true))
        (.step (.addAccount ⟨.addr1, none, some ⟨1, .bytes []⟩, none⟩)
          (.step (.resume 0 (.connected true))
            (.step (.resume 0 .completed)
              (.step .subscribe (.init rawDecoder) (fun _ h => nomatch h) rfl)
              (fun _ h => nomatch h) rfl)
            (fun _ h => nomatch h) rfl)
          (fun _ h => nomatch h) rfl)
        (fun _ h => nomatch h) rfl)
      (fun _ h => Option.some.inj h ▸ Dict.not_mem_empty _) rfl
  ⟨hreach, EventLoop.subscriptions_stay_routed sampleCodec hreach⟩

end DriftSubscriber

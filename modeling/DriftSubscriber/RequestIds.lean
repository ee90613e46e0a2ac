import DriftSubscriber.Duplicates
import DriftSubscriber.Invariants

/-!
# Request ids

`add_account` (lines 114-119) and the resubscribe batch (lines 247-251) take the next value
of `request_id_counter` as the JSON-RPC id of an `accountSubscribe` frame and record the
request under it in `inflight_subscribes`; a confirmation finds its address by that id
alone (lines 373-395).  In every reachable state the ids in flight lie between `1` and the
counter, so the id a new request takes is never in flight and recording it replaces no
other request.  Along every run in which `unsubscribe()` is not called (its final clear
sets the counter back to `0`, line 673), no two subscribe frames on the wire carry the same
id: an id is handed out once, held by one coroutine until its frame is sent or given up,
and sent at most once.
-/

namespace DriftSubscriber

namespace Registry

variable {Pubkey Record : Type}

/-- The counter counts up from `0`, and every request in flight carries an id it handed
out. -/
structure RequestIdsIssued (reg : Registry Pubkey Record) : Prop where
  counter_nonneg : 0 ≤ reg.requestIdCounter
  inflight : ∀ n ∈ reg.inflightSubscribes, 0 < n ∧ n ≤ reg.requestIdCounter

/-- `reg'` hands out no request id: it keeps the counter, and every request in flight in
`reg'` was in flight in `reg`. -/
structure KeepsRequests (reg reg' : Registry Pubkey Record) : Prop where
  counter : reg'.requestIdCounter = reg.requestIdCounter
  inflight : ∀ n ∈ reg'.inflightSubscribes, n ∈ reg.inflightSubscribes

variable (reg : Registry Pubkey Record)

theorem KeepsRequests.of_eq {reg' : Registry Pubkey Record}
    (hcounter : reg'.requestIdCounter = reg.requestIdCounter)
    (hinflight : reg'.inflightSubscribes = reg.inflightSubscribes) : KeepsRequests reg reg' :=
  ⟨hcounter, fun _ hn => hinflight ▸ hn⟩

theorem keepsRequests_retractRequest (requestId : Int) :
    KeepsRequests reg (reg.retractRequest requestId) :=
  ⟨rfl, fun _ hn => ((Dict.mem_erase _ _ _).mp hn).2⟩

theorem keepsRequests_clearConnection : KeepsRequests reg reg.clearConnection :=
  ⟨rfl, fun _ hn => absurd hn (Dict.not_mem_empty _)⟩

theorem keepsRequests_mergeGathered (keys : List String)
    (results : List (Except Unit (Option (DataAndSlot Record)))) :
    KeepsRequests reg (reg.mergeGathered keys results) := by
  obtain ⟨dataMap, e⟩ := reg.mergeGathered_frame keys results
  exact .of_eq reg (by rw [e]) (by rw [e])

namespace RequestIdsIssued

variable {reg}

theorem init : RequestIdsIssued (.init : Registry Pubkey Record) :=
  ⟨le_rfl, fun _ hn => absurd hn (Dict.not_mem_empty _)⟩

theorem of_keeps {reg' : Registry Pubkey Record} (h : RequestIdsIssued reg)
    (hkeep : KeepsRequests reg reg') : RequestIdsIssued reg' :=
  ⟨hkeep.counter ▸ h.counter_nonneg, fun n hn => hkeep.counter ▸ h.inflight n (hkeep.inflight n hn)⟩

/-- The id the next request takes is not in flight. -/
theorem next_not_mem (h : RequestIdsIssued reg) : reg.requestIdCounter + 1 ∉ reg.inflightSubscribes :=
  fun hn => by have := (h.inflight _ hn).2; omega

/-- Lines 115-119 and 248-251 record the request under the counter's next value. -/
theorem recordInflight (h : RequestIdsIssued reg) (P : Pubkey) (oracleId : Option String) :
    RequestIdsIssued (reg.recordInflight P oracleId).1 := by
  have hc := h.counter_nonneg
  refine ⟨by simp only [recordInflight_fst]; omega, fun n hn => ?_⟩
  simp only [recordInflight_fst, Dict.mem_insert] at hn ⊢
  rcases hn with rfl | hn
  · omega
  · have := h.inflight n hn; omega

end RequestIdsIssued

variable [DecidableEq Pubkey] (codec : PubkeyCodec Pubkey)

/-- A frame of the read loop hands out no id; a confirmation takes its request out of
flight (line 385). -/
theorem keepsRequests_handleMsg (msg : Msg) : KeepsRequests reg (reg.handleMsg codec msg) := by
  rcases reg.handleMsg_cases codec msg with e | ⟨_, e⟩ | ⟨_, _, _, _, _, e⟩ | ⟨_, _, _, _, _, e⟩ <;> rw [e]
  · exact .of_eq reg rfl rfl
  · unfold confirmFallback; split <;> exact .of_eq reg rfl rfl
  · exact ⟨rfl, fun _ hn => ((Dict.mem_erase _ _ _).mp hn).2⟩
  · rw [(reg.fanOut_merged _ _ codec _).frame]; exact .of_eq reg rfl rfl

theorem keepsRequests_removeAccount (P : Pubkey) (oracleId : Option String) :
    KeepsRequests reg (reg.removeAccount codec P oracleId).1 := by
  have hdrop : KeepsRequests reg (reg.dropOracleIds P oracleId) := by
    unfold dropOracleIds
    cases oracleId <;> dsimp only <;> split <;>
      exact .of_eq reg (by simp [foldl_dropKey, dropKey]) (by simp [foldl_dropKey, dropKey])
  rcases reg.removeAccount_cases codec P oracleId with e | ⟨_, hsub⟩
  · rw [e]; exact hdrop
  · rw [dropSubscription_eq_some _ hsub]; exact ⟨hdrop.counter, hdrop.inflight⟩


end Registry

/-- The JSON-RPC id of a subscribe frame. -/
def WireCall.requestId? {Pubkey : Type} : WireCall Pubkey → Option Int
  | .accountSubscribe _ requestId _ => some requestId
  | .unsubscribeRaised _ => none

namespace Task

variable {Pubkey Record : Type}

/-- The request id a suspended coroutine has recorded and not sent yet: `add_account` at its
send (line 134), or the reader at a frame of the batch (line 266). -/
def heldRequestIds : Task Pubkey Record → List Int
  | .addAccount _ (.sending requestId _) => [requestId]
  | .reader _ (.sending _ requestId _ _) => [requestId]
  | _ => []

/-- A suspended `unsubscribe()`. -/
def isUnsubscribe : Task Pubkey Record → Bool
  | .unsubscribe _ => true
  | _ => false

end Task

/-- A call of `unsubscribe()`. -/
def Event.isUnsubscribe {Pubkey Record : Type} : Event Pubkey Record → Bool
  | .unsubscribe => true
  | _ => false

namespace EventLoop

variable {Pubkey Record : Type} [DecidableEq Pubkey] (codec : PubkeyCodec Pubkey)
  {l : EventLoop Pubkey Record}

/-! ## The ids in flight -/

theorem FirstEffect.requestIdsIssued {task : Task Pubkey Record} {reg : Registry Pubkey Record}
    (h : FirstEffect codec l task reg) (hl : l.toRegistry.RequestIdsIssued) : reg.RequestIdsIssued := by
  cases h with
  | keep => exact hl
  | snapshot | update => exact hl.of_keeps (.of_eq _ rfl rfl)
  | retract requestId => exact hl.of_keeps (l.toRegistry.keepsRequests_retractRequest requestId)
  | merge keys results => exact hl.of_keeps (l.toRegistry.keepsRequests_mergeGathered keys results)
  | handle msg => exact hl.of_keeps (l.toRegistry.keepsRequests_handleMsg codec msg)
  | clear => exact hl.of_keeps l.toRegistry.keepsRequests_clearConnection
  | reset => exact .init

theorem StepEffect.requestIdsIssued {e : Event Pubkey Record} {reg : Registry Pubkey Record}
    (h : StepEffect codec l e reg) (hl : l.toRegistry.RequestIdsIssued) : reg.RequestIdsIssued := by
  cases h with
  | join call _ _ =>
      exact hl.of_keeps (by unfold Registry.joinSubscription; split <;> exact .of_eq _ rfl rfl)
  | register => exact hl.of_keeps (.of_eq _ (by simp) (by simp))
  | registerRequest call _ => exact (hl.of_keeps (.of_eq _ (by simp) (by simp))).recordInflight _ _
  | remove P oracleId => exact hl.of_keeps (l.toRegistry.keepsRequests_removeAccount codec P oracleId)
  | keep => exact hl
  | reset => exact .init
  | resume _ _ _ heffect =>
      cases heffect with
      | first h => exact h.requestIdsIssued codec hl
      | request P oracleId h _ => exact (h.requestIdsIssued codec hl).recordInflight P oracleId

theorem Reachable.requestIdsIssued (h : Reachable codec l) : l.toRegistry.RequestIdsIssued := by
  induction h with
  | init => exact .init
  | step e _ hstep ih => exact (step_effect codec _ hstep).requestIdsIssued codec ih

/-- In every reachable state, whatever calls, reconnections and awaits interleaved, each
request in flight carries an id between `1` and `request_id_counter`; so recording the next
request, as `add_account` and the resubscribe batch do, appends one entry under
`counter + 1` and keeps every request already in flight. -/
theorem inflight_ids_below_counter (h : Reachable codec l) (P : Pubkey) (oracleId : Option String) :
    (∀ n ∈ l.inflightSubscribes, 0 < n ∧ n ≤ l.requestIdCounter) ∧
      (l.toRegistry.recordInflight P oracleId).1.inflightSubscribes.entries =
        l.inflightSubscribes.entries ++ [(l.requestIdCounter + 1, (P, oracleId))] :=
  ⟨(Reachable.requestIdsIssued codec h).inflight,
    Dict.entries_insert_of_not_mem _ _ _ (Reachable.requestIdsIssued codec h).next_not_mem⟩

/-! ## The ids on the wire -/

omit [DecidableEq Pubkey] in
/-- The request ids handed out and not given up: those of the subscribe frames sent, then
those the suspended coroutines hold. -/
def issuedRequestIds (l : EventLoop Pubkey Record) : List Int :=
  l.wire.filterMap WireCall.requestId? ++ l.tasks.flatMap Task.heldRequestIds

omit [DecidableEq Pubkey] in
/-- `l'` hands out the ids `fresh`: none, keeping the counter, or the counter's next value. -/
def Mints (l l' : EventLoop Pubkey Record) (fresh : List Int) : Prop :=
  l'.requestIdCounter = l.requestIdCounter ∧ fresh = [] ∨
    l'.requestIdCounter = l.requestIdCounter + 1 ∧ fresh = [l'.requestIdCounter]

omit [DecidableEq Pubkey] in
/-- A coroutine that held the ids `held` takes `l` to `l'` and becomes `task'`: the task list
is kept, the frames it sends and the ids it still holds come from `held` and the ids handed
out, and it is no coroutine of `unsubscribe()`. -/
structure IdsMove (l : EventLoop Pubkey Record) (held : List Int) (l' : EventLoop Pubkey Record)
    (task' : Task Pubkey Record) : Prop where
  tasks : l'.tasks = l.tasks
  ids : ∃ calls fresh, l'.wire = l.wire ++ calls ∧ Mints l l' fresh ∧
    (calls.filterMap WireCall.requestId? ++ task'.heldRequestIds).Subperm (held ++ fresh)
  notUnsubscribe : task'.isUnsubscribe = false

omit [DecidableEq Pubkey] in
theorem Mints.of_counter {l₀ l' : EventLoop Pubkey Record} {fresh : List Int} (h : Mints l l' fresh)
    (hcounter : l.requestIdCounter = l₀.requestIdCounter) : Mints l₀ l' fresh := by
  unfold Mints at *; rwa [hcounter] at h

omit [DecidableEq Pubkey] in
theorem heldRequestIds_readerTask {cancelled : Bool} {pc : Option (ReaderPc Pubkey)}
    (h : (readerTask cancelled pc : Task Pubkey Record).subscribing = []) :
    (readerTask cancelled pc : Task Pubkey Record).heldRequestIds = [] := by
  rcases pc with _ | ⟨_ | _ | _ | _ | _ | _ | _⟩ <;> first | rfl | cases h

omit [DecidableEq Pubkey] in
theorem isUnsubscribe_readerTask (cancelled : Bool) (pc : Option (ReaderPc Pubkey)) :
    (readerTask cancelled pc : Task Pubkey Record).isUnsubscribe = false := by
  cases pc <;> rfl

omit [DecidableEq Pubkey] in
theorem Quiet.counter {p : EventLoop Pubkey Record × Option (ReaderPc Pubkey)} (h : Quiet l p) :
    p.1.requestIdCounter = l.requestIdCounter := by
  rcases h.registry with e | e <;> exact (congrArg Registry.requestIdCounter e :)

omit [DecidableEq Pubkey] in
/-- A quiet move of the reader hands out nothing and leaves it holding nothing. -/
theorem Quiet.idsMove {p : EventLoop Pubkey Record × Option (ReaderPc Pubkey)} (h : Quiet l p)
    (cancelled : Bool) (held : List Int) : IdsMove l held p.1 (readerTask cancelled p.2) where
  tasks := h.tasks
  ids := ⟨[], [], by rw [h.wire, List.append_nil], .inl ⟨h.counter, rfl⟩,
    by rw [heldRequestIds_readerTask (h.notSending cancelled)]; exact List.nil_subperm⟩
  notUnsubscribe := isUnsubscribe_readerTask cancelled p.2

omit [DecidableEq Pubkey] in
/-- Lines 244-251: the batch hands out at most the next id, which the reader then holds. -/
theorem sendBatch_ids (l : EventLoop Pubkey Record) (conn : Nat) (pairs : List (Pubkey × String))
    (cancelled : Bool) :
    (l.sendBatch codec conn pairs).1.tasks = l.tasks ∧ (l.sendBatch codec conn pairs).1.wire = l.wire ∧
      Mints l (l.sendBatch codec conn pairs).1
        (readerTask cancelled (l.sendBatch codec conn pairs).2 : Task Pubkey Record).heldRequestIds := by
  cases pairs with
  | nil =>
      have hq := readNext_quiet l conn
      exact ⟨hq.tasks, hq.wire, .inl ⟨hq.counter, heldRequestIds_readerTask (hq.notSending cancelled)⟩⟩
  | cons pair rest => obtain ⟨P, key⟩ := pair; exact ⟨rfl, rfl, .inr ⟨rfl, rfl⟩⟩

omit [DecidableEq Pubkey] in
/-- The batch, or what is left of it, sent on after a move that kept the counter and sent
only ids the reader held. -/
theorem sendBatch_idsMove {l₀ : EventLoop Pubkey Record} {held : List Int} (calls : List (WireCall Pubkey))
    (htasks : l.tasks = l₀.tasks) (hwire : l.wire = l₀.wire ++ calls)
    (hcounter : l.requestIdCounter = l₀.requestIdCounter)
    (hcalls : (calls.filterMap WireCall.requestId?).Subperm held)
    (conn : Nat) (pairs : List (Pubkey × String)) (cancelled : Bool) :
    IdsMove l₀ held (l.sendBatch codec conn pairs).1 (readerTask cancelled (l.sendBatch codec conn pairs).2) := by
  obtain ⟨htasks', hwire', hmints⟩ := sendBatch_ids codec l conn pairs cancelled
  exact ⟨htasks'.trans htasks, ⟨calls, _, by rw [hwire', hwire], hmints.of_counter hcounter,
    (List.subperm_append_right _).mpr hcalls⟩, isUnsubscribe_readerTask _ _⟩

variable (l) in
/-- Every branch of `_subscribe_ws` resuming at an await. -/
theorem resumeReader_ids {cancelled : Bool} {pc : ReaderPc Pubkey} {outcome : Outcome Record}
    {p : EventLoop Pubkey Record × Option (ReaderPc Pubkey)}
    (h : l.resumeReader codec cancelled pc outcome = some p) :
    IdsMove l (Task.reader cancelled pc : Task Pubkey Record).heldRequestIds p.1 (readerTask cancelled p.2) := by
  have hstay : ∀ p : EventLoop Pubkey Record × Option (ReaderPc Pubkey), Quiet l p →
      IdsMove l (Task.reader cancelled pc : Task Pubkey Record).heldRequestIds p.1 (readerTask cancelled p.2) :=
    fun _ hq => hq.idsMove cancelled _
  cases outcome
  case cancelled =>
    rw [resumeReader_cancelled] at h
    cases cancelled <;> cases h
    exact hstay _ (cancelAt_quiet l _)
  all_goals cases pc <;> (try cases ‹AfterClose›) <;> try cases h
  case sent.sending ok conn requestId P rest =>
    cases ok
    · refine sendBatch_idsMove codec [] ?_ ?_ ?_ ?_ _ _ _
      exacts [rfl, (List.append_nil _).symm, rfl, List.nil_subperm]
    · refine sendBatch_idsMove codec [.accountSubscribe conn requestId P] ?_ ?_ ?_ ?_ _ _ _
      exacts [rfl, rfl, rfl, List.Subperm.refl _]
  case connected.connecting ok =>
    cases ok <;> cases h
    · exact hstay _ (dropConnection_quiet l)
    · unfold openConnection; dsimp only; split
      · refine sendBatch_idsMove codec [] ?_ ?_ ?_ ?_ _ _ _
        exacts [rfl, (List.append_nil _).symm, rfl, List.nil_subperm]
      · exact hstay _ ⟨.inl rfl, rfl, rfl, rfl, rfl, fun _ => rfl⟩
  case received.receiving msg conn =>
    cases msg <;> cases h
    · exact hstay _ (readNext_quiet l _)
    · split
      · refine sendBatch_idsMove codec [] ?_ ?_ ?_ ?_ _ [] _
        exacts [rfl, (List.append_nil _).symm, (l.toRegistry.keepsRequests_handleMsg codec _).counter,
          List.nil_subperm]
      · exact hstay _ ⟨.inl rfl, rfl, rfl, rfl, rfl, fun _ => rfl⟩
  case idle.receiving => exact hstay _ (readNext_quiet l _)
  case closedByPeer.receiving => exact hstay _ ⟨.inl rfl, rfl, rfl, rfl, rfl, fun _ => rfl⟩
  case completed.start =>
    exact hstay _ ((whileRunning_quiet { l with running := true }).of_same l rfl rfl rfl rfl rfl)
  case completed.closing.loop => exact hstay _ (whileRunning_quiet l)
  case completed.closing.exit => exact hstay _ ⟨.inl rfl, rfl, rfl, rfl, rfl, fun _ => rfl⟩
  case completed.closing.cancel => exact hstay _ (cancelHandler_quiet l)
  case completed.sleeping => exact hstay _ (whileRunning_quiet l)
  case completed.closingOnCancel outer => exact hstay _ (closeAfterCancel_quiet l _)

/-- Lines 109-120: `add_account` hands out at most the next id, which it then holds. -/
theorem requestSubscription_ids (l : EventLoop Pubkey Record) (call : AddAccountCall Pubkey Record) :
    IdsMove l [] (l.requestSubscription call).1 (l.requestSubscription call).2 := by
  have hnone : ∀ l' : EventLoop Pubkey Record, l'.tasks = l.tasks → l'.wire = l.wire →
      l'.requestIdCounter = l.requestIdCounter → IdsMove l [] l' .finished :=
    fun _ htasks hwire hcounter =>
      ⟨htasks, ⟨[], [], by rw [hwire, List.append_nil], .inl ⟨hcounter, rfl⟩, List.nil_subperm⟩, rfl⟩
  unfold requestSubscription Registry.reserveRequest
  split
  · exact hnone _ rfl rfl rfl
  · split_ifs
    · exact hnone _ rfl rfl rfl
    · exact ⟨rfl, ⟨[], _, (List.append_nil _).symm, .inr ⟨rfl, rfl⟩, List.Subperm.refl _⟩, rfl⟩

variable (l) in
/-- Every branch of `resumeTask` but those of `unsubscribe()`. -/
theorem resumeTask_ids {task : Task Pubkey Record} {outcome : Outcome Record}
    {p : EventLoop Pubkey Record × Task Pubkey Record} (h : l.resumeTask codec task outcome = some p)
    (htask : task.isUnsubscribe = false) : IdsMove l task.heldRequestIds p.1 p.2 := by
  have hfinished : ∀ {l'' : EventLoop Pubkey Record}, l''.tasks = l.tasks → l''.wire = l.wire →
      l''.requestIdCounter = l.requestIdCounter → IdsMove l task.heldRequestIds l'' .finished :=
    fun htasks hwire hcounter =>
      ⟨htasks, ⟨[], [], by rw [hwire, List.append_nil], .inl ⟨hcounter, rfl⟩, List.nil_subperm⟩, rfl⟩
  cases task with
  | addAccount call pc =>
      cases pc <;> cases outcome <;> try cases h
      case fetching.fetched result =>
        cases result <;> cases h
        · exact hfinished rfl rfl rfl
        · obtain ⟨htasks, ⟨calls, fresh, hwire, hmints, hids⟩, hunsub⟩ :=
            requestSubscription_ids (l.storeSnapshot codec call _) call
          exact ⟨htasks, ⟨calls, fresh, hwire, hmints.of_counter rfl, hids⟩, hunsub⟩
      case sending.sent requestId conn ok =>
        cases ok <;> cases h
        · exact hfinished rfl rfl rfl
        · exact ⟨rfl, ⟨[_], [], rfl, .inl ⟨rfl, rfl⟩, List.Subperm.refl _⟩, rfl⟩
  | fetchOne P key =>
      cases outcome <;> try cases h
      case fetched result => cases result <;> cases h <;> exact hfinished rfl rfl rfl
  | fetchAll keys =>
      cases outcome <;> try cases h
      case gathered results =>
        rw [resumeTask_fetchAll] at h
        split at h
        · cases h
          exact hfinished rfl rfl (l.toRegistry.keepsRequests_mergeGathered keys results).counter
        · cases h
  | reader cancelled pc =>
      obtain ⟨p, hp, rfl⟩ := Option.map_eq_some'.mp h
      exact resumeReader_ids codec l hp
  | unsubscribe pc => cases htask
  | finished => cases h

variable (l) in
/-- Lines 57-97 and 107-120: the first segment of `add_account`. -/
theorem addAccount_ids (call : AddAccountCall Pubkey Record) :
    IdsMove l [] (l.addAccount codec call).1 (l.addAccount codec call).2 := by
  unfold addAccount
  split
  · refine ⟨rfl, ⟨[], [], (List.append_nil _).symm, .inl ⟨?_, rfl⟩, List.nil_subperm⟩, rfl⟩
    unfold Registry.joinSubscription; split <;> rfl
  · dsimp only
    split
    · exact ⟨rfl, ⟨[], [], (List.append_nil _).symm, .inl ⟨by simp, rfl⟩, List.nil_subperm⟩, rfl⟩
    · obtain ⟨htasks, ⟨calls, fresh, hwire, hmints, hids⟩, hunsub⟩ := requestSubscription_ids
        (l.setRegistry (l.toRegistry.registerFresh call (call.key codec) (call.decodeFn l.programDecode))) call
      exact ⟨htasks, ⟨calls, fresh, hwire, hmints.of_counter (by simp), hids⟩, hunsub⟩

omit [DecidableEq Pubkey] in
theorem fetch_ids (l : EventLoop Pubkey Record) (P : Option Pubkey) (oracleId : Option String) :
    IdsMove l [] (l.fetch codec P oracleId).1 (l.fetch codec P oracleId).2 := by
  have hquiet : ∀ task' : Task Pubkey Record, task'.heldRequestIds = [] → task'.isUnsubscribe = false →
      IdsMove l [] l task' := fun _ hheld hunsub =>
    ⟨rfl, ⟨[], [], (List.append_nil _).symm, .inl ⟨rfl, rfl⟩, by rw [hheld]; exact List.nil_subperm⟩, hunsub⟩
  cases P with
  | none => exact hquiet _ rfl rfl
  | some P => dsimp only [fetch]; split <;> exact hquiet _ rfl rfl

omit [DecidableEq Pubkey] in
theorem subscribe_ids (l : EventLoop Pubkey Record) : IdsMove l [] l.subscribe.1 l.subscribe.2 := by
  unfold subscribe; split <;>
    exact ⟨rfl, ⟨[], [], (List.append_nil _).symm, .inl ⟨rfl, rfl⟩, List.nil_subperm⟩, rfl⟩

omit [DecidableEq Pubkey] in
/-- The calls `remove_account` logs are unsubscribe calls, which carry no request id. -/
theorem filterMap_requestId?_eq_nil {calls : List (WireCall Pubkey)}
    (h : ∀ conn requestId Q, .accountSubscribe conn requestId Q ∉ calls) :
    calls.filterMap WireCall.requestId? = [] :=
  List.filterMap_eq_nil_iff.mpr fun call hcall => by
    cases call with
    | accountSubscribe conn requestId Q => exact absurd hcall (h conn requestId Q)
    | unsubscribeRaised _ => rfl

/-- Replacing the element at `i` trades its ids for those of the new one. -/
theorem count_flatMap_set {α : Type} (f : α → List Int) (x : Int) :
    ∀ {xs : List α} {i : Nat} {a : α}, xs[i]? = some a → ∀ b : α,
      ((xs.set i b).flatMap f).count x + (f a).count x = (xs.flatMap f).count x + (f b).count x
  | [], _, _, h, _ => by cases h
  | y :: ys, 0, a, h, b => by
      simp only [List.getElem?_cons_zero, Option.some.injEq] at h
      subst h
      simp only [List.set_cons_zero, List.flatMap_cons, List.count_append]
      omega
  | y :: ys, i + 1, a, h, b => by
      rw [List.getElem?_cons_succ] at h
      have := count_flatMap_set f x h b
      simp only [List.set_cons_succ, List.flatMap_cons, List.count_append]
      omega

omit [DecidableEq Pubkey] in
/-- The ids on the wire and those held by suspended coroutines are distinct and at most the
counter, and no coroutine of `unsubscribe()` is suspended. -/
structure RequestIdsDistinct (l : EventLoop Pubkey Record) : Prop where
  nodup : l.issuedRequestIds.Nodup
  le_counter : ∀ n ∈ l.issuedRequestIds, n ≤ l.requestIdCounter
  noUnsubscribe : ∀ task ∈ l.tasks, task.isUnsubscribe = false

namespace RequestIdsDistinct

omit [DecidableEq Pubkey] in
theorem init (programDecode : Decoder Record) :
    RequestIdsDistinct (EventLoop.init programDecode : EventLoop Pubkey Record) where
  nodup := List.nodup_nil
  le_counter _ h := by cases h
  noUnsubscribe _ h := by cases h

omit [DecidableEq Pubkey] in
/-- A state each of whose ids occurs at most as often as before or among the ids handed out
keeps the ids distinct. -/
theorem of_count {l' : EventLoop Pubkey Record} {fresh : List Int} (h : RequestIdsDistinct l)
    (hmints : Mints l l' fresh)
    (hcount : ∀ x, l'.issuedRequestIds.count x ≤ l.issuedRequestIds.count x + fresh.count x)
    (hnone : ∀ task ∈ l'.tasks, task.isUnsubscribe = false) : RequestIdsDistinct l' := by
  have hold := List.nodup_iff_count_le_one.mp h.nodup
  rcases hmints with ⟨hc, rfl⟩ | ⟨hc, rfl⟩
  · refine ⟨List.nodup_iff_count_le_one.mpr fun x => ?_, fun n hn => ?_, hnone⟩
    · have := hcount x; have := hold x; simp only [List.count_nil] at *; omega
    · have h1 := hcount n
      have h2 := List.count_pos_iff.mpr hn
      rw [List.count_nil] at h1
      exact hc ▸ h.le_counter n (List.count_pos_iff.mp (by omega))
  · have hnew : l.issuedRequestIds.count l'.requestIdCounter = 0 :=
      List.count_eq_zero.mpr fun hmem => by have := h.le_counter _ hmem; omega
    refine ⟨List.nodup_iff_count_le_one.mpr fun x => ?_, fun n hn => ?_, hnone⟩
    · have h1 := hcount x; have h2 := hold x
      rw [List.count_singleton'] at h1
      split_ifs at h1 with hx
      · subst hx; omega
      · omega
    · have h1 := hcount n
      have h2 := List.count_pos_iff.mpr hn
      rw [List.count_singleton'] at h1
      split_ifs at h1 with hx
      · exact hx ▸ le_rfl
      · have := h.le_counter n (List.count_pos_iff.mp (by omega)); omega

/-- Every step but a call of `unsubscribe()` keeps the ids distinct. -/
theorem step {e : Event Pubkey Record} {l' : EventLoop Pubkey Record} (h : RequestIdsDistinct l)
    (he : e.isUnsubscribe = false) (hstep : l.step codec e = some l') : RequestIdsDistinct l' := by
  have hspawn : ∀ p : EventLoop Pubkey Record × Task Pubkey Record, IdsMove l [] p.1 p.2 →
      RequestIdsDistinct (spawn p) := by
    rintro ⟨l₁, task'⟩ ⟨htasks, ⟨calls, fresh, hwire, hmints, hids⟩, hunsub⟩
    refine h.of_count hmints (fun x => ?_) fun task hmem => ?_
    · have := hids.count_le x
      simp only [issuedRequestIds, spawn, List.filterMap_append, List.flatMap_append,
        List.flatMap_cons, List.flatMap_nil, List.append_nil, List.nil_append, List.count_append] at this ⊢
      rw [hwire, htasks] at *
      simp only [List.filterMap_append, List.count_append] at *
      omega
    · simp only [spawn, List.mem_append, List.mem_singleton] at hmem
      rcases hmem with hmem | rfl
      · exact h.noUnsubscribe task (htasks ▸ hmem)
      · exact hunsub
  cases e with
  | addAccount call => cases hstep; exact hspawn _ (addAccount_ids codec l call)
  | removeAccount P oracleId =>
      cases hstep
      obtain ⟨htasks, calls, hwire, hcalls⟩ := removeAccount_frame codec l P oracleId
      have hcounter : (l.removeAccount codec P oracleId).requestIdCounter = l.requestIdCounter := by
        rw [show (l.removeAccount codec P oracleId).requestIdCounter =
          (l.removeAccount codec P oracleId).toRegistry.requestIdCounter from rfl, removeAccount_toRegistry]
        exact (l.toRegistry.keepsRequests_removeAccount codec P oracleId).counter
      refine h.of_count (.inl ⟨hcounter, rfl⟩) (fun x => ?_) (htasks ▸ h.noUnsubscribe)
      simp [issuedRequestIds, hwire, htasks, filterMap_requestId?_eq_nil hcalls]
  | fetch P oracleId => cases hstep; exact hspawn _ (fetch_ids codec l P oracleId)
  | subscribe => cases hstep; exact hspawn _ (subscribe_ids l)
  | unsubscribe => cases he
  | resume index outcome =>
      obtain ⟨task, p, htask, hp, rfl⟩ := step_resume_eq_some codec l hstep
      obtain ⟨htasks, ⟨calls, fresh, hwire, hmints, hids⟩, hunsub⟩ :=
        resumeTask_ids codec l hp (h.noUnsubscribe task (List.getElem?_mem htask))
      refine h.of_count hmints (fun x => ?_) fun task' hmem => ?_
      · have h1 := hids.count_le x
        have h2 := count_flatMap_set Task.heldRequestIds x htask p.2
        simp only [issuedRequestIds, hwire, htasks, List.filterMap_append, List.count_append] at h1 h2 ⊢
        omega
      · rw [htasks] at hmem
        rcases List.mem_or_eq_of_mem_set hmem with hmem | rfl
        · exact h.noUnsubscribe _ hmem
        · exact hunsub

theorem run : ∀ {l l' : EventLoop Pubkey Record} {events : List (Event Pubkey Record)},
    RequestIdsDistinct l → (∀ e ∈ events, e.isUnsubscribe = false) → l.run codec events = some l' →
      RequestIdsDistinct l'
  | _, _, [], h, _, hrun => by cases hrun; exact h
  | _, _, e :: _, h, hevents, hrun => by
      obtain ⟨_, hstep, hrest⟩ := Option.bind_eq_some.mp hrun
      exact run (step codec h (hevents e (List.mem_cons_self _ _)) hstep)
        (fun e' he' => hevents e' (List.mem_cons_of_mem _ he')) hrest

end RequestIdsDistinct

/-- Along every run from `__init__` in which `unsubscribe()` is not called, whatever calls,
reconnections and awaits interleave and whatever the server answers, the subscribe frames
sent carry pairwise distinct request ids, on one connection and across connections. -/
theorem subscribe_frames_carry_distinct_ids (programDecode : Decoder Record)
    {events : List (Event Pubkey Record)} {l' : EventLoop Pubkey Record}
    (hevents : ∀ e ∈ events, e.isUnsubscribe = false)
    (hrun : (EventLoop.init programDecode).run codec events = some l') :
    (l'.wire.filterMap WireCall.requestId?).Nodup :=
  (List.nodup_append.mp (RequestIdsDistinct.run codec (.init programDecode) hevents hrun).nodup).1

end EventLoop

/-- After `twoFeedsRun` requests `1` and `2` are in flight; a third request goes under `3`. -/
theorem inflight_ids_below_counter_sample :
    ∃ l, (EventLoop.init rawDecoder).run sampleCodec twoFeedsRun = some l ∧
      (∀ n ∈ l.inflightSubscribes, 0 < n ∧ n ≤ l.requestIdCounter) ∧
      (l.toRegistry.recordInflight SampleAddress.addr2 none).1.inflightSubscribes.entries =
        l.inflightSubscribes.entries ++ [(l.requestIdCounter + 1, (SampleAddress.addr2, none))] := by
  obtain ⟨l, hrun⟩ : ∃ l, (EventLoop.init rawDecoder).run sampleCodec twoFeedsRun = some l := ⟨_, rfl⟩
  exact ⟨l, hrun, EventLoop.inflight_ids_below_counter sampleCodec
    ((EventLoop.Reachable.init rawDecoder).run sampleCodec hrun) _ _⟩

/-- `twoFeedsRun` sends two subscribe frames for `ADDR1`, with the ids `1` and `2`. -/
theorem subscribe_frames_carry_distinct_ids_sample :
    ∃ l, (EventLoop.init rawDecoder).run sampleCodec twoFeedsRun = some l ∧
      (l.wire.filterMap WireCall.requestId?).Nodup := by
  obtain ⟨l, hrun⟩ : ∃ l, (EventLoop.init rawDecoder).run sampleCodec twoFeedsRun = some l := ⟨_, rfl⟩
  exact ⟨l, hrun, EventLoop.subscribe_frames_carry_distinct_ids sampleCodec rawDecoder (by decide) hrun⟩

end DriftSubscriber

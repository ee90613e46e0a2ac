import DriftSubscriber.EventLoop

/-!
# What a step can do

Every coroutine of the loop, once resumed, changes the registry in at most two moves
before its next await: a first change (a snapshot or a fetch written back, a
request retracted, a frame handled, the connection's maps cleared, everything
reset), then possibly one new request, for an address it was already subscribing
or one of a fresh resubscribe batch.  It leaves the task list alone, appends to
the log only subscribe frames for addresses it was subscribing, and becomes a
coroutine that fetches nothing and subscribes no new address.  `resumeTask_resumed`
proves this once for every branch of `resumeTask`; the invariants of the later
modules are derived from it.
-/

namespace DriftSubscriber

namespace Task

variable {Pubkey Record : Type} (codec : PubkeyCodec Pubkey)

/-- The keys a suspended coroutine writes fetched values under when it resumes. -/
def fetchKeys : Task Pubkey Record → List String
  | .addAccount call .fetching => [call.key codec]
  | .fetchOne _ key => [key]
  | .fetchAll keys => keys
  | _ => []

/-- The addresses a suspended coroutine may still record a request or send a subscribe
frame for. -/
def subscribing : Task Pubkey Record → List Pubkey
  | .addAccount call _ => [call.pubkey]
  | .reader _ (.sending _ _ P rest) => P :: rest.map Prod.fst
  | _ => []

end Task

namespace EventLoop

variable {Pubkey Record : Type} (codec : PubkeyCodec Pubkey)

theorem fetchKeys_readerTask (cancelled : Bool) (pc : Option (ReaderPc Pubkey)) :
    (readerTask cancelled pc : Task Pubkey Record).fetchKeys codec = [] := by
  rcases pc with _ | ⟨_ | _ | _ | _ | _ | _ | _⟩ <;> rfl

/-- A move of the reader that keeps the task list and the log, and leaves the registry as
it was or with the connection's maps cleared, suspended where it subscribes nothing. -/
structure Quiet (l : EventLoop Pubkey Record) (p : EventLoop Pubkey Record × Option (ReaderPc Pubkey)) :
    Prop where
  registry : p.1.toRegistry = l.toRegistry ∨ p.1.toRegistry = l.toRegistry.clearConnection
  tasks : p.1.tasks = l.tasks
  programDecode : p.1.programDecode = l.programDecode
  task : p.1.task = l.task
  wire : p.1.wire = l.wire
  notSending : ∀ cancelled, (readerTask cancelled p.2 : Task Pubkey Record).subscribing = []

variable (l : EventLoop Pubkey Record)

/-- A reader move out of a state whose registry is `l`'s with the connection's maps
cleared is a quiet move out of `l`. -/
theorem Quiet.of_clear {l₁ : EventLoop Pubkey Record} {p : EventLoop Pubkey Record × Option (ReaderPc Pubkey)}
    (h : Quiet l₁ p) (hreg : l₁.toRegistry = l.toRegistry.clearConnection) (htasks : l₁.tasks = l.tasks)
    (hpd : l₁.programDecode = l.programDecode) (htask : l₁.task = l.task) (hwire : l₁.wire = l.wire) :
    Quiet l p where
  registry := .inr <| by rcases h.registry with e | e <;> simp [e, hreg]
  tasks := h.tasks.trans htasks
  programDecode := h.programDecode.trans hpd
  task := h.task.trans htask
  wire := h.wire.trans hwire
  notSending := h.notSending

/-- A reader move out of a state that differs from `l` only in the socket fields is a quiet
move out of `l`. -/
theorem Quiet.of_same {l₁ : EventLoop Pubkey Record} {p : EventLoop Pubkey Record × Option (ReaderPc Pubkey)}
    (h : Quiet l₁ p) (hreg : l₁.toRegistry = l.toRegistry) (htasks : l₁.tasks = l.tasks)
    (hpd : l₁.programDecode = l.programDecode) (htask : l₁.task = l.task) (hwire : l₁.wire = l.wire) :
    Quiet l p where
  registry := by rcases h.registry with e | e <;> simp [e, hreg]
  tasks := h.tasks.trans htasks
  programDecode := h.programDecode.trans hpd
  task := h.task.trans htask
  wire := h.wire.trans hwire
  notSending := h.notSending

theorem whileRunning_quiet : Quiet l l.whileRunning := by
  unfold whileRunning; split <;> exact ⟨.inl rfl, rfl, rfl, rfl, rfl, fun _ => rfl⟩

theorem readNext_quiet (conn : Nat) : Quiet l (l.readNext conn) := by
  unfold readNext; split <;> exact ⟨.inl rfl, rfl, rfl, rfl, rfl, fun _ => rfl⟩

theorem dropConnection_quiet : Quiet l l.dropConnection := ⟨.inr rfl, rfl, rfl, rfl, rfl, fun _ => rfl⟩

theorem outerCancelHandler_quiet : Quiet l l.outerCancelHandler := by
  unfold outerCancelHandler; dsimp only; split
  · exact ⟨.inl rfl, rfl, rfl, rfl, rfl, fun _ => rfl⟩
  · exact ⟨.inr rfl, rfl, rfl, rfl, rfl, fun _ => rfl⟩

theorem cancelHandler_quiet : Quiet l l.cancelHandler := by
  unfold cancelHandler; dsimp only; split
  · exact ⟨.inl rfl, rfl, rfl, rfl, rfl, fun _ => rfl⟩
  · exact (outerCancelHandler_quiet _).of_clear l rfl rfl rfl rfl rfl

theorem closeAfterCancel_quiet (outer : Bool) : Quiet l (l.closeAfterCancel outer) := by
  unfold closeAfterCancel; dsimp only; split
  · exact ⟨.inr rfl, rfl, rfl, rfl, rfl, fun _ => rfl⟩
  · exact (outerCancelHandler_quiet _).of_clear l rfl rfl rfl rfl rfl

theorem cancelAt_quiet (pc : ReaderPc Pubkey) : Quiet l (l.cancelAt pc) := by
  cases pc with
  | start | sending | receiving => exact ⟨.inl rfl, rfl, rfl, rfl, rfl, fun _ => rfl⟩
  | connecting | closing => exact cancelHandler_quiet l
  | sleeping => exact outerCancelHandler_quiet l
  | closingOnCancel outer =>
      cases outer
      · exact outerCancelHandler_quiet l
      · exact ⟨.inl rfl, rfl, rfl, rfl, rfl, fun _ => rfl⟩

theorem foldl_record_unsubscribeRaised (subscriptionIds : List Int) (l : EventLoop Pubkey Record) :
    subscriptionIds.foldl (fun l sid => l.record (.unsubscribeRaised sid)) l =
      { l with wire := l.wire ++ subscriptionIds.map .unsubscribeRaised } := by
  induction subscriptionIds generalizing l with
  | nil => simp
  | cons sid sids ih => rw [List.foldl_cons, ih]; simp [record]

variable [DecidableEq Pubkey]

/-- The first change a resumed coroutine makes to the registry. -/
inductive FirstEffect (l : EventLoop Pubkey Record) (task : Task Pubkey Record) :
    Registry Pubkey Record → Prop
  | keep : FirstEffect l task l.toRegistry
  | snapshot (call : AddAccountCall Pubkey Record) (data : Option (DataAndSlot Record)) :
      task = .addAccount call .fetching →
      FirstEffect l task { l.toRegistry with dataMap := l.dataMap.insert (call.key codec) data }
  | retract (requestId : Int) : FirstEffect l task (l.toRegistry.retractRequest requestId)
  | update (P : Pubkey) (key : String) (data : Option (DataAndSlot Record)) :
      task = .fetchOne P key → FirstEffect l task (l.toRegistry.updateData key data)
  | merge (keys : List String) (results : List (Except Unit (Option (DataAndSlot Record)))) :
      task = .fetchAll keys → FirstEffect l task (l.toRegistry.mergeGathered keys results)
  | handle (msg : Msg) : FirstEffect l task (l.toRegistry.handleMsg codec msg)
  | clear : FirstEffect l task l.toRegistry.clearConnection
  | reset : FirstEffect l task .init

/-- The registry a resumed coroutine leaves: its first change, then possibly a request for
an address it was subscribing or one of the batch of the registry it started from. -/
inductive ResumeEffect (l : EventLoop Pubkey Record) (task : Task Pubkey Record) :
    Registry Pubkey Record → Prop
  | first {reg : Registry Pubkey Record} : FirstEffect codec l task reg → ResumeEffect l task reg
  | request {reg : Registry Pubkey Record} (P : Pubkey) (oracleId : Option String) :
      FirstEffect codec l task reg →
      (P ∈ task.subscribing ∨ ∃ key, (P, key) ∈ l.toRegistry.resubscribeBatch codec) →
      ResumeEffect l task (reg.recordInflight P oracleId).1

/-- What resuming `task` in `l` can lead to: `l'` with the coroutine become `task'`. -/
structure Resumed (l : EventLoop Pubkey Record) (task : Task Pubkey Record)
    (l' : EventLoop Pubkey Record) (task' : Task Pubkey Record) : Prop where
  registry : ResumeEffect codec l task l'.toRegistry
  tasks : l'.tasks = l.tasks
  programDecode : l'.programDecode = l.programDecode
  /-- only `unsubscribe()` resets `self.task` (line 641) -/
  readerTask : l'.task = l.task ∨ l'.task = none
  wire : ∃ calls, l'.wire = l.wire ++ calls ∧
    ∀ conn requestId P, .accountSubscribe conn requestId P ∈ calls → P ∈ task.subscribing
  fetchKeys : task'.fetchKeys codec = []
  subscribing : ∀ P ∈ task'.subscribing,
    P ∈ task.subscribing ∨ ∃ key, (P, key) ∈ l.toRegistry.resubscribeBatch codec

theorem Quiet.resumed {l : EventLoop Pubkey Record} {p : EventLoop Pubkey Record × Option (ReaderPc Pubkey)}
    (h : Quiet l p) (cancelled : Bool) (pc : ReaderPc Pubkey) :
    Resumed codec l (.reader cancelled pc) p.1 (readerTask cancelled p.2) where
  registry := h.registry.elim (fun e => e ▸ .first .keep) (fun e => e ▸ .first .clear)
  tasks := h.tasks
  programDecode := h.programDecode
  readerTask := .inl h.task
  wire := ⟨[], by simp [h.wire], by simp⟩
  fetchKeys := fetchKeys_readerTask codec cancelled p.2
  subscribing := by simp [h.notSending]

section Reader

variable {l₀ l : EventLoop Pubkey Record} {cancelled : Bool} {pc : ReaderPc Pubkey}

/-- `l` is `l₀` after the first change of a resumed `task`, with the frames it sent. -/
structure FirstMove (l₀ : EventLoop Pubkey Record) (task : Task Pubkey Record)
    (l : EventLoop Pubkey Record) : Prop where
  registry : FirstEffect codec l₀ task l.toRegistry
  tasks : l.tasks = l₀.tasks
  programDecode : l.programDecode = l₀.programDecode
  readerTask : l.task = l₀.task
  wire : ∃ calls, l.wire = l₀.wire ++ calls ∧
    ∀ conn requestId P, .accountSubscribe conn requestId P ∈ calls → P ∈ task.subscribing

/-- The resubscribe batch, or what is left of it, sent on after a first move. -/
theorem sendBatch_resumed (hmove : FirstMove codec l₀ (.reader cancelled pc) l)
    (conn : Nat) (pairs : List (Pubkey × String))
    (hpairs : ∀ P ∈ pairs.map Prod.fst, P ∈ (Task.reader cancelled pc : Task Pubkey Record).subscribing ∨
      ∃ key, (P, key) ∈ l₀.toRegistry.resubscribeBatch codec) :
    Resumed codec l₀ (.reader cancelled pc) (l.sendBatch codec conn pairs).1
      (readerTask cancelled (l.sendBatch codec conn pairs).2) := by
  cases pairs with
  | nil =>
      simp only [sendBatch, readNext]
      split <;> exact ⟨.first hmove.registry, hmove.tasks, hmove.programDecode, .inl hmove.readerTask, hmove.wire,
        fetchKeys_readerTask codec _ _, by simp [readerTask, Task.subscribing]⟩
  | cons pair rest =>
      obtain ⟨P, key⟩ := pair
      refine ⟨.request P _ hmove.registry (hpairs P (by simp)), hmove.tasks, hmove.programDecode,
        .inl hmove.readerTask, hmove.wire, rfl, fun Q hQ => ?_⟩
      exact hpairs Q (by simpa [sendBatch, readerTask, Task.subscribing] using hQ)

variable (l) in
/-- Every branch of `_subscribe_ws` resuming at an await. -/
theorem resumeReader_resumed {outcome : Outcome Record}
    {p : EventLoop Pubkey Record × Option (ReaderPc Pubkey)}
    (h : l.resumeReader codec cancelled pc outcome = some p) :
    Resumed codec l (.reader cancelled pc) p.1 (readerTask cancelled p.2) := by
  have hsub : ∀ {P Q : Pubkey} {conn requestId rest}, P ∈ rest.map Prod.fst →
      P ∈ (Task.reader cancelled (.sending conn requestId Q rest) : Task Pubkey Record).subscribing :=
    fun hP => List.mem_cons_of_mem _ hP
  have hstay : ∀ {pc' : ReaderPc Pubkey} (p : EventLoop Pubkey Record × Option (ReaderPc Pubkey)),
      Quiet l p → Resumed codec l (.reader cancelled pc') p.1 (readerTask cancelled p.2) :=
    fun _ hq => hq.resumed codec cancelled _
  cases outcome
  case cancelled =>
    rw [resumeReader_cancelled] at h
    cases cancelled <;> cases h
    exact hstay _ (cancelAt_quiet l _)
  all_goals cases pc <;> (try cases ‹AfterClose›) <;> try cases h
  case sent.sending ok conn requestId P rest =>
    cases ok
    · refine sendBatch_resumed codec ?_ _ _ fun P hP => .inl (hsub hP)
      exact ⟨.retract _, rfl, rfl, rfl, [], by simp, by simp⟩
    · refine sendBatch_resumed codec ?_ _ _ fun P hP => .inl (hsub hP)
      exact ⟨.keep, rfl, rfl, rfl, [.accountSubscribe _ _ _], rfl, fun _ _ _ h => by
        cases List.mem_singleton.mp h; exact List.mem_cons_self _ _⟩
  case connected.connecting ok =>
    cases ok <;> cases h
    · exact hstay _ (dropConnection_quiet l)
    · unfold openConnection; dsimp only; split
      · refine sendBatch_resumed codec ?_ _ _ fun P hP => .inr (by simpa using hP)
        exact ⟨.keep, rfl, rfl, rfl, [], by simp, by simp⟩
      · exact hstay _ ⟨.inl rfl, rfl, rfl, rfl, rfl, fun _ => rfl⟩
  case received.receiving msg conn =>
    cases msg <;> cases h
    · exact hstay _ (readNext_quiet l _)
    · split
      · refine sendBatch_resumed codec ?_ _ [] (by simp)
        exact ⟨.handle _, rfl, rfl, rfl, [], by simp, by simp⟩
      · exact hstay _ ⟨.inl rfl, rfl, rfl, rfl, rfl, fun _ => rfl⟩
  case idle.receiving => exact hstay _ (readNext_quiet l _)
  case closedByPeer.receiving => exact hstay _ ⟨.inl rfl, rfl, rfl, rfl, rfl, fun _ => rfl⟩
  case completed.start =>
    exact hstay _ ((whileRunning_quiet { l with running := true }).of_same l rfl rfl rfl rfl rfl)
  case completed.closing.loop => exact hstay _ (whileRunning_quiet l)
  case completed.closing.exit => exact hstay _ ⟨.inl rfl, rfl, rfl, rfl, rfl, fun _ => rfl⟩
  case completed.closing.cancel => exact hstay _ (cancelHandler_quiet l)
  case completed.sleeping => exact hstay _ (whileRunning_quiet l)
  case completed.closingOnCancel outer => exact hstay _ (closeAfterCancel_quiet l _)

end Reader

section Coroutines

variable {l₀ l : EventLoop Pubkey Record} {call : AddAccountCall Pubkey Record} {pc : AddAccountPc}

/-- Lines 107-134 after a first move of `add_account`. -/
theorem requestSubscription_resumed (hmove : FirstMove codec l₀ (.addAccount call pc) l) :
    Resumed codec l₀ (.addAccount call pc) (l.requestSubscription call).1
      (l.requestSubscription call).2 := by
  have hP : call.pubkey ∈ (Task.addAccount call pc : Task Pubkey Record).subscribing :=
    List.mem_singleton_self _
  unfold requestSubscription
  split
  · exact ⟨.first hmove.registry, hmove.tasks, hmove.programDecode, .inl hmove.readerTask, hmove.wire, rfl, by simp [Task.subscribing]⟩
  · by_cases hsub : call.pubkey ∈ l.pubkeyToSubscription
    · simp only [Registry.reserveRequest, if_pos hsub]
      exact ⟨.first hmove.registry, hmove.tasks, hmove.programDecode, .inl hmove.readerTask, hmove.wire, rfl,
        by simp [Task.subscribing]⟩
    · simp only [Registry.reserveRequest, if_neg hsub]
      exact ⟨.request _ _ hmove.registry (.inl hP), hmove.tasks, hmove.programDecode, .inl hmove.readerTask, hmove.wire, rfl,
        fun _ hQ => .inl hQ⟩

variable (l)

/-- Lines 642-673 of `unsubscribe()`: the calls of `account_unsubscribe`, or the final clear. -/
theorem unsubscribeRelease_resumed (pc : UnsubscribePc) :
    Resumed codec l (.unsubscribe pc) l.unsubscribeRelease.1 l.unsubscribeRelease.2 := by
  unfold unsubscribeRelease; dsimp only; split
  · rw [foldl_record_unsubscribeRaised]
    exact ⟨.first .keep, rfl, rfl, .inr rfl, ⟨_, rfl, by simp⟩, rfl, by simp [Task.subscribing]⟩
  · exact ⟨.first .reset, rfl, rfl, .inr rfl, ⟨[], by simp, by simp⟩, rfl, by simp [Task.subscribing]⟩

theorem unsubscribeJoin_resumed (pc : UnsubscribePc) :
    Resumed codec l (.unsubscribe pc) l.unsubscribeJoin.1 l.unsubscribeJoin.2 := by
  unfold unsubscribeJoin; split
  · exact ⟨.first .keep, rfl, rfl, .inl rfl, ⟨[], by simp, by simp⟩, rfl, by simp [Task.subscribing]⟩
  · exact unsubscribeRelease_resumed codec l pc

/-- Every branch of `resumeTask`: what a suspended coroutine can do when it resumes. -/
theorem resumeTask_resumed {task : Task Pubkey Record} {outcome : Outcome Record}
    {p : EventLoop Pubkey Record × Task Pubkey Record} (h : l.resumeTask codec task outcome = some p) :
    Resumed codec l task p.1 p.2 := by
  have hfinished : ∀ {l'' : EventLoop Pubkey Record}, ResumeEffect codec l task l''.toRegistry →
      l''.tasks = l.tasks → l''.programDecode = l.programDecode → l''.task = l.task → l''.wire = l.wire →
      Resumed codec l task l'' .finished :=
    fun hreg htasks hpd htask hwire => ⟨hreg, htasks, hpd, .inl htask, ⟨[], by simp [hwire], by simp⟩, rfl, by
      simp [Task.subscribing]⟩
  cases task with
  | addAccount call pc =>
      cases pc <;> cases outcome <;> try cases h
      case fetching.fetched result =>
        cases result <;> cases h
        · exact hfinished (.first .keep) rfl rfl rfl rfl
        · exact requestSubscription_resumed codec
            ⟨.snapshot _ _ rfl, rfl, rfl, rfl, [], (List.append_nil _).symm, by simp⟩
      case sending.sent requestId conn ok =>
        cases ok <;> cases h
        · exact hfinished (.first (.retract _)) rfl rfl rfl rfl
        · exact ⟨.first .keep, rfl, rfl, .inl rfl, ⟨[.accountSubscribe _ _ _], rfl, fun _ _ _ h => by
            cases List.mem_singleton.mp h; exact List.mem_singleton_self _⟩, rfl, by simp [Task.subscribing]⟩
  | fetchOne P key =>
      cases outcome <;> try cases h
      case fetched result =>
        cases result <;> cases h
        · exact hfinished (.first .keep) rfl rfl rfl rfl
        · exact hfinished (.first (.update _ _ _ rfl)) rfl rfl rfl rfl
  | fetchAll keys =>
      cases outcome <;> try cases h
      case gathered results =>
        rw [resumeTask_fetchAll] at h
        split at h
        · cases h; exact hfinished (.first (.merge _ _ rfl)) rfl rfl rfl rfl
        · cases h
  | reader cancelled pc =>
      obtain ⟨p, hp, rfl⟩ := Option.map_eq_some'.mp h
      exact resumeReader_resumed codec l hp
  | unsubscribe pc =>
      cases pc
      case joining reader =>
        obtain ⟨-, -, rfl⟩ := resumeTask_joining_eq_some codec l h
        exact unsubscribeRelease_resumed codec l _
      all_goals cases outcome <;> cases h
      · exact unsubscribeJoin_resumed codec l _
      · exact hfinished (.first .reset) rfl rfl rfl rfl
  | finished => cases h

end Coroutines

/-! ## Calls from the application -/

section Calls

theorem mem_modify {α : Type} {f : α → α} {n : Nat} {l : List α} {x : α} (h : x ∈ l.modify f n) :
    x ∈ l ∨ ∃ y ∈ l, x = f y := by
  rw [List.modify_eq_set_get?] at h
  cases hy : l.get? n with
  | none => rw [hy] at h; exact .inl h
  | some y =>
      rw [hy] at h
      exact (List.mem_or_eq_of_mem_set h).imp_right fun e => ⟨y, List.get?_mem hy, e⟩

theorem addAccount_frame (call : AddAccountCall Pubkey Record) :
    (l.addAccount codec call).1.tasks = l.tasks ∧ (l.addAccount codec call).1.wire = l.wire ∧
      ((l.addAccount codec call).2 = .finished ∨ ∃ pc, (l.addAccount codec call).2 = .addAccount call pc) := by
  unfold addAccount
  split
  · exact ⟨rfl, rfl, .inl rfl⟩
  · dsimp only
    split
    · exact ⟨rfl, rfl, .inr ⟨_, rfl⟩⟩
    · unfold requestSubscription
      split
      · exact ⟨rfl, rfl, .inl rfl⟩
      · split
        · exact ⟨rfl, rfl, .inl rfl⟩
        · exact ⟨rfl, rfl, .inr ⟨_, rfl⟩⟩

theorem removeAccount_toRegistry (P : Pubkey) (oracleId : Option String) :
    (l.removeAccount codec P oracleId).toRegistry = (l.toRegistry.removeAccount codec P oracleId).1 := by
  unfold removeAccount; dsimp only; split <;> rfl

theorem removeAccount_frame (P : Pubkey) (oracleId : Option String) :
    (l.removeAccount codec P oracleId).tasks = l.tasks ∧
      ∃ calls, (l.removeAccount codec P oracleId).wire = l.wire ++ calls ∧
        ∀ conn requestId Q, .accountSubscribe conn requestId Q ∉ calls := by
  unfold removeAccount; dsimp only
  split
  · exact ⟨rfl, _, rfl, by simp⟩
  · exact ⟨rfl, [], by simp, by simp⟩

omit [DecidableEq Pubkey] in
/-- `fetch` spawns a fetch of keys that have a decoder. -/
theorem fetch_frame (P : Option Pubkey) (oracleId : Option String) :
    (l.fetch codec P oracleId).1 = l ∧ (l.fetch codec P oracleId).2.subscribing = [] ∧
      ∀ key ∈ (l.fetch codec P oracleId).2.fetchKeys codec, key ∈ l.decodeMap := by
  cases P with
  | none =>
      refine ⟨rfl, rfl, fun key hkey => ?_⟩
      simp only [fetch, fetchAllKeys, Task.fetchKeys, List.mem_filter] at hkey
      exact hkey.1
  | some P =>
      unfold fetch; dsimp only
      split
      · exact ⟨rfl, rfl, fun key hkey => by cases List.mem_singleton.mp hkey; assumption⟩
      · exact ⟨rfl, rfl, fun _ h => by cases h⟩

omit [DecidableEq Pubkey] in
theorem subscribe_frame :
    l.subscribe.1.tasks = l.tasks ∧ l.subscribe.1.wire = l.wire ∧
      (l.subscribe.2 = .finished ∨ l.subscribe.2 = .reader false .start) := by
  unfold subscribe; split
  · exact ⟨rfl, rfl, .inl rfl⟩
  · exact ⟨rfl, rfl, .inr rfl⟩

omit [DecidableEq Pubkey] in
/-- Cancelling marks a reader cancelled: no coroutine subscribes or fetches anything new. -/
theorem mem_cancelTask {index : Nat} {task' : Task Pubkey Record} (h : task' ∈ (l.cancelTask index).tasks) :
    ∃ task ∈ l.tasks, task'.subscribing = task.subscribing ∧ task'.fetchKeys codec = task.fetchKeys codec := by
  rcases mem_modify h with hmem | ⟨task, hmem, rfl⟩
  · exact ⟨task', hmem, rfl, rfl⟩
  · refine ⟨task, hmem, ?_⟩
    rcases task with _ | _ | _ | ⟨_, _ | _ | _ | _ | _ | _ | _⟩ | _ | _ <;> exact ⟨rfl, rfl⟩

omit [DecidableEq Pubkey] in
/-- Lines 637-673 of `unsubscribe()`: the task list kept, only unsubscribe calls logged. -/
theorem unsubscribeJoin_frame :
    l.unsubscribeJoin.1.tasks = l.tasks ∧
    (∃ calls, l.unsubscribeJoin.1.wire = l.wire ++ calls ∧
      ∀ conn requestId Q, .accountSubscribe conn requestId Q ∉ calls) ∧
    l.unsubscribeJoin.2.subscribing = [] ∧ l.unsubscribeJoin.2.fetchKeys codec = [] := by
  unfold unsubscribeJoin unsubscribeRelease; dsimp only
  split
  · exact ⟨rfl, ⟨[], by simp, by simp⟩, rfl, rfl⟩
  · split
    · rw [foldl_record_unsubscribeRaised]
      exact ⟨rfl, ⟨_, rfl, by simp⟩, rfl, rfl⟩
    · exact ⟨rfl, ⟨[], by simp, by simp⟩, rfl, rfl⟩

omit [DecidableEq Pubkey] in
/-- `unsubscribe()` marks the reader cancelled, logs only unsubscribe calls, and leaves a
coroutine that fetches and subscribes nothing. -/
theorem unsubscribe_frame :
    (∀ task' ∈ l.unsubscribe.1.tasks, ∃ task ∈ l.tasks,
      task'.subscribing = task.subscribing ∧ task'.fetchKeys codec = task.fetchKeys codec) ∧
    (∃ calls, l.unsubscribe.1.wire = l.wire ++ calls ∧
      ∀ conn requestId Q, .accountSubscribe conn requestId Q ∉ calls) ∧
    l.unsubscribe.2.subscribing = [] ∧ l.unsubscribe.2.fetchKeys codec = [] := by
  have hsame : ∀ task' ∈ l.tasks, ∃ task ∈ l.tasks,
      task'.subscribing = task.subscribing ∧ task'.fetchKeys codec = task.fetchKeys codec :=
    fun task' h => ⟨task', h, rfl, rfl⟩
  have hquiet : ∃ calls, l.wire = l.wire ++ calls ∧
      ∀ conn requestId Q, .accountSubscribe conn requestId Q ∉ calls :=
    ⟨[], (List.append_nil _).symm, by simp⟩
  unfold unsubscribe; dsimp only
  split <;> split
  · exact ⟨fun _ => mem_cancelTask codec _, hquiet, rfl, rfl⟩
  · exact ⟨hsame, hquiet, rfl, rfl⟩
  · obtain ⟨htasks, hwire⟩ := unsubscribeJoin_frame codec ({ l with running := false }.cancelTask ‹_›)
    exact ⟨fun _ h => mem_cancelTask codec _ (htasks ▸ h), hwire⟩
  · obtain ⟨htasks, hwire⟩ := unsubscribeJoin_frame codec { l with running := false }
    exact ⟨fun _ h => hsame _ (htasks ▸ h), hwire⟩

end Calls

/-! ## Steps -/

/-- What one step can do to the registry. -/
inductive StepEffect (l : EventLoop Pubkey Record) : Event Pubkey Record → Registry Pubkey Record → Prop
  | join (call : AddAccountCall Pubkey Record) (subscriptionId : Int) :
      l.pubkeyToSubscription.get? call.pubkey = some subscriptionId →
      StepEffect l (.addAccount call)
        (l.toRegistry.joinSubscription call (call.key codec) (call.decodeFn l.programDecode) subscriptionId)
  | register (call : AddAccountCall Pubkey Record) :
      l.pubkeyToSubscription.get? call.pubkey = none →
      StepEffect l (.addAccount call)
        (l.toRegistry.registerFresh call (call.key codec) (call.decodeFn l.programDecode))
  | registerRequest (call : AddAccountCall Pubkey Record) :
      l.pubkeyToSubscription.get? call.pubkey = none →
      StepEffect l (.addAccount call)
        ((l.toRegistry.registerFresh call (call.key codec) (call.decodeFn l.programDecode)).recordInflight
          call.pubkey call.oracleId).1
  | remove (P : Pubkey) (oracleId : Option String) :
      StepEffect l (.removeAccount P oracleId) (l.toRegistry.removeAccount codec P oracleId).1
  | keep (e : Event Pubkey Record) : StepEffect l e l.toRegistry
  | reset : StepEffect l .unsubscribe .init
  | resume (index : Nat) (outcome : Outcome Record) {task : Task Pubkey Record}
      {reg : Registry Pubkey Record} :
      l.tasks[index]? = some task → ResumeEffect codec l task reg → StepEffect l (.resume index outcome) reg

theorem addAccount_effect (call : AddAccountCall Pubkey Record) :
    StepEffect codec l (.addAccount call) (l.addAccount codec call).1.toRegistry := by
  unfold addAccount
  split
  · exact .join _ _ ‹_›
  · rename_i hnone
    dsimp only
    split
    · exact .register _ hnone
    · unfold requestSubscription
      split
      · exact .register _ hnone
      · by_cases hsub : call.pubkey ∈ (l.toRegistry.registerFresh call (call.key codec)
            (call.decodeFn l.programDecode)).pubkeyToSubscription
        · simp only [setRegistry_toRegistry, Registry.reserveRequest, if_pos hsub]
          exact .register _ hnone
        · simp only [setRegistry_toRegistry, Registry.reserveRequest, if_neg hsub]
          exact .registerRequest _ hnone

theorem unsubscribe_effect : StepEffect codec l .unsubscribe l.unsubscribe.1.toRegistry := by
  have hrelease : ∀ l₁ : EventLoop Pubkey Record, l₁.toRegistry = l.toRegistry →
      StepEffect codec l .unsubscribe l₁.unsubscribeRelease.1.toRegistry := by
    intro l₁ hreg
    unfold unsubscribeRelease; dsimp only; split
    · rw [foldl_record_unsubscribeRaised]; exact hreg ▸ .keep _
    · exact .reset
  have hjoin : ∀ l₁ : EventLoop Pubkey Record, l₁.toRegistry = l.toRegistry →
      StepEffect codec l .unsubscribe l₁.unsubscribeJoin.1.toRegistry := by
    intro l₁ hreg
    unfold unsubscribeJoin; split
    · exact hreg ▸ .keep _
    · exact hrelease l₁ hreg
  unfold unsubscribe; dsimp only
  split <;> split
  all_goals first | exact .keep _ | exact hjoin _ rfl

/-- Every step changes the registry as `StepEffect` says. -/
theorem step_effect {e : Event Pubkey Record} {l' : EventLoop Pubkey Record}
    (h : l.step codec e = some l') : StepEffect codec l e l'.toRegistry := by
  cases e with
  | addAccount call => cases h; exact addAccount_effect codec l call
  | removeAccount P oracleId => cases h; rw [removeAccount_toRegistry]; exact .remove _ _
  | fetch P oracleId => cases h; cases P <;> (try dsimp only [fetch]; try split) <;> exact .keep _
  | subscribe => cases h; unfold subscribe; split <;> exact .keep _
  | unsubscribe => cases h; exact unsubscribe_effect codec l
  | resume index outcome =>
      obtain ⟨_, _, htask, hp, rfl⟩ := step_resume_eq_some codec l h
      exact .resume _ _ htask (resumeTask_resumed codec l hp).registry

end EventLoop

end DriftSubscriber

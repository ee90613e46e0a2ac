import DriftSubscriber.Freshness

/-!
# What `unsubscribe()` leaves, and what it leaves running

`unsubscribe()` (lines 616-673) stops the loop, cancels the reader task, closes the socket,
waits for the reader task and clears every map.  `wait_for(self.task)` (line 639) returns, on
its timeout too, only once the reader is done, so the wait needs the reader's own moves: the
`CancelledError` that `cancel()` delivers at its await, then the closes its handlers wait for
(lines 491-510 and 527-546).  From every state in which `self.task` names the reader
coroutine, which every run keeps, these moves take `unsubscribe()` to its end: the subscriber
is left as `__init__` left it, and no frame is sent, the calls of `account_unsubscribe` of line
644 raising before anything goes out.

It cancels nothing else: a `fetch()` suspended in its `get_account_data_and_slot` call keeps its
place, and when it completes after the clear, `_update_data` (lines 548-554) writes its value
into the emptied `data_map`.  `get_data` then returns that value for a key that has no decoder
and no subscription left.
-/

namespace DriftSubscriber

namespace EventLoop

variable {Pubkey Record : Type} (codec : PubkeyCodec Pubkey)

/-! ## Frames of the calls -/

section Frames

variable (l : EventLoop Pubkey Record)

theorem cancelTask_getElem?_ne {index i : Nat} (h : index ≠ i) :
    (l.cancelTask index).tasks[i]? = l.tasks[i]? := by
  have hmodify : (l.cancelTask index).tasks[i]? = _ := List.getElem?_modify _ index l.tasks i
  simp [hmodify, h]

theorem cancelTask_getElem?_reader {i : Nat} {cancelled : Bool} {pc : ReaderPc Pubkey}
    (h : l.tasks[i]? = some (.reader cancelled pc)) :
    (l.cancelTask i).tasks[i]? = some (.reader true pc) := by
  have hmodify : (l.cancelTask i).tasks[i]? = _ := List.getElem?_modify _ i l.tasks i
  simp [hmodify, h]

theorem cancelTask_getElem?_finished {i : Nat} (h : l.tasks[i]? = some .finished) :
    (l.cancelTask i).tasks[i]? = some .finished := by
  have hmodify : (l.cancelTask i).tasks[i]? = _ := List.getElem?_modify _ i l.tasks i
  simp [hmodify, h]

theorem cancelTask_length (index : Nat) : (l.cancelTask index).tasks.length = l.tasks.length :=
  List.length_modify _ _ _

theorem spawn_getElem?_lt {p : EventLoop Pubkey Record × Task Pubkey Record} {i : Nat}
    (hi : i < p.1.tasks.length) : (spawn p).tasks[i]? = p.1.tasks[i]? :=
  List.getElem?_append_left hi

theorem unsubscribeRelease_of_ws_some {conn : Nat} (h : l.ws = some conn) :
    l.unsubscribeRelease =
      ({ l with
          task := none
          wire := l.wire ++ l.subscriptionMap.keys.map .unsubscribeRaised },
        .unsubscribe .closingAgain) := by
  unfold unsubscribeRelease; dsimp only; split
  · rw [foldl_record_unsubscribeRaised]
  · rename_i hnone; rw [h] at hnone; cases hnone

theorem unsubscribeRelease_of_ws_none (h : l.ws = none) :
    l.unsubscribeRelease = ({ l with task := none }.setRegistry .init, .finished) := by
  unfold unsubscribeRelease; dsimp only; split
  · rename_i hsome; rw [h] at hsome; cases hsome
  · rfl

variable [DecidableEq Pubkey]

theorem addAccount_task (call : AddAccountCall Pubkey Record) :
    (l.addAccount codec call).1.task = l.task := by
  unfold addAccount
  split
  · rfl
  · dsimp only
    split
    · rfl
    · unfold requestSubscription
      split
      · rfl
      · split <;> rfl

theorem removeAccount_task (P : Pubkey) (oracleId : Option String) :
    (l.removeAccount codec P oracleId).task = l.task := by
  unfold removeAccount; dsimp only; split <;> rfl

end Frames

/-! ## `self.task` names the reader -/

/-- `self.task` names the reader coroutine: a reader, or a task that is done. -/
def ReaderSlot (l : EventLoop Pubkey Record) : Prop :=
  ∀ r, l.task = some r →
    (∃ cancelled pc, l.tasks[r]? = some (.reader cancelled pc)) ∨ l.tasks[r]? = some .finished

section ReaderSlot

variable {l : EventLoop Pubkey Record}

theorem ReaderSlot.lt_length (h : l.ReaderSlot) {r : Nat} (hr : l.task = some r) :
    r < l.tasks.length := by
  rcases h r hr with ⟨_, _, e⟩ | e <;> exact (List.getElem?_eq_some_iff.mp e).1

/-- A state whose reader index is `l`'s, or unset, and whose task at that index is `l`'s
names the reader. -/
theorem ReaderSlot.of_agree {l' : EventLoop Pubkey Record} (h : l.ReaderSlot)
    (htask : l'.task = l.task ∨ l'.task = none)
    (hat : ∀ r, l.task = some r → l'.tasks[r]? = l.tasks[r]?) : l'.ReaderSlot := by
  intro r hr
  rcases htask with e | e <;> rw [e] at hr
  · rw [hat r hr]; exact h r hr
  · cases hr

theorem ReaderSlot.spawn (h : l.ReaderSlot) {l₁ : EventLoop Pubkey Record} (htask : l₁.task = l.task)
    (htasks : l₁.tasks = l.tasks) (task : Task Pubkey Record) : (spawn (l₁, task)).ReaderSlot :=
  h.of_agree (.inl htask) fun r hr => by
    rw [spawn_getElem?_lt (htasks ▸ h.lt_length hr), htasks]

/-- `task.cancel()` keeps a reader a reader. -/
theorem ReaderSlot.cancelTask (h : l.ReaderSlot) (index : Nat) : (l.cancelTask index).ReaderSlot := by
  intro r hr
  by_cases hi : index = r
  · subst hi
    rcases h index hr with ⟨_, pc, e⟩ | e
    · exact .inl ⟨true, pc, cancelTask_getElem?_reader l e⟩
    · exact .inr (cancelTask_getElem?_finished l e)
  · rw [cancelTask_getElem?_ne l hi]
    exact h r hr

/-- `unsubscribe()` up to its first await: the reader cancelled, and `self.task` kept, or still
unset. -/
theorem ReaderSlot.unsubscribe (h : l.ReaderSlot) : (EventLoop.spawn l.unsubscribe).ReaderSlot := by
  obtain ⟨⟨reg, programDecode, ws, task, running⟩, tasks, connections, wire⟩ := l
  cases task with
  | none => cases ws <;> exact fun _ hr => by cases hr
  | some r =>
      have hcancel := ReaderSlot.cancelTask
        (l := ⟨⟨reg, programDecode, ws, some r, false⟩, tasks, connections, wire⟩) h r
      cases ws <;> exact hcancel.spawn rfl rfl _

variable [DecidableEq Pubkey]

/-- Every step keeps `self.task` naming the reader: only `subscribe` sets it, to the reader it
creates, only `unsubscribe()` resets it, and a reader resumed stays a reader or is done. -/
theorem ReaderSlot.step (h : l.ReaderSlot) {e : Event Pubkey Record} {l' : EventLoop Pubkey Record}
    (hstep : l.step codec e = some l') : l'.ReaderSlot := by
  cases e with
  | addAccount call =>
      cases hstep
      exact h.spawn (addAccount_task codec l call) (addAccount_frame codec l call).1 _
  | removeAccount P oracleId =>
      cases hstep
      exact h.of_agree (.inl (removeAccount_task codec l P oracleId))
        fun r _ => by rw [(removeAccount_frame codec l P oracleId).1]
  | fetch P oracleId =>
      cases hstep
      have hfetch := (fetch_frame codec l P oracleId).1
      exact h.spawn (congrArg (·.task) hfetch) (congrArg (·.tasks) hfetch) _
  | subscribe =>
      cases hstep
      unfold subscribe
      split
      · exact h.spawn rfl rfl _
      · intro r hr
        cases hr
        exact .inl ⟨false, .start, List.getElem?_concat_length _ _⟩
  | unsubscribe => cases hstep; exact h.unsubscribe
  | resume index outcome =>
      obtain ⟨task, p, htask, hp, rfl⟩ := step_resume_eq_some codec l hstep
      have hres := resumeTask_resumed codec l hp
      intro r hr
      change p.1.task = some r at hr
      have hr' : l.task = some r := by
        rcases hres.readerTask with e | e <;> rw [e] at hr
        · exact hr
        · cases hr
      show (∃ cancelled pc, (p.1.tasks.set index p.2)[r]? = _) ∨ (p.1.tasks.set index p.2)[r]? = _
      rw [hres.tasks]
      by_cases hi : index = r
      · -- the reader itself resumed: it waits at its next await, or is done
        subst hi
        rw [List.getElem?_set_self (h.lt_length hr')]
        rcases h index hr' with ⟨cancelled, pc, e⟩ | e <;> rw [htask] at e <;> cases e
        · rw [resumeTask_reader] at hp
          obtain ⟨⟨_, q⟩, -, rfl⟩ := Option.map_eq_some'.mp hp
          cases q with
          | none => exact .inr rfl
          | some pc' => exact .inl ⟨cancelled, pc', rfl⟩
        · cases outcome <;> cases hp
      · rw [List.getElem?_set_ne hi]
        exact h r hr'

end ReaderSlot

variable [DecidableEq Pubkey]

/-- In every state reachable from `__init__`, `self.task` names the reader coroutine. -/
theorem Reachable.readerSlot {l : EventLoop Pubkey Record} (h : Reachable codec l) : l.ReaderSlot := by
  induction h with
  | init => exact fun _ hr => by cases hr
  | step _ _ hstep ih => exact ih.step codec hstep

/-! ## The cancelled reader unwinds -/

/-- Where a reader that took a `CancelledError` waits while it unwinds: on the close that
leaves the `async with` (line 210), on the close of a handler (lines 497 and 533), or nowhere,
done. -/
inductive Unwinding : Option (ReaderPc Pubkey) → Prop
  | done : Unwinding none
  | closing (conn : Nat) : Unwinding (some (.closing conn .cancel))
  | closingOnCancel (outer : Bool) : Unwinding (some (.closingOnCancel outer))

section Handlers

variable (l : EventLoop Pubkey Record)

omit [DecidableEq Pubkey] in
theorem outerCancelHandler_unwinding :
    l.outerCancelHandler.2 = none ∨ l.outerCancelHandler.2 = some (.closingOnCancel true) := by
  unfold outerCancelHandler; dsimp only; split
  · exact .inr rfl
  · exact .inl rfl

omit [DecidableEq Pubkey] in
theorem cancelHandler_unwinding :
    l.cancelHandler.2 = none ∨ l.cancelHandler.2 = some (.closingOnCancel false) := by
  unfold cancelHandler; dsimp only; split
  · exact .inr rfl
  · exact .inl rfl

omit [DecidableEq Pubkey] in
theorem closeAfterCancel_done (outer : Bool) : (l.closeAfterCancel outer).2 = none := by
  cases outer <;> rfl

omit [DecidableEq Pubkey] in
theorem cancelAt_unwinding (pc : ReaderPc Pubkey) : Unwinding (l.cancelAt pc).2 := by
  have houter : Unwinding l.outerCancelHandler.2 := by
    rcases outerCancelHandler_unwinding l with e | e <;> rw [e]
    · exact .done
    · exact .closingOnCancel true
  cases pc with
  | start => exact .done
  | connecting | closing =>
      rcases cancelHandler_unwinding l with e | e <;> show Unwinding l.cancelHandler.2 <;> rw [e]
      · exact .done
      · exact .closingOnCancel false
  | sending conn => exact .closing conn
  | receiving conn => exact .closing conn
  | sleeping => exact houter
  | closingOnCancel outer => cases outer; exact houter; exact .done

/-! A handler never restarts the loop. -/

omit [DecidableEq Pubkey] in
theorem outerCancelHandler_stops : l.outerCancelHandler.1.running = false := by
  unfold outerCancelHandler; dsimp only; split <;> rfl

omit [DecidableEq Pubkey] in
theorem cancelHandler_stops : l.cancelHandler.1.running = false := by
  unfold cancelHandler; dsimp only; split
  · rfl
  · exact outerCancelHandler_stops _

omit [DecidableEq Pubkey] in
theorem closeAfterCancel_stops (outer : Bool) (h : l.running = false) :
    (l.closeAfterCancel outer).1.running = false := by
  cases outer
  · exact outerCancelHandler_stops ({ l with ws := none }.setRegistry l.toRegistry.clearConnection)
  · exact h

omit [DecidableEq Pubkey] in
theorem cancelAt_stops (pc : ReaderPc Pubkey) (h : l.running = false) :
    (l.cancelAt pc).1.running = false := by
  cases pc with
  | start | sending | receiving => exact h
  | connecting | closing => exact cancelHandler_stops l
  | sleeping => exact outerCancelHandler_stops l
  | closingOnCancel outer => cases outer; exact outerCancelHandler_stops l; exact h

end Handlers

/-- `l'` is `l` after moves of the reader at index `r` alone: the other coroutines, `self.task`
and the log are as they were, and a stopped loop stays stopped. -/
structure ReaderMoves (r : Nat) (l l' : EventLoop Pubkey Record) : Prop where
  tasks : ∀ i, i ≠ r → l'.tasks[i]? = l.tasks[i]?
  task : l'.task = l.task
  wire : l'.wire = l.wire
  stopped : l.running = false → l'.running = false

omit [DecidableEq Pubkey] in
theorem ReaderMoves.refl (r : Nat) (l : EventLoop Pubkey Record) : ReaderMoves r l l :=
  ⟨fun _ _ => rfl, rfl, rfl, id⟩

omit [DecidableEq Pubkey] in
theorem ReaderMoves.trans {r : Nat} {l₁ l₂ l₃ : EventLoop Pubkey Record} (h₁ : ReaderMoves r l₁ l₂)
    (h₂ : ReaderMoves r l₂ l₃) : ReaderMoves r l₁ l₃ :=
  ⟨fun i hi => (h₂.tasks i hi).trans (h₁.tasks i hi), h₂.task.trans h₁.task,
    h₂.wire.trans h₁.wire, h₂.stopped ∘ h₁.stopped⟩

section Reader

variable {m : EventLoop Pubkey Record} {r : Nat}

/-- A quiet move of a cancelled reader is one step of the loop. -/
theorem cancelledReader_step {pc : ReaderPc Pubkey} {outcome : Outcome Record}
    {p : EventLoop Pubkey Record × Option (ReaderPc Pubkey)} (hr : m.tasks[r]? = some (.reader true pc))
    (hp : m.resumeReader codec true pc outcome = some p) (hq : Quiet m p)
    (hstop : m.running = false → p.1.running = false) :
    ∃ m', m.step codec (.resume r outcome) = some m' ∧ ReaderMoves r m m' ∧
      m'.tasks[r]? = some (readerTask true p.2) := by
  have hlt : r < p.1.tasks.length := hq.tasks ▸ (List.getElem?_eq_some_iff.mp hr).1
  rw [step_resume codec m hr, resumeTask_reader, hp]
  refine ⟨_, rfl, ⟨fun i hi => ?_, hq.task, hq.wire, hstop⟩, List.getElem?_set_self hlt⟩
  show (p.1.tasks.set r _)[i]? = _
  rw [List.getElem?_set_ne (Ne.symm hi), hq.tasks]

/-- A reader unwinding a `CancelledError` is done once at most two closes have completed. -/
theorem Unwinding.finishes {q : Option (ReaderPc Pubkey)} (hq : Unwinding q)
    (hr : m.tasks[r]? = some (readerTask true q)) :
    ∃ k ≤ 2, ∃ m', m.run codec (List.replicate k (.resume r .completed)) = some m' ∧
      ReaderMoves r m m' ∧ m'.tasks[r]? = some .finished := by
  -- the close of a handler (lines 497 and 533) ends the reader
  have hclose : ∀ {m : EventLoop Pubkey Record} outer,
      m.tasks[r]? = some (.reader true (.closingOnCancel outer)) →
      ∃ m', m.step codec (.resume r .completed) = some m' ∧ ReaderMoves r m m' ∧
        m'.tasks[r]? = some .finished := fun {m} outer hm => by
    obtain ⟨m', hstep, hmoves, hm'⟩ := cancelledReader_step codec hm
      (rfl : m.resumeReader codec true (.closingOnCancel outer) .completed = some (m.closeAfterCancel outer))
      (closeAfterCancel_quiet m outer) (closeAfterCancel_stops m outer)
    exact ⟨m', hstep, hmoves, by rw [hm', closeAfterCancel_done]; rfl⟩
  cases hq with
  | done => exact ⟨0, by omega, m, rfl, .refl r m, hr⟩
  | closingOnCancel outer =>
      obtain ⟨m', hstep, hmoves, hm'⟩ := hclose outer hr
      exact ⟨1, by omega, m', by rw [List.replicate, run_cons, hstep]; rfl, hmoves, hm'⟩
  | closing conn =>
      -- the close that leaves the `async with`, then the handler of line 491
      obtain ⟨m₁, hstep₁, hmoves₁, hm₁⟩ := cancelledReader_step codec hr
        (rfl : m.resumeReader codec true (.closing conn .cancel) .completed = some m.cancelHandler)
        (cancelHandler_quiet m) fun _ => cancelHandler_stops m
      rcases cancelHandler_unwinding m with e | e <;> rw [e] at hm₁
      · exact ⟨1, by omega, m₁, by rw [List.replicate, run_cons, hstep₁]; rfl, hmoves₁, hm₁⟩
      · obtain ⟨m', hstep, hmoves, hm'⟩ := hclose false hm₁
        refine ⟨2, le_refl 2, m', ?_, hmoves₁.trans hmoves, hm'⟩
        rw [List.replicate, run_cons, hstep₁, Option.some_bind, List.replicate, run_cons, hstep]
        rfl

/-- Line 491 and its siblings: a reader that `cancel()` reached takes the `CancelledError` at its
await and runs its handlers to their end. -/
theorem cancelledReader_finishes {pc : ReaderPc Pubkey} (hr : m.tasks[r]? = some (.reader true pc)) :
    ∃ k ≤ 2, ∃ m', m.run codec (.resume r .cancelled :: List.replicate k (.resume r .completed)) = some m' ∧
      ReaderMoves r m m' ∧ m'.tasks[r]? = some .finished := by
  obtain ⟨m₁, hstep, hmoves₁, hm₁⟩ := cancelledReader_step codec hr
    (resumeReader_cancelled codec m true pc) (cancelAt_quiet m pc) (cancelAt_stops m pc)
  obtain ⟨k, hk, m', hrun, hmoves, hm'⟩ := (cancelAt_unwinding m pc).finishes codec hm₁
  exact ⟨k, hk, m', by rw [run_cons, hstep]; exact hrun, hmoves₁.trans hmoves, hm'⟩

end Reader

/-! ## `unsubscribe()` runs to its end -/

/-- What `unsubscribe()` leaves once its coroutine, at index `n`, is done: the subscriber as
`__init__` left it, and after the log `wire` only calls of `account_unsubscribe`, which raise. -/
structure Unsubscribed (n : Nat) (wire : List (WireCall Pubkey)) (l : EventLoop Pubkey Record) :
    Prop where
  registry : l.toRegistry = .init
  ws : l.ws = none
  task : l.task = none
  running : l.running = false
  done : l.tasks[n]? = some .finished
  raised : ∃ sids : List Int, l.wire = wire ++ sids.map .unsubscribeRaised

/-- Lines 641-673 from the coroutine at index `n`, resumed: `self.task` reset, then with a socket
left the calls of `account_unsubscribe`, which raise, and the close of line 652, then the clear
of every map. -/
theorem released_finishes {m : EventLoop Pubkey Record} {n : Nat} {pc : UnsubscribePc}
    (hn : m.tasks[n]? = some (.unsubscribe pc))
    (hrelease : m.resumeTask codec (.unsubscribe pc) .completed = some m.unsubscribeRelease)
    (hstop : m.running = false) :
    ∃ k ≤ 1, ∃ m', m.run codec (List.replicate (k + 1) (.resume n .completed)) = some m' ∧
      Unsubscribed n m.wire m' ∧ m'.tasks = m.tasks.set n .finished := by
  have hlt : n < m.tasks.length := (List.getElem?_eq_some_iff.mp hn).1
  cases hws : m.ws with
  | none =>
      let m₁ : EventLoop Pubkey Record :=
        { m with toRegistry := .init, task := none, tasks := m.tasks.set n .finished }
      have hstep : m.step codec (.resume n .completed) = some m₁ := by
        rw [step_resume codec m hn, hrelease, unsubscribeRelease_of_ws_none m hws]; rfl
      refine ⟨0, Nat.zero_le 1, m₁, by rw [List.replicate, run_cons, hstep]; rfl,
        ⟨rfl, hws, rfl, hstop, List.getElem?_set_self hlt, [], by simp [m₁]⟩, rfl⟩
  | some conn =>
      -- the calls of line 644 raise, then the close of line 652
      let m₁ : EventLoop Pubkey Record :=
        { m with
          task := none
          tasks := m.tasks.set n (.unsubscribe .closingAgain)
          wire := m.wire ++ m.subscriptionMap.keys.map .unsubscribeRaised }
      let m₂ : EventLoop Pubkey Record :=
        { m₁ with toRegistry := .init, ws := none, tasks := m₁.tasks.set n .finished }
      have hstep₁ : m.step codec (.resume n .completed) = some m₁ := by
        rw [step_resume codec m hn, hrelease, unsubscribeRelease_of_ws_some m hws]; rfl
      have hn₁ : m₁.tasks[n]? = some (.unsubscribe .closingAgain) := List.getElem?_set_self hlt
      have hstep₂ : m₁.step codec (.resume n .completed) = some m₂ := by
        rw [step_resume codec m₁ hn₁]; rfl
      have htasks : m₂.tasks = m.tasks.set n .finished := List.set_set _ _ _ _
      refine ⟨1, le_refl 1, m₂, ?_, ⟨rfl, rfl, rfl, hstop, htasks ▸ List.getElem?_set_self hlt, _, rfl⟩,
        htasks⟩
      rw [List.replicate, run_cons, hstep₁, Option.some_bind, List.replicate, run_cons, hstep₂]
      rfl

/-- Lines 637-673 while the coroutine at index `n` waits for the reader at `r`: the reader takes
its `CancelledError` and unwinds, the wait returns, and the coroutine releases the subscriber. -/
theorem joining_finishes {m : EventLoop Pubkey Record} {n r : Nat}
    (hn : m.tasks[n]? = some (.unsubscribe (.joining r))) (hrn : r ≠ n) (hstop : m.running = false)
    (hr : m.tasks[r]? = some .finished ∨ ∃ pc, m.tasks[r]? = some (.reader true pc)) :
    ∃ events, (∀ e ∈ events, e = .resume n .completed ∨ e = .resume r .cancelled ∨
        e = .resume r .completed) ∧ events.length ≤ 5 ∧
      ∃ m', m.run codec events = some m' ∧ Unsubscribed n m.wire m' ∧
        ∀ i, i ≠ n → i ≠ r → m'.tasks[i]? = m.tasks[i]? := by
  -- the reader runs to its end first
  obtain ⟨readerEvents, hreader, hlen, m₁, hrun₁, hmoves, hr₁⟩ : ∃ events,
      (∀ e ∈ events, e = .resume r .cancelled ∨ e = .resume r .completed) ∧ events.length ≤ 3 ∧
      ∃ m₁, m.run codec events = some m₁ ∧ ReaderMoves r m m₁ ∧ m₁.tasks[r]? = some .finished := by
    rcases hr with hr | ⟨pc, hr⟩
    · exact ⟨[], by simp, by simp, m, rfl, .refl r m, hr⟩
    · obtain ⟨k, hk, m₁, hrun, hmoves, hr₁⟩ := cancelledReader_finishes codec hr
      refine ⟨_, fun e he => ?_, by simp only [List.length_cons, List.length_replicate]; omega,
        m₁, hrun, hmoves, hr₁⟩
      rcases List.mem_cons.mp he with he | he
      · exact .inl he
      · exact .inr (List.eq_of_mem_replicate he)
  have hn₁ : m₁.tasks[n]? = some (.unsubscribe (.joining r)) := (hmoves.tasks n hrn.symm).trans hn
  obtain ⟨k, hk, m', hrun, hdone, htasks⟩ :=
    released_finishes codec hn₁ (resumeTask_joined codec m₁ hr₁) (hmoves.stopped hstop)
  refine ⟨readerEvents ++ List.replicate (k + 1) (.resume n .completed), fun e he => ?_, ?_, m', ?_,
    hmoves.wire ▸ hdone, fun i hin hir => ?_⟩
  · rcases List.mem_append.mp he with he | he
    · exact .inr (hreader e he)
    · exact .inl (List.eq_of_mem_replicate he)
  · simp only [List.length_append, List.length_replicate]; omega
  · rw [run_append, hrun₁]; exact hrun
  · rw [htasks, List.getElem?_set_ne (Ne.symm hin)]
    exact hmoves.tasks i hir

/-- `unsubscribe()` from a state in which `self.task` names the reader: its coroutine, at index
`l.tasks.length`, resumed at each of its awaits, and the reader's `CancelledError` and closes,
take it to its end, and no other coroutine moves. -/
theorem unsubscribe_run (l : EventLoop Pubkey Record) (hslot : l.ReaderSlot) :
    ∃ events, (∀ e ∈ events, e = .resume l.tasks.length .completed ∨
        ∃ r, l.task = some r ∧ (e = .resume r .cancelled ∨ e = .resume r .completed)) ∧
      events.length ≤ 6 ∧ ∃ l₁, l.run codec (.unsubscribe :: events) = some l₁ ∧
        Unsubscribed l.tasks.length l.wire l₁ ∧
        ∀ i < l.tasks.length, (∀ r, l.task = some r → i ≠ r) → l₁.tasks[i]? = l.tasks[i]? := by
  obtain ⟨⟨reg, programDecode, ws, task, running⟩, tasks, connections, wire⟩ := l
  dsimp only
  cases task with
  | none =>
      cases ws with
      | none =>
          -- no socket and no reader: the clear of lines 664-673 at once
          exact ⟨[], by simp, by simp, ⟨⟨.init, programDecode, none, none, false⟩,
            tasks ++ [Task.finished], connections, wire⟩, rfl,
            ⟨rfl, rfl, rfl, rfl, List.getElem?_concat_length _ _, [], by simp⟩,
            fun i hi _ => List.getElem?_append_left hi⟩
      | some conn =>
          -- the close of line 627, then lines 641-673
          obtain ⟨k, hk, l₁, hrun, hdone, htasks⟩ := released_finishes codec
            (m := ⟨⟨reg, programDecode, some conn, none, false⟩,
              tasks ++ [Task.unsubscribe UnsubscribePc.closing], connections, wire⟩) (List.getElem?_concat_length _ _) rfl rfl
          refine ⟨List.replicate (k + 1) (.resume tasks.length .completed),
            fun e he => .inl (List.eq_of_mem_replicate he),
            by simp only [List.length_replicate]; omega, l₁, hrun, hdone, fun i hi _ => ?_⟩
          rw [htasks, List.getElem?_set_ne (by omega)]
          exact List.getElem?_append_left hi
  | some r =>
      -- the reader at `r` after `task.cancel()`
      let lc : EventLoop Pubkey Record :=
        EventLoop.cancelTask ⟨⟨reg, programDecode, ws, some r, false⟩, tasks, connections, wire⟩ r
      have hlen : lc.tasks.length = tasks.length := cancelTask_length _ r
      have hlt : r < lc.tasks.length := hlen ▸ hslot.lt_length rfl
      have hreader : lc.tasks[r]? = some .finished ∨ ∃ pc, lc.tasks[r]? = some (.reader true pc) := by
        rcases hslot r rfl with ⟨_, pc, e⟩ | e
        · exact .inr ⟨pc, cancelTask_getElem?_reader _ e⟩
        · exact .inl (cancelTask_getElem?_finished _ e)
      have hevents : ∀ events : List (Event Pubkey Record), (∀ e ∈ events,
          e = .resume tasks.length .completed ∨ e = .resume r .cancelled ∨ e = .resume r .completed) →
          ∀ e ∈ events, e = .resume tasks.length .completed ∨
            ∃ r', some r = some r' ∧ (e = .resume r' .cancelled ∨ e = .resume r' .completed) :=
        fun _ h e he => (h e he).imp_right fun h' => ⟨r, rfl, h'⟩
      have hkeep : ∀ (t : Task Pubkey Record), ∀ i < tasks.length, (∀ r', some r = some r' → i ≠ r') →
          (spawn (lc, t)).tasks[i]? = tasks[i]? := fun _ i hi hir => by
        rw [spawn_getElem?_lt (hlen ▸ hi)]
        exact cancelTask_getElem?_ne _ (hir r rfl).symm
      cases ws with
      | none =>
          -- no socket: the wait of line 639 at once
          obtain ⟨events, hmem, hcount, l₁, hrun, hdone, hother⟩ := joining_finishes codec
            (m := spawn (lc, .unsubscribe (.joining r))) (n := tasks.length)
            (hlen ▸ List.getElem?_concat_length _ _) (by omega) rfl
            (by rw [spawn_getElem?_lt hlt]; exact hreader)
          refine ⟨events, hevents events hmem, by omega, l₁, hrun, hdone, fun i hi hir => ?_⟩
          rw [hother i (by omega) (hir r rfl)]
          exact hkeep _ i hi hir
      | some conn =>
          -- the close of line 627, then the wait of line 639
          let m₀ : EventLoop Pubkey Record := spawn (lc, .unsubscribe .closing)
          let m₁ : EventLoop Pubkey Record :=
            { m₀ with tasks := m₀.tasks.set tasks.length (.unsubscribe (.joining r)) }
          have hlt₀ : tasks.length < m₀.tasks.length := by
            show tasks.length < (lc.tasks ++ _).length
            rw [List.length_append, hlen]; exact Nat.lt_succ_self _
          have hstep : m₀.step codec (.resume tasks.length .completed) = some m₁ := by
            rw [step_resume codec m₀ (hlen ▸ List.getElem?_concat_length _ _)]; rfl
          obtain ⟨events, hmem, hcount, l₁, hrun, hdone, hother⟩ := joining_finishes codec
            (m := m₁) (n := tasks.length) (List.getElem?_set_self hlt₀) (by omega) rfl
            (by rw [List.getElem?_set_ne (by omega), spawn_getElem?_lt hlt]; exact hreader)
          refine ⟨.resume tasks.length .completed :: events, fun e he => ?_, ?_, l₁, ?_, hdone,
            fun i hi hir => ?_⟩
          · rcases List.mem_cons.mp he with he | he
            · exact .inl he
            · exact hevents events hmem e he
          · simp only [List.length_cons]; omega
          · show m₀.run codec (_ :: events) = some l₁
            rw [run_cons, hstep]; exact hrun
          · rw [hother i (by omega) (hir r rfl)]
            show (m₀.tasks.set tasks.length _)[i]? = _
            rw [List.getElem?_set_ne (by omega)]
            exact hkeep _ i hi hir

/-- `unsubscribe()` always finishes and resets the subscriber, from every state in which
`self.task` names the reader coroutine (every reachable state, `Reachable.readerSlot`).  Its
coroutine, resumed at each of its awaits, with the reader taking the `CancelledError` that
`cancel()` delivers and completing the closes of its handlers, in at most six resumptions in
all, ends with no socket, no reader task, `_running` false and every map as `__init__` left
it; the calls of `account_unsubscribe` it makes raise, so no frame reaches the server. -/
theorem unsubscribe_resets (l : EventLoop Pubkey Record) (hslot : l.ReaderSlot) :
    ∃ events, (∀ e ∈ events, e = .resume l.tasks.length .completed ∨
        ∃ r, l.task = some r ∧ (e = .resume r .cancelled ∨ e = .resume r .completed)) ∧
      events.length ≤ 6 ∧ ∃ l₁, l.run codec (.unsubscribe :: events) = some l₁ ∧
        l₁.toRegistry = .init ∧ l₁.ws = none ∧ l₁.task = none ∧ l₁.running = false ∧
        l₁.isSubscribed = false ∧ l₁.tasks[l.tasks.length]? = some .finished ∧
        ∃ sids : List Int, l₁.wire = l.wire ++ sids.map .unsubscribeRaised := by
  obtain ⟨events, hmem, hcount, l₁, hrun, hdone, -⟩ := unsubscribe_run codec l hslot
  exact ⟨events, hmem, hcount, l₁, hrun, hdone.registry, hdone.ws, hdone.task, hdone.running,
    by simp [isSubscribed, hdone.ws], hdone.done, hdone.raised⟩

/-- A fetch that completes once the maps are cleared writes its value under its key. -/
theorem fetch_after_reset {s : EventLoop Pubkey Record} (hreset : s.toRegistry = .init) {i : Nat}
    {P : Pubkey} {key : String} (hfetch : s.tasks[i]? = some (.fetchOne P key)) (d : DataAndSlot Record) :
    ∃ s', s.step codec (.resume i (.fetched (.ok (some d)))) = some s' ∧
      s'.toRegistry.getData codec (.inr key) = some d ∧ s'.decodeMap = .empty ∧ s'.subscriptionMap = .empty := by
  rw [step_resume codec s hfetch]
  refine ⟨_, rfl, ?_, congrArg Registry.decodeMap hreset, congrArg Registry.subscriptionMap hreset⟩
  show ((mergeInto s.dataMap key (some d)).get? key).join = some d
  rw [mergeInto_get?, if_pos rfl]
  simp [hreset, Registry.init, mergeEntry, Dict.get?_empty]

/-- `unsubscribe()` does not stop a `fetch()` in flight.  From every state in which `self.task`
names the reader and a fetch of `key` is pending, `unsubscribe()` and its coroutine run to their
end, with the reader's own moves, and clear every map; the fetch then completes, and
`get_data(key)` returns its value though no decoder and no subscription is left. -/
theorem fetch_outlives_unsubscribe (l : EventLoop Pubkey Record) (hslot : l.ReaderSlot) {i : Nat}
    {P : Pubkey} {key : String} (hfetch : l.tasks[i]? = some (.fetchOne P key)) (d : DataAndSlot Record) :
    ∃ events, (∀ e ∈ events, e = .resume l.tasks.length .completed ∨
        ∃ r, l.task = some r ∧ (e = .resume r .cancelled ∨ e = .resume r .completed)) ∧
      ∃ l₁ l₂, l.run codec (.unsubscribe :: events) = some l₁ ∧
        l₁.toRegistry = .init ∧ l₁.tasks[l.tasks.length]? = some .finished ∧
        l₁.step codec (.resume i (.fetched (.ok (some d)))) = some l₂ ∧
        l₂.toRegistry.getData codec (.inr key) = some d ∧ l₂.decodeMap = .empty ∧
        l₂.subscriptionMap = .empty := by
  obtain ⟨events, hmem, -, l₁, hrun, hdone, hkeep⟩ := unsubscribe_run codec l hslot
  have hi : i < l.tasks.length := (List.getElem?_eq_some_iff.mp hfetch).1
  -- the cancel of line 621 reaches the reader only
  have hne : ∀ r, l.task = some r → i ≠ r := fun r hr hir => by
    subst hir
    rcases hslot i hr with ⟨_, _, e⟩ | e <;> rw [hfetch] at e <;> cases e
  obtain ⟨l₂, hstep, hdata, hdecode, hsubscription⟩ :=
    fetch_after_reset codec hdone.registry ((hkeep i hi hne).trans hfetch) d
  exact ⟨events, hmem, l₁, l₂, hrun, hdone.registry, hdone.done, hstep, hdata, hdecode, hsubscription⟩

end EventLoop

/-- `decodingLoop` reading on socket `0`, with a `fetch()` of `ADDR1` in flight. -/
def fetchingLoop : EventLoop SampleAddress Payload :=
  { decodingLoop with
    ws := some 0, task := some 0, running := true, connections := 1
    tasks := [.reader false (.receiving 0), .fetchOne .addr1 "ADDR1"] }

theorem fetchingLoop_readerSlot : fetchingLoop.ReaderSlot := fun r hr => by
  cases hr
  exact .inl ⟨false, .receiving 0, rfl⟩

theorem unsubscribe_resets_sample :
    fetchingLoop.ReaderSlot ∧
      ∃ events, (∀ e ∈ events, e = .resume 2 .completed ∨
          ∃ r, fetchingLoop.task = some r ∧ (e = .resume r .cancelled ∨ e = .resume r .completed)) ∧
        events.length ≤ 6 ∧ ∃ l₁, fetchingLoop.run sampleCodec (.unsubscribe :: events) = some l₁ ∧
          l₁.toRegistry = .init ∧ l₁.ws = none ∧ l₁.task = none ∧ l₁.running = false ∧
          l₁.isSubscribed = false ∧ l₁.tasks[2]? = some .finished ∧
          ∃ sids : List Int, l₁.wire = fetchingLoop.wire ++ sids.map .unsubscribeRaised :=
  ⟨fetchingLoop_readerSlot,
    EventLoop.unsubscribe_resets sampleCodec fetchingLoop fetchingLoop_readerSlot⟩

theorem fetch_outlives_unsubscribe_sample :
    fetchingLoop.ReaderSlot ∧ fetchingLoop.tasks[1]? = some (.fetchOne .addr1 "ADDR1") ∧
      ∃ events, (∀ e ∈ events, e = .resume 2 .completed ∨
          ∃ r, fetchingLoop.task = some r ∧ (e = .resume r .cancelled ∨ e = .resume r .completed)) ∧
        ∃ l₁ l₂, fetchingLoop.run sampleCodec (.unsubscribe :: events) = some l₁ ∧
          l₁.toRegistry = .init ∧ l₁.tasks[2]? = some .finished ∧
          l₁.step sampleCodec (.resume 1 (.fetched (.ok (some ⟨5, .bytes [9]⟩)))) = some l₂ ∧
          l₂.toRegistry.getData sampleCodec (.inr "ADDR1") = some ⟨5, .bytes [9]⟩ ∧
          l₂.decodeMap = .empty ∧ l₂.subscriptionMap = .empty :=
  have hfetch : fetchingLoop.tasks[1]? = some (.fetchOne .addr1 "ADDR1") := rfl
  ⟨fetchingLoop_readerSlot, hfetch, EventLoop.fetch_outlives_unsubscribe sampleCodec fetchingLoop
    fetchingLoop_readerSlot hfetch ⟨5, .bytes [9]⟩⟩

end DriftSubscriber

import Mathlib.Data.List.Basic

/-!
# The update loop of `DLOBSubscriber`

In `dlob/dlob_subscriber.py`, `subscribe` (lines 88-115) starts an `interval_loop` task that
refreshes `dlob` and emits `on_dlob_update` until it is cancelled, and `unsubscribe`
(lines 117-133) cancels the task that `interval_task` names.  `subscribe` tests
`interval_task` (line 97) before its first `await self.update_dlob()` (line 100) and sets it
only after (line 115), and `unsubscribe` never resets it.  So, in every run:

* `interval_task` names the last loop started, and a loop it no longer names is never
  cancelled (`run_keeps_earlier_loops`);
* once a loop has started, no later `subscribe` starts another: after `unsubscribe`, a
  subscriber that started one loop stays exactly as `unsubscribe` left it
  (`unsubscribe_silences_for_good`);
* `subscribe` calls that overlap each start a loop, and `unsubscribe` cancels only the
  last one; the others run in every continuation (`overlapping_subscribes_leak_loops`).
-/

namespace DriftSubscriber

/-- A `DLOBSubscriber` between two steps of the event loop: whether its config gave the
three sources that `subscribe` tests (lines 92-95), `dlob`, `interval_task` as an index
into `loops`, every `interval_loop` task started so far (`true` while it runs, `false` once
cancelled), the `subscribe` calls suspended in their first `update_dlob`, and the DLOBs
emitted through `on_dlob_update`. -/
structure DLOBSubscriber (Dlob : Type) where
  configured : Bool
  dlob : Option Dlob
  intervalTask : Option Nat
  loops : List Bool
  suspended : Nat
  emitted : List Dlob

namespace DLOBSubscriber

variable {Dlob : Type}

/-- `__init__` (lines 63-82).  Without a config `interval_task` is never set, which
`getattr(self, "interval_task", None)` reads as `None`. -/
def init (configured : Bool) : DLOBSubscriber Dlob := ⟨configured, none, none, [], 0, []⟩

/-- One step of the event loop: a call of `subscribe` or `unsubscribe`; a suspended
`subscribe` resuming from `update_dlob` with the DLOB, or `none` when it raised; a pass of
the interval loop `loop`, whose `update_dlob` returned a DLOB or raised. -/
inductive Event (Dlob : Type)
  | subscribe
  | updated (result : Option Dlob)
  | unsubscribe
  | loopPass (loop : Nat) (result : Option Dlob)

variable (s : DLOBSubscriber Dlob)

/-- Lines 88-100 up to the first await: without the sources, or with `interval_task` set,
the call returns at once. -/
def subscribe : DLOBSubscriber Dlob :=
  if s.configured = false ∨ s.intervalTask.isSome then s else { s with suspended := s.suspended + 1 }

/-- Lines 100-115 after the await: the DLOB is stored, and a new loop is started and named
by `interval_task`; when `update_dlob` raised, the exception leaves `subscribe`. -/
def updated : Option Dlob → DLOBSubscriber Dlob
  | none => { s with suspended := s.suspended - 1 }
  | some dlob =>
      { s with suspended := s.suspended - 1, dlob := some dlob,
               intervalTask := some s.loops.length, loops := s.loops ++ [true] }

/-- Lines 117-124: the task named by `interval_task` is cancelled; nothing is reset. -/
def unsubscribe : DLOBSubscriber Dlob :=
  match s.intervalTask with
  | some task => { s with loops := s.loops.set task false }
  | none => s

/-- Lines 107-113: one pass of a running loop.  A DLOB is stored and emitted; an exception
is printed and swallowed. -/
def loopPass : Option Dlob → DLOBSubscriber Dlob
  | some dlob => { s with dlob := some dlob, emitted := s.emitted ++ [dlob] }
  | none => s

/-- `none` for a step that cannot happen: a resume with no `subscribe` suspended, or a pass
of a loop that is not running. -/
def step : Event Dlob → Option (DLOBSubscriber Dlob)
  | .subscribe => some s.subscribe
  | .updated result => if s.suspended = 0 then none else some (s.updated result)
  | .unsubscribe => some s.unsubscribe
  | .loopPass loop result => if s.loops[loop]? = some true then some (s.loopPass result) else none

def run : DLOBSubscriber Dlob → List (Event Dlob) → Option (DLOBSubscriber Dlob)
  | s, [] => some s
  | s, e :: events => (s.step e).bind fun s' => s'.run events

inductive Reachable : DLOBSubscriber Dlob → Prop
  | init (configured : Bool) : Reachable (init configured)
  | step {s s' : DLOBSubscriber Dlob} (e : Event Dlob) : Reachable s → s.step e = some s' → Reachable s'

theorem run_cons (e : Event Dlob) (events : List (Event Dlob)) :
    s.run (e :: events) = (s.step e).bind fun s' => s'.run events := rfl

theorem run_append (events events' : List (Event Dlob)) :
    s.run (events ++ events') = (s.run events).bind fun s' => s'.run events' := by
  induction events generalizing s with
  | nil => rfl
  | cons e events ih => simp only [List.cons_append, run_cons, Option.bind_assoc, ih]

/-! ## What one step does to the loops -/

/-- A step leaves the loops and `interval_task` alone, cancels the loop `interval_task`
names, or, resuming a suspended `subscribe`, starts a loop and names it. -/
theorem step_loops {e : Event Dlob} {s' : DLOBSubscriber Dlob} (h : s.step e = some s') :
    s'.intervalTask = s.intervalTask ∧
        (s'.loops = s.loops ∨ ∃ task, s.intervalTask = some task ∧ s'.loops = s.loops.set task false) ∨
      s'.intervalTask = some s.loops.length ∧ s'.loops = s.loops ++ [true] := by
  cases e with
  | subscribe =>
      cases h
      unfold subscribe
      split_ifs <;> exact .inl ⟨rfl, .inl rfl⟩
  | updated result =>
      simp only [step] at h
      split_ifs at h
      cases h
      cases result
      · exact .inl ⟨rfl, .inl rfl⟩
      · exact .inr ⟨rfl, rfl⟩
  | unsubscribe =>
      cases h
      unfold unsubscribe
      split
      · exact .inl ⟨rfl, .inr ⟨_, ‹_›, rfl⟩⟩
      · exact .inl ⟨rfl, .inl rfl⟩
  | loopPass loop result =>
      simp only [step] at h
      split_ifs at h
      cases h
      cases result <;> exact .inl ⟨rfl, .inl rfl⟩

/-- `interval_task` names the last loop started, and is set once a loop has started. -/
def NamesLastLoop : Prop := ∀ task, s.intervalTask = some task ↔ task + 1 = s.loops.length

theorem NamesLastLoop.step {s : DLOBSubscriber Dlob} (hs : s.NamesLastLoop) {e : Event Dlob}
    {s' : DLOBSubscriber Dlob} (h : s.step e = some s') : s'.NamesLastLoop := by
  intro task
  rcases s.step_loops h with ⟨htask, hloops | ⟨_, -, hloops⟩⟩ | ⟨htask, hloops⟩
  · rw [htask, hloops, hs]
  · rw [htask, hloops, List.length_set, hs]
  · rw [htask, hloops, List.length_append, List.length_singleton, Option.some.injEq]
    omega

theorem Reachable.run {s s' : DLOBSubscriber Dlob} (h : Reachable s) :
    ∀ {events : List (Event Dlob)}, s.run events = some s' → Reachable s'
  | [], hrun => by cases hrun; exact h
  | e :: _, hrun => by
      obtain ⟨s₁, hstep, hrest⟩ := Option.bind_eq_some.mp hrun
      exact (Reachable.step e h hstep).run hrest

theorem Reachable.namesLastLoop {s : DLOBSubscriber Dlob} (h : Reachable s) : s.NamesLastLoop := by
  induction h with
  | init => intro task; simp [DLOBSubscriber.init]
  | step _ _ hstep ih => exact ih.step hstep

/-- A running loop that `interval_task` no longer names stays running, and still not named. -/
theorem step_keeps_earlier_loop {s : DLOBSubscriber Dlob} (hs : s.NamesLastLoop) {i : Nat}
    (hi : i + 1 < s.loops.length) (hrun : s.loops[i]? = some true) {e : Event Dlob}
    {s' : DLOBSubscriber Dlob} (h : s.step e = some s') :
    i + 1 < s'.loops.length ∧ s'.loops[i]? = some true := by
  rcases s.step_loops h with ⟨-, hloops | ⟨task, htask, hloops⟩⟩ | ⟨-, hloops⟩
  · rw [hloops]; exact ⟨hi, hrun⟩
  · have hne : task ≠ i := by have := (hs task).mp htask; omega
    rw [hloops, List.length_set, List.getElem?_set_ne hne]
    exact ⟨hi, hrun⟩
  · rw [hloops, List.length_append, List.getElem?_append_left (by omega)]
    exact ⟨by omega, hrun⟩

/-- In every continuation, a running loop that `interval_task` no longer names is never
cancelled. -/
theorem run_keeps_earlier_loops (events : List (Event Dlob)) :
    ∀ {s s' : DLOBSubscriber Dlob}, s.NamesLastLoop → s.run events = some s' →
      ∀ i, i + 1 < s.loops.length → s.loops[i]? = some true → s'.loops[i]? = some true := by
  induction events with
  | nil => intro s s' _ h i _ hrun; cases h; exact hrun
  | cons e events ih =>
      intro s s' hs h i hi hrun
      obtain ⟨s₁, hstep, hrest⟩ := Option.bind_eq_some.mp h
      obtain ⟨hi₁, hrun₁⟩ := step_keeps_earlier_loop hs hi hrun hstep
      exact ih (hs.step hstep) hrest i hi₁ hrun₁

/-! ## A stopped subscriber -/

theorem set_false_of_not_running (loops : List Bool) {task : Nat} (h : loops[task]? ≠ some true) :
    loops.set task false = loops := by
  refine List.ext_getElem? fun j => ?_
  rw [List.getElem?_set]
  split_ifs with hj hlt
  · subst hj
    rw [List.getElem?_eq_getElem hlt] at h ⊢
    simpa using h
  · subst hj
    exact (List.getElem?_eq_none (Nat.le_of_not_lt hlt)).symm
  · rfl

/-- With a loop started, no `subscribe` suspended and no loop running, every step leaves
the subscriber as it is: `subscribe` returns at once and `unsubscribe` cancels a stopped
task. -/
theorem step_stopped {s : DLOBSubscriber Dlob} (hstarted : s.intervalTask.isSome)
    (hidle : s.suspended = 0) (hstopped : ∀ i : Nat, s.loops[i]? ≠ some true) {e : Event Dlob}
    {s' : DLOBSubscriber Dlob} (h : s.step e = some s') : s' = s := by
  cases e with
  | subscribe => cases h; simp [subscribe, hstarted]
  | updated => simp [step, hidle] at h
  | unsubscribe =>
      cases h
      unfold unsubscribe
      split
      · rw [set_false_of_not_running _ (hstopped _)]
      · rfl
  | loopPass loop => simp [step, hstopped loop] at h

theorem run_stopped {s s' : DLOBSubscriber Dlob} (hstarted : s.intervalTask.isSome)
    (hidle : s.suspended = 0) (hstopped : ∀ i : Nat, s.loops[i]? ≠ some true) :
    ∀ {events : List (Event Dlob)}, s.run events = some s' → s' = s
  | [], h => by cases h; rfl
  | _ :: _, h => by
      obtain ⟨s₁, hstep, hrest⟩ := Option.bind_eq_some.mp h
      cases step_stopped hstarted hidle hstopped hstep
      exact run_stopped hstarted hidle hstopped hrest

/-- A subscriber that started one update loop and has no `subscribe` call in flight is
stopped for good by `unsubscribe`: whatever follows, `subscribe` calls included, it stays
exactly as `unsubscribe` left it, with its loop cancelled, its `dlob` kept and nothing
emitted. -/
theorem unsubscribe_silences_for_good {s s' : DLOBSubscriber Dlob} (hreach : Reachable s)
    (hone : s.loops.length = 1) (hidle : s.suspended = 0) {events : List (Event Dlob)}
    (hrun : s.run (.unsubscribe :: events) = some s') :
    s' = { s with loops := [false] } := by
  have htask : s.intervalTask = some 0 := (hreach.namesLastLoop 0).mpr hone.symm
  obtain ⟨b, hb⟩ : ∃ b, s.loops = [b] := List.length_eq_one.mp hone
  have hunsub : s.unsubscribe = { s with loops := [false] } := by
    simp only [unsubscribe, htask, hb]; rfl
  rw [run_cons, step, Option.some_bind, hunsub] at hrun
  refine run_stopped (by simp [htask]) hidle (fun i => ?_) hrun
  cases i <;> simp

/-! ## Overlapping calls of `subscribe` -/

/-- Calls of `subscribe` before any loop has started all suspend. -/
theorem run_subscribes (hconf : s.configured = true) (hnone : s.intervalTask = none) (n : Nat) :
    s.run (List.replicate n .subscribe) = some { s with suspended := s.suspended + n } := by
  induction n generalizing s with
  | zero => rfl
  | succ n ih =>
      have hsub : s.subscribe = { s with suspended := s.suspended + 1 } := by simp [subscribe, hconf, hnone]
      rw [List.replicate_succ, run_cons, step, Option.some_bind, hsub,
        ih { s with suspended := s.suspended + 1 } hconf hnone, Nat.add_assoc, Nat.add_comm 1 n]

/-- Each suspended `subscribe` whose `update_dlob` returns starts a loop and names it. -/
theorem run_updates (dlob : Dlob) (dlobs : List Dlob) (hsuspended : dlobs.length < s.suspended) :
    ∃ s', s.run ((dlob :: dlobs).map (.updated ∘ some)) = some s' ∧
      s'.loops = s.loops ++ List.replicate (dlobs.length + 1) true ∧
      s'.intervalTask = some (s.loops.length + dlobs.length) ∧ s'.suspended = s.suspended - (dlobs.length + 1) := by
  induction dlobs generalizing s dlob with
  | nil =>
      refine ⟨s.updated (some dlob), ?_, rfl, rfl, rfl⟩
      simp only [List.map_cons, List.map_nil, Function.comp, run_cons, step, if_neg (by omega : s.suspended ≠ 0)]
      rfl
  | cons dlob' dlobs ih =>
      have hsuspended₁ : (s.updated (some dlob)).suspended = s.suspended - 1 := rfl
      have hloops₁ : (s.updated (some dlob)).loops = s.loops ++ [true] := rfl
      obtain ⟨s', hrun, hloops, htask, hsusp⟩ :=
        ih (s.updated (some dlob)) dlob' (by rw [hsuspended₁]; simp only [List.length_cons] at hsuspended; omega)
      refine ⟨s', ?_, ?_, ?_, ?_⟩
      · rw [List.map_cons, run_cons, Function.comp_apply, step,
          if_neg (by simp at hsuspended; omega), Option.some_bind]
        exact hrun
      · rw [hloops, hloops₁]
        simp only [List.length_cons, List.replicate_succ, List.append_assoc, List.singleton_append]
      · rw [htask, hloops₁, List.length_append, List.length_singleton, List.length_cons]
        congr 1
        omega
      · rw [hsusp, hsuspended₁, List.length_cons]
        omega

/-- Calls of `subscribe` on a fresh subscriber with its sources that all suspend before any
resumes each start a loop once their `update_dlob` returns, and `unsubscribe` then cancels
only the last: every other loop runs in every continuation. -/
theorem overlapping_subscribes_leak_loops (d₀ d₁ : Dlob) (dlobs : List Dlob) :
    ∃ s, (init true).run (List.replicate (dlobs.length + 2) .subscribe ++
        (d₀ :: d₁ :: dlobs).map (.updated ∘ some) ++ [.unsubscribe]) = some s ∧
      s.loops = List.replicate (dlobs.length + 1) true ++ [false] ∧
      ∀ events s', s.run events = some s' →
        ∀ i, i < dlobs.length + 1 → s'.loops[i]? = some true := by
  have hsubscribes : (init true : DLOBSubscriber Dlob).run (List.replicate (dlobs.length + 2) .subscribe) =
      some ⟨true, none, none, [], dlobs.length + 2, []⟩ := by
    rw [run_subscribes _ rfl rfl]
    simp [init]
  obtain ⟨s₂, hupdates, hloops, htask, -⟩ :=
    run_updates (⟨true, none, none, [], dlobs.length + 2, []⟩ : DLOBSubscriber Dlob) d₀ (d₁ :: dlobs) (by simp)
  have hloops₃ : s₂.unsubscribe.loops = List.replicate (dlobs.length + 1) true ++ [false] := by
    simp only [unsubscribe, htask, hloops, List.nil_append, List.length_cons, List.length_nil, Nat.zero_add]
    rw [List.replicate_succ' (dlobs.length + 1), List.set_append_right _ _ (by simp)]
    simp
  have hrun : (init true).run (List.replicate (dlobs.length + 2) .subscribe ++
      (d₀ :: d₁ :: dlobs).map (.updated ∘ some) ++ [.unsubscribe]) = some s₂.unsubscribe := by
    rw [run_append, run_append, hsubscribes, Option.some_bind, hupdates, Option.some_bind]
    rfl
  refine ⟨s₂.unsubscribe, hrun, hloops₃, fun events s' hrun' i hi => ?_⟩
  refine run_keeps_earlier_loops events ((Reachable.init true).run hrun).namesLastLoop hrun' i
    (by simp [hloops₃]; omega) ?_
  rw [hloops₃, List.getElem?_append_left (by simp; omega), List.getElem?_replicate, if_pos hi]

end DLOBSubscriber

/-- A subscriber with its sources after one `subscribe` that started its loop with the DLOB
`7`. -/
def subscribedOnce : DLOBSubscriber Nat := ⟨true, some 7, some 0, [true], 0, []⟩

/-- `unsubscribe`, then a `subscribe` that does nothing, then `unsubscribe` again. -/
theorem unsubscribe_silences_for_good_sample :
    DLOBSubscriber.Reachable subscribedOnce ∧ subscribedOnce.loops.length = 1 ∧
      subscribedOnce.suspended = 0 ∧
      subscribedOnce.run [.unsubscribe, .subscribe, .unsubscribe] =
        some { subscribedOnce with loops := [false] } ∧
      { subscribedOnce with loops := [false] } = { subscribedOnce with loops := [false] } := by
  have hreach : DLOBSubscriber.Reachable subscribedOnce :=
    .step (.updated (some 7)) (.step .subscribe (.init true) rfl) rfl
  have hrun : subscribedOnce.run [.unsubscribe, .subscribe, .unsubscribe] =
      some { subscribedOnce with loops := [false] } := rfl
  exact ⟨hreach, rfl, rfl, hrun, DLOBSubscriber.unsubscribe_silences_for_good hreach rfl rfl hrun⟩

end DriftSubscriber

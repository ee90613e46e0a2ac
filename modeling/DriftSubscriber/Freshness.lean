import DriftSubscriber.FanOut
import DriftSubscriber.Steps

/-!
# Cached values never go back between the application's calls

The reader and `fetch()` write `data_map` only through `_update_data` (lines 548-554), which
keeps a cached value unless the new one has a slot at least as high: a notification merges
into its fan-out keys (lines 429-460), a fetch merges what it read (lines 582 and 608-611),
and a lost connection clears only the connection's maps.  So while the application calls
neither `add_account`, `remove_account` nor `unsubscribe`, and none of their coroutines is
pending, any interleaving of the reader, fetches and `subscribe()` leaves under every key a
value of no lower slot, and `get_data` never goes back to an older value.

The exceptions are real: `add_account` writes its `initial_data` and its snapshot as they
are, `remove_account` drops keys, and `unsubscribe` clears every map.
-/

namespace DriftSubscriber

namespace Registry

variable {Pubkey Record : Type} (reg : Registry Pubkey Record)

theorem updateData_slotsRise (key : String) (newData : Option (DataAndSlot Record)) :
    SlotsRise reg (reg.updateData key newData) where
  oracleIds := rfl
  rise k d hd := by
    show ∃ d', ((mergeInto reg.dataMap key newData).get? k).join = some d' ∧ d.slot ≤ d'.slot
    rw [mergeInto_get?]
    split_ifs with hk
    · subst hk; exact mergeEntry_rises _ _ hd
    · exact ⟨d, hd, le_refl _⟩

theorem mergeGathered_slotsRise (keys : List String)
    (results : List (Except Unit (Option (DataAndSlot Record)))) :
    SlotsRise reg (reg.mergeGathered keys results) := by
  induction keys generalizing reg results with
  | nil => cases results <;> exact .of_eq reg rfl rfl
  | cons key keys ih =>
      rcases results with _ | ⟨_ | data, results⟩
      · exact .of_eq reg rfl rfl
      · exact ih reg results
      · exact (reg.updateData_slotsRise key data).trans (ih _ results)

end Registry

variable {Pubkey Record : Type}

/-- The coroutines that write `data_map` only through `_update_data`: the reader and the
fetches.  `add_account` writes its snapshot as it is, and `unsubscribe` clears the maps. -/
def Task.keepsSlots : Task Pubkey Record → Bool
  | .reader _ _ | .fetchOne _ _ | .fetchAll _ | .finished => true
  | .addAccount _ _ | .unsubscribe _ => false

/-- The calls that change no map and spawn only such coroutines, `fetch()` and
`subscribe()`, and the resumption of a coroutine. -/
def Event.keepsSlots : Event Pubkey Record → Bool
  | .fetch _ _ | .subscribe | .resume _ _ => true
  | .addAccount _ | .removeAccount _ _ | .unsubscribe => false

namespace EventLoop

variable (codec : PubkeyCodec Pubkey)

/-- No coroutine of `add_account` or `unsubscribe` is pending. -/
def Calm (l : EventLoop Pubkey Record) : Prop := ∀ task ∈ l.tasks, task.keepsSlots = true

theorem Quiet.slotsRise {l : EventLoop Pubkey Record} {p : EventLoop Pubkey Record × Option (ReaderPc Pubkey)}
    (h : Quiet l p) : Registry.SlotsRise l.toRegistry p.1.toRegistry := by
  rcases h.registry with e | e <;> rw [e] <;> exact .of_eq _ rfl rfl

theorem readerTask_keepsSlots (cancelled : Bool) (pc : Option (ReaderPc Pubkey)) :
    (readerTask cancelled pc : Task Pubkey Record).keepsSlots = true := by
  cases pc <;> rfl

variable (l : EventLoop Pubkey Record)

theorem sendBatch_slotsRise {reg : Registry Pubkey Record} (hrise : Registry.SlotsRise reg l.toRegistry)
    (conn : Nat) : ∀ pairs, Registry.SlotsRise reg (l.sendBatch codec conn pairs).1.toRegistry
  | [] => hrise.trans (readNext_quiet l conn).slotsRise
  | _ :: _ => hrise.trans (.of_eq _ rfl rfl)

theorem fetch_keepsSlots (P : Option Pubkey) (oracleId : Option String) :
    (l.fetch codec P oracleId).2.keepsSlots = true := by
  cases P with
  | none => rfl
  | some P => unfold fetch; dsimp only; split <;> rfl

variable [DecidableEq Pubkey]

/-- No move of `_subscribe_ws` lowers a cached slot or changes an oracle id. -/
theorem resumeReader_slotsRise {cancelled : Bool} {pc : ReaderPc Pubkey} {outcome : Outcome Record}
    {p : EventLoop Pubkey Record × Option (ReaderPc Pubkey)}
    (h : l.resumeReader codec cancelled pc outcome = some p) :
    Registry.SlotsRise l.toRegistry p.1.toRegistry := by
  cases outcome
  case cancelled =>
    rw [resumeReader_cancelled] at h
    cases cancelled <;> cases h
    exact (cancelAt_quiet l _).slotsRise
  all_goals cases pc <;> (try cases ‹AfterClose›) <;> try cases h
  case sent.sending ok conn requestId P rest =>
    cases ok <;> refine sendBatch_slotsRise codec _ (.of_eq _ ?_ ?_) conn rest <;> rfl
  case connected.connecting ok =>
    cases ok <;> cases h
    · exact (dropConnection_quiet l).slotsRise
    · unfold openConnection; dsimp only; split
      · refine sendBatch_slotsRise codec _ (.of_eq _ ?_ ?_) _ _ <;> rfl
      · exact .of_eq _ rfl rfl
  case received.receiving msg conn =>
    cases msg with
    | none => cases h; exact (readNext_quiet l _).slotsRise
    | some msg =>
        cases h
        split
        · exact (l.toRegistry.handleMsg_slotsRise codec msg).trans
            (readNext_quiet (l.setRegistry (l.toRegistry.handleMsg codec msg)) conn).slotsRise
        · exact .of_eq _ rfl rfl
  case idle.receiving => exact (readNext_quiet l _).slotsRise
  case closedByPeer.receiving => exact .of_eq _ rfl rfl
  case completed.start =>
    exact ((whileRunning_quiet { l with running := true }).of_same l rfl rfl rfl rfl rfl).slotsRise
  case completed.closing.loop => exact (whileRunning_quiet l).slotsRise
  case completed.closing.exit => exact .of_eq _ rfl rfl
  case completed.closing.cancel => exact (cancelHandler_quiet l).slotsRise
  case completed.sleeping => exact (whileRunning_quiet l).slotsRise
  case completed.closingOnCancel outer => exact (closeAfterCancel_quiet l _).slotsRise

/-- The reader and the fetches, resuming, lower no cached slot and become such coroutines. -/
theorem resumeTask_slotsRise {task : Task Pubkey Record} (htask : task.keepsSlots = true)
    {outcome : Outcome Record} {p : EventLoop Pubkey Record × Task Pubkey Record}
    (h : l.resumeTask codec task outcome = some p) :
    Registry.SlotsRise l.toRegistry p.1.toRegistry ∧ p.2.keepsSlots = true := by
  cases task with
  | addAccount | unsubscribe => cases htask
  | fetchOne P key =>
      cases outcome <;> try cases h
      case fetched result =>
        cases result <;> cases h
        · exact ⟨.of_eq _ rfl rfl, rfl⟩
        · exact ⟨l.toRegistry.updateData_slotsRise _ _, rfl⟩
  | fetchAll keys =>
      cases outcome <;> try cases h
      case gathered results =>
        rw [resumeTask_fetchAll] at h
        split at h
        · cases h; exact ⟨l.toRegistry.mergeGathered_slotsRise _ _, rfl⟩
        · cases h
  | reader cancelled pc =>
      obtain ⟨p, hp, rfl⟩ := Option.map_eq_some'.mp h
      exact ⟨resumeReader_slotsRise codec l hp, readerTask_keepsSlots cancelled p.2⟩
  | finished => cases h

variable {l}

/-- One step of the reader, a fetch or `subscribe()` from a calm state lowers no cached slot
and leaves the state calm. -/
theorem step_slotsRise (hcalm : l.Calm) {e : Event Pubkey Record} (he : e.keepsSlots = true)
    {l' : EventLoop Pubkey Record} (h : l.step codec e = some l') :
    Registry.SlotsRise l.toRegistry l'.toRegistry ∧ l'.Calm := by
  cases e with
  | addAccount | removeAccount | unsubscribe => cases he
  | fetch P oracleId =>
      cases h
      obtain ⟨hfetch, -, -⟩ := fetch_frame codec l P oracleId
      refine ⟨?_, fun task htask => ?_⟩
      · show Registry.SlotsRise l.toRegistry (l.fetch codec P oracleId).1.toRegistry
        rw [hfetch]; exact .of_eq _ rfl rfl
      rcases List.mem_append.mp htask with htask | htask
      · rw [hfetch] at htask; exact hcalm task htask
      · rw [List.mem_singleton.mp htask]; exact fetch_keepsSlots codec l P oracleId
  | subscribe =>
      cases h
      obtain ⟨htasks, -, hnew⟩ := subscribe_frame l
      refine ⟨by unfold subscribe; split <;> exact .of_eq _ rfl rfl, fun task htask => ?_⟩
      rcases List.mem_append.mp htask with htask | htask
      · rw [htasks] at htask; exact hcalm task htask
      · rw [List.mem_singleton.mp htask]; rcases hnew with hnew | hnew <;> rw [hnew] <;> rfl
  | resume index outcome =>
      obtain ⟨task, p, htask, hp, rfl⟩ := step_resume_eq_some codec l h
      obtain ⟨hrise, hnew⟩ := resumeTask_slotsRise codec l (hcalm task (List.getElem?_mem htask)) hp
      refine ⟨hrise, fun task' htask' => ?_⟩
      rcases List.mem_or_eq_of_mem_set htask' with htask' | rfl
      · rw [(resumeTask_resumed codec l hp).tasks] at htask'; exact hcalm task' htask'
      · exact hnew

theorem run_slotsRise {events : List (Event Pubkey Record)} (hevents : ∀ e ∈ events, e.keepsSlots = true) :
    ∀ {l l' : EventLoop Pubkey Record}, l.Calm → l.run codec events = some l' →
      Registry.SlotsRise l.toRegistry l'.toRegistry := by
  induction events with
  | nil => intro l l' _ h; cases h; exact .of_eq _ rfl rfl
  | cons e events ih =>
      intro l l' hcalm h
      obtain ⟨l₁, hstep, hrest⟩ := Option.bind_eq_some.mp h
      obtain ⟨hrise, hcalm₁⟩ := step_slotsRise codec hcalm (hevents e (List.mem_cons_self _ _)) hstep
      exact hrise.trans (ih (fun e' he' => hevents e' (List.mem_cons_of_mem _ he')) hcalm₁ hrest)

/-- From a state where no coroutine of `add_account` or `unsubscribe` is pending, any
interleaving of the reader's moves, fetches and `subscribe()` never moves a cached value
back: once `get_data` returns a value for a key, logical or by address, it returns one of no
lower slot at the end of the run. -/
theorem getData_slot_never_falls_between_calls {l' : EventLoop Pubkey Record} (hcalm : l.Calm)
    {events : List (Event Pubkey Record)} (hevents : ∀ e ∈ events, e.keepsSlots = true)
    (hrun : l.run codec events = some l') (key : Pubkey ⊕ String) {d : DataAndSlot Record}
    (hd : l.toRegistry.getData codec key = some d) :
    ∃ d', l'.toRegistry.getData codec key = some d' ∧ d.slot ≤ d'.slot :=
  (run_slotsRise codec hevents hcalm hrun).getData _ codec key hd

end EventLoop

/-- `decodingRegistry` in the event loop, with no coroutine. -/
def decodingLoop : EventLoop SampleAddress Payload := (EventLoop.init rawDecoder).setRegistry decodingRegistry

/-- `fetch()`, whose read of `ADDR1` comes back with a value of slot `2`, older than the cached
one of slot `3`. -/
def staleFetchRun : List (Event SampleAddress Payload) :=
  [.fetch none none, .resume 0 (.gathered [.ok (some ⟨2, .bytes [1]⟩)])]

theorem getData_slot_never_falls_between_calls_sample :
    decodingLoop.Calm ∧ (∀ e ∈ staleFetchRun, e.keepsSlots = true) ∧
      ∃ l', decodingLoop.run sampleCodec staleFetchRun = some l' ∧
        decodingLoop.toRegistry.getData sampleCodec (.inl .addr1) = some ⟨3, .bytes []⟩ ∧
        ∃ d', l'.toRegistry.getData sampleCodec (.inl .addr1) = some d' ∧
          (⟨3, .bytes []⟩ : DataAndSlot Payload).slot ≤ d'.slot :=
  have hcalm : decodingLoop.Calm := fun _ h => nomatch h
  have hevents : ∀ e ∈ staleFetchRun, e.keepsSlots = true := by decide
  have hrun : decodingLoop.run sampleCodec staleFetchRun = some { decodingLoop with tasks := [.finished] } := rfl
  have hd : decodingLoop.toRegistry.getData sampleCodec (.inl .addr1) = some ⟨3, .bytes []⟩ := rfl
  ⟨hcalm, hevents, _, hrun, hd,
    EventLoop.getData_slot_never_falls_between_calls sampleCodec hcalm hevents hrun _ hd⟩

end DriftSubscriber

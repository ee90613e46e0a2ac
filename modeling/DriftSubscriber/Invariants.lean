import DriftSubscriber.FanOut
import DriftSubscriber.Steps

/-!
# `pending_subscriptions` stays empty

Nothing in the subscriber appends to `pending_subscriptions`: `__init__` and the final
clear of `unsubscribe()` leave it empty, and the only other use is the `pop(0)` of the
confirmation fallback (lines 399-407), which needs an element.  So the fallback never
binds a subscription id in a reachable state.
-/

namespace DriftSubscriber

namespace Registry

variable {Pubkey Record : Type} (reg : Registry Pubkey Record)

/-- Lines 147-152 for each oracle id of an address: the three maps lose the ids. -/
theorem foldl_dropKey (keys : List String) :
    keys.foldl dropKey reg =
      { reg with
        oracleIdToSubscription := keys.foldl Dict.erase reg.oracleIdToSubscription
        decodeMap := keys.foldl Dict.erase reg.decodeMap
        dataMap := keys.foldl Dict.erase reg.dataMap } := by
  induction keys generalizing reg with
  | nil => rfl
  | cons key keys ih => exact ih (reg.dropKey key)

theorem mergeGathered_pendingSubscriptions (keys : List String)
    (results : List (Except Unit (Option (DataAndSlot Record)))) :
    (reg.mergeGathered keys results).pendingSubscriptions = reg.pendingSubscriptions := by
  induction keys generalizing reg results with
  | nil => cases results <;> rfl
  | cons key keys ih =>
      rcases results with _ | ⟨_ | _, results⟩
      · rfl
      · exact ih reg results
      · exact ih _ results

variable [DecidableEq Pubkey] (codec : PubkeyCodec Pubkey)

theorem handleMsg_pendingSubscriptions (h : reg.pendingSubscriptions = []) (msg : Msg) :
    (reg.handleMsg codec msg).pendingSubscriptions = [] := by
  rcases reg.handleMsg_cases codec msg with e | ⟨_, e⟩ | ⟨_, _, _, _, _, e⟩ | ⟨_, _, _, _, _, e⟩ <;> rw [e]
  · exact h
  · rw [confirmFallback_of_pending_nil _ h]; exact h
  · exact h
  · rw [(reg.fanOut_merged _ _ codec _).frame]; exact h

theorem removeAccount_pendingSubscriptions (P : Pubkey) (oracleId : Option String) :
    (reg.removeAccount codec P oracleId).1.pendingSubscriptions = reg.pendingSubscriptions := by
  have hdrop : (reg.dropOracleIds P oracleId).pendingSubscriptions = reg.pendingSubscriptions := by
    unfold dropOracleIds
    cases oracleId <;> dsimp only <;> split <;> simp [foldl_dropKey, dropKey]
  rcases reg.removeAccount_cases codec P oracleId with e | ⟨_, hsub⟩
  · rw [e, hdrop]
  · rw [dropSubscription_eq_some _ hsub]; exact hdrop

end Registry

namespace EventLoop

variable {Pubkey Record : Type} [DecidableEq Pubkey] (codec : PubkeyCodec Pubkey)
  {l : EventLoop Pubkey Record}

theorem FirstEffect.pendingSubscriptions_eq_nil {task : Task Pubkey Record} {reg : Registry Pubkey Record}
    (h : FirstEffect codec l task reg) (hl : l.pendingSubscriptions = []) :
    reg.pendingSubscriptions = [] := by
  cases h with
  | merge keys results => rw [Registry.mergeGathered_pendingSubscriptions]; exact hl
  | handle msg => exact Registry.handleMsg_pendingSubscriptions _ codec hl msg
  | reset => rfl
  | _ => exact hl

theorem StepEffect.pendingSubscriptions_eq_nil {e : Event Pubkey Record} {reg : Registry Pubkey Record}
    (h : StepEffect codec l e reg) (hl : l.pendingSubscriptions = []) :
    reg.pendingSubscriptions = [] := by
  cases h with
  | join call _ _ => unfold Registry.joinSubscription; split <;> exact hl
  | register | registerRequest => simpa using hl
  | remove P oracleId => rw [Registry.removeAccount_pendingSubscriptions]; exact hl
  | keep => exact hl
  | reset => rfl
  | resume _ _ _ heffect =>
      cases heffect with
      | first h => exact h.pendingSubscriptions_eq_nil codec hl
      | request _ _ h _ => exact h.pendingSubscriptions_eq_nil codec hl

/-- In every reachable state `pending_subscriptions` is empty. -/
theorem Reachable.pendingSubscriptions_eq_nil (h : Reachable codec l) : l.pendingSubscriptions = [] := by
  induction h with
  | init => rfl
  | step e _ hstep ih => exact (step_effect codec _ hstep).pendingSubscriptions_eq_nil codec ih

/-- From every reachable state, a frame the read loop must ignore, a late or duplicate
confirmation or a notification of an unknown subscription id, leaves the registry as it was,
whichever task the scheduler hands it to. -/
theorem readLoop_ignores_stale_frames {l' : EventLoop Pubkey Record} (hreach : Reachable codec l)
    {index : Nat} {msg : Msg} (hstale : l.toRegistry.StaleFrame msg)
    (hstep : l.step codec (.resume index (.received (some msg))) = some l') :
    l'.toRegistry = l.toRegistry := by
  obtain ⟨_, p, _, hp, rfl⟩ := step_resume_eq_some codec l hstep
  obtain ⟨_, _, _, hp1⟩ := resumeTask_received codec l hp
  show p.1.toRegistry = l.toRegistry
  rw [hp1]
  split
  · rw [setRegistry_toRegistry]
    exact Registry.handleMsg_stale codec _ hreach.pendingSubscriptions_eq_nil hstale
  · rfl

end EventLoop

/-- After `confirmedRun` request `1` is no longer in flight, and a second confirmation of
it, with subscription id `43`, is ignored. -/
theorem readLoop_ignores_stale_frames_sample :
    ∃ l', (((EventLoop.init rawDecoder).run sampleCodec confirmedRun).getD (.init rawDecoder)).step
        sampleCodec (.resume 0 (.received (some ⟨.int 43, .int 1, none⟩))) = some l' ∧
      l'.toRegistry =
        (((EventLoop.init rawDecoder).run sampleCodec confirmedRun).getD (.init rawDecoder)).toRegistry := by
  have hreach : EventLoop.Reachable sampleCodec
      (((EventLoop.init rawDecoder).run sampleCodec confirmedRun).getD (.init rawDecoder)) :=
    (EventLoop.Reachable.init rawDecoder).run sampleCodec
      (rfl : (EventLoop.init rawDecoder).run sampleCodec confirmedRun = some _)
  have hinflight : (1 : Int) ∉
      (((EventLoop.init rawDecoder).run sampleCodec confirmedRun).getD (.init rawDecoder)).inflightSubscribes := by
    decide
  obtain ⟨l', hstep⟩ : ∃ l', (((EventLoop.init rawDecoder).run sampleCodec confirmedRun).getD
      (.init rawDecoder)).step sampleCodec (.resume 0 (.received (some ⟨.int 43, .int 1, none⟩))) =
      some l' := ⟨_, rfl⟩
  refine ⟨l', hstep, EventLoop.readLoop_ignores_stale_frames sampleCodec hreach
    (.inl ⟨43, rfl, fun n hn => ?_⟩) hstep⟩
  cases hn
  exact hinflight

end DriftSubscriber

import DriftSubscriber.Invariants
import DriftSubscriber.Snapshot

/-!
# Cached values have decoders

Run one at a time, every operation keeps the keys of `data_map` among those of
`decode_map`: keys are stored with their decoder and dropped with it, and the read
loop writes only under keys that have one.  Three writes come after an await,
though: the snapshot of `add_account` (line 101) and the two of `fetch()` (lines 582
and 611).  None of them looks again at `decode_map`, so a key removed while its fetch
is outstanding gets its value back without a decoder.  Over runs in which no step
removes the key of an outstanding fetch, the inclusion holds in every state.
-/

namespace DriftSubscriber

namespace Registry

variable {Pubkey Record : Type} (reg : Registry Pubkey Record)

/-- Every key of `data_map` has a decoder in `decode_map`. -/
def CachedDecoded : Prop := ∀ key, key ∈ reg.dataMap → key ∈ reg.decodeMap

theorem mem_mergeInto {dataMap : Dict String (Option (DataAndSlot Record))} {key k : String}
    {newData : Option (DataAndSlot Record)} (h : k ∈ mergeInto dataMap key newData) :
    k = key ∨ k ∈ dataMap := by
  by_cases hk : k = key
  · exact .inl hk
  · rw [Dict.mem_iff_get?_isSome, mergeInto_get?, if_neg hk] at h
    exact .inr ((Dict.mem_iff_get?_isSome _ _).mpr h)

theorem CachedDecoded.updateData {reg : Registry Pubkey Record} (h : reg.CachedDecoded) {key : String}
    (hkey : key ∈ reg.decodeMap) (newData : Option (DataAndSlot Record)) :
    (reg.updateData key newData).CachedDecoded := fun k hk =>
  (mem_mergeInto hk).elim (fun e => e ▸ hkey) (h k)

theorem CachedDecoded.mergeGathered {reg : Registry Pubkey Record} (h : reg.CachedDecoded)
    {keys : List String} (hkeys : ∀ key ∈ keys, key ∈ reg.decodeMap)
    (results : List (Except Unit (Option (DataAndSlot Record)))) :
    (reg.mergeGathered keys results).CachedDecoded := by
  induction keys generalizing reg results with
  | nil => cases results <;> exact h
  | cons key keys ih =>
      have hrest : ∀ k ∈ keys, k ∈ reg.decodeMap := fun k hk => hkeys k (List.mem_cons_of_mem _ hk)
      rcases results with _ | ⟨_ | data, results⟩
      · exact h
      · exact ih h hrest results
      · exact ih (h.updateData (hkeys key (List.mem_cons_self _ _)) data) hrest results

section Preservation

variable {reg : Registry Pubkey Record} (h : reg.CachedDecoded)
include h

theorem CachedDecoded.storeKey (key : String) (decodeFn : Decoder Record)
    (initialData : Option (DataAndSlot Record)) : (reg.storeKey key decodeFn initialData).CachedDecoded := by
  intro k hk
  simp only [Registry.storeKey, Dict.mem_insert] at hk ⊢
  cases initialData with
  | none => exact .inr (h k hk)
  | some data => exact (Dict.mem_insert _ _ _ _).mp hk |>.imp id (h k)

theorem CachedDecoded.dropKey (key : String) : (reg.dropKey key).CachedDecoded := fun k hk => by
  simp only [Registry.dropKey, Dict.mem_erase] at hk ⊢
  exact ⟨hk.1, h k hk.2⟩

theorem CachedDecoded.foldl_dropKey (keys : List String) : (keys.foldl Registry.dropKey reg).CachedDecoded := by
  induction keys generalizing reg with
  | nil => exact h
  | cons key keys ih => exact ih (h.dropKey key)

theorem CachedDecoded.deliver (slot : Option Int) (data : Payload) (key : String) :
    (reg.deliver slot data key).CachedDecoded := by
  unfold Registry.deliver
  split
  · exact h
  · rename_i hdecode
    split
    · exact h.updateData ((Dict.mem_iff_get?_isSome _ _).mpr (by simp [hdecode])) _
    · exact h

end Preservation

variable [DecidableEq Pubkey] (codec : PubkeyCodec Pubkey)

section PreservationDecEq

variable {reg : Registry Pubkey Record} (h : reg.CachedDecoded)
include h

theorem CachedDecoded.joinSubscription (call : AddAccountCall Pubkey Record) (key : String)
    (decodeFn : Decoder Record) (subscriptionId : Int) :
    (reg.joinSubscription call key decodeFn subscriptionId).CachedDecoded := by
  unfold Registry.joinSubscription
  split
  · exact h
  · rename_i oracleId _
    have h' : (reg.addOracleId call.pubkey oracleId).CachedDecoded := h
    exact h'.storeKey key decodeFn call.initialData

theorem CachedDecoded.registerFresh (call : AddAccountCall Pubkey Record) (key : String)
    (decodeFn : Decoder Record) : (reg.registerFresh call key decodeFn).CachedDecoded := by
  unfold Registry.registerFresh
  split <;> exact h.storeKey key decodeFn call.initialData

theorem CachedDecoded.removeAccount (P : Pubkey) (oracleId : Option String) :
    (reg.removeAccount codec P oracleId).1.CachedDecoded := by
  have hdrop : (reg.dropOracleIds P oracleId).CachedDecoded := by
    unfold Registry.dropOracleIds
    cases oracleId <;> dsimp only <;> split
    · exact h.foldl_dropKey _
    · exact h
    · exact h.dropKey _
    · exact h
  rcases reg.removeAccount_cases codec P oracleId with e | ⟨_, hsub⟩
  · rw [e]; exact hdrop
  · rw [dropSubscription_eq_some _ hsub]
    intro k hk
    simp only [Dict.mem_erase] at hk ⊢
    exact ⟨hk.1, hdrop k hk.2⟩

theorem CachedDecoded.fanOut (P : Pubkey) (slot : Option Int) (data : Payload) :
    (reg.fanOut codec P slot data).CachedDecoded := by
  unfold Registry.fanOut
  generalize reg.fanOutKeys codec P = keys
  induction keys generalizing reg with
  | nil => exact h
  | cons key keys ih => exact ih (h.deliver slot data key)

theorem CachedDecoded.handleMsg (msg : Msg) : (reg.handleMsg codec msg).CachedDecoded := by
  rcases reg.handleMsg_cases codec msg with e | ⟨_, e⟩ | ⟨_, _, _, _, _, e⟩ | ⟨_, _, _, _, _, e⟩ <;> rw [e]
  · exact h
  · unfold confirmFallback; split <;> exact h
  · exact h
  · exact h.fanOut codec _ _ _

end PreservationDecEq

end Registry

namespace EventLoop

variable {Pubkey Record : Type} [DecidableEq Pubkey] (codec : PubkeyCodec Pubkey)

/-- Every key that a suspended coroutine will write a fetched value under still has its
decoder. -/
def FetchesDecoded (l : EventLoop Pubkey Record) : Prop :=
  ∀ task ∈ l.tasks, ∀ key ∈ task.fetchKeys codec, key ∈ l.decodeMap

instance (l : EventLoop Pubkey Record) : Decidable (FetchesDecoded codec l) :=
  inferInstanceAs (Decidable (∀ task ∈ l.tasks, ∀ key ∈ task.fetchKeys codec, key ∈ l.decodeMap))

/-- The states reached from `__init__` by runs in which no step removes the key of a fetch
that is still outstanding. -/
inductive ReachableKeepingFetches : EventLoop Pubkey Record → Prop
  | init (programDecode : Decoder Record) : ReachableKeepingFetches (init programDecode)
  | step {l l' : EventLoop Pubkey Record} (e : Event Pubkey Record) : ReachableKeepingFetches l →
      l.step codec e = some l' → FetchesDecoded codec l' → ReachableKeepingFetches l'

variable {codec} {l : EventLoop Pubkey Record} (hl : l.CachedDecoded)
include hl

theorem FirstEffect.cachedDecoded {task : Task Pubkey Record} {reg : Registry Pubkey Record}
    (h : FirstEffect codec l task reg) (hfetch : ∀ key ∈ task.fetchKeys codec, key ∈ l.decodeMap) :
    reg.CachedDecoded := by
  cases h with
  | snapshot call data htask =>
      subst htask
      intro k hk
      rcases (Dict.mem_insert _ _ _ _).mp hk with rfl | hk
      · exact hfetch _ (List.mem_singleton_self _)
      · exact hl k hk
  | update P key data htask =>
      subst htask; exact hl.updateData (hfetch key (List.mem_singleton_self _)) data
  | merge keys results htask => subst htask; exact hl.mergeGathered hfetch results
  | handle msg => exact hl.handleMsg codec msg
  | reset => intro k hk; exact absurd hk (Dict.not_mem_empty k)
  | keep | retract | clear => exact hl

theorem StepEffect.cachedDecoded {e : Event Pubkey Record} {reg : Registry Pubkey Record}
    (h : StepEffect codec l e reg) (hfetch : FetchesDecoded codec l) : reg.CachedDecoded := by
  cases h with
  | join call sid _ => exact hl.joinSubscription _ _ _ _
  | register call _ | registerRequest call _ => exact hl.registerFresh _ _ _
  | remove P oracleId => exact hl.removeAccount codec P oracleId
  | keep => exact hl
  | reset => intro k hk; exact absurd hk (Dict.not_mem_empty k)
  | resume index outcome htask heffect =>
      have htask := hfetch _ (List.getElem?_mem htask)
      cases heffect with
      | first h | request _ _ h _ => exact h.cachedDecoded hl htask

omit hl in
/-- Over runs in which no step removes the key of an outstanding fetch, every key of
`data_map` has a decoder in `decode_map`. -/
theorem cachedDecoded_of_reachableKeepingFetches (h : ReachableKeepingFetches codec l) :
    l.CachedDecoded := by
  induction h with
  | init => intro k hk; exact absurd hk (Dict.not_mem_empty k)
  | @step l₁ _ e hreach hstep _ ih =>
      have hfetch : FetchesDecoded codec l₁ := by
        cases hreach with
        | init => intro task htask; cases htask
        | step _ _ _ hfetch => exact hfetch
      exact (step_effect codec _ hstep).cachedDecoded ih hfetch

end EventLoop

/-- From `__init__`: `ADDR1-1` is added without an initial value, removed while its snapshot
is outstanding, and the snapshot then comes back. -/
theorem late_snapshot_caches_removed_key :
    (EventLoop.init rawDecoder).Ends sampleCodec
      [.addAccount oracleFeedCall, .removeAccount .addr1 (some "ADDR1-1"),
       .resume 0 (.fetched (.ok (some ⟨1, .bytes []⟩)))] fun l =>
      "ADDR1-1" ∈ l.dataMap ∧ "ADDR1-1" ∉ l.decodeMap := by
  decide

end DriftSubscriber

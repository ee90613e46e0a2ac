import DriftSubscriber.Registry
import Mathlib.Algebra.Order.Monoid.WithTop
import Mathlib.Algebra.Order.Ring.Int
import Mathlib.Order.WithBot

/-!
# Successive `_update_data` calls

Every write of a notification (lines 444 and 458) and of `fetch()` (lines 582 and
611) goes through `_update_data` (lines 548-554), which keeps the cached entry
unless the new value's slot is at least as high.  Over any sequence of updates to
one key this keeps the entry of the highest slot: the first entry when its slot is
above every update's, otherwise the last update carrying the highest slot.  The
cached slot is the maximum of all slots, two orders of updates with distinct slots
end in the same entry, and other keys are not touched.
-/

namespace DriftSubscriber

variable {Record : Type}

/-- The slot of a cached entry; `⊥` for an absent key or a key holding `None`. -/
def entrySlot (entry : Option (Option (DataAndSlot Record))) : WithBot Int :=
  match entry.join with
  | some current => current.slot
  | none => ⊥

/-- The entry holds a value whose slot is above the slot of every update. -/
def SlotAbove (entry : Option (Option (DataAndSlot Record))) (updates : List (DataAndSlot Record)) :
    Prop :=
  ∃ current, entry.join = some current ∧ ∀ u ∈ updates, u.slot < current.slot

/-- `u` is the last of the updates whose slot is the highest. -/
def IsLastTop (u : DataAndSlot Record) (updates : List (DataAndSlot Record)) : Prop :=
  ∃ pre post, updates = pre ++ u :: post ∧ (∀ v ∈ pre, v.slot ≤ u.slot) ∧ ∀ v ∈ post, v.slot < u.slot

theorem entrySlot_of_join {entry : Option (Option (DataAndSlot Record))} {current : DataAndSlot Record}
    (h : entry.join = some current) : entrySlot entry = current.slot := by
  unfold entrySlot; rw [h]

theorem entrySlot_of_join_none {entry : Option (Option (DataAndSlot Record))} (h : entry.join = none) :
    entrySlot entry = ⊥ := by
  unfold entrySlot; rw [h]

/-- An entry whose slot is not at most `s` holds a value of a slot above `s`. -/
theorem lt_entrySlot {entry : Option (Option (DataAndSlot Record))} {s : Int} (h : ¬ entrySlot entry ≤ s) :
    ∃ current, entry.join = some current ∧ s < current.slot := by
  cases hj : entry.join with
  | none => rw [entrySlot_of_join_none hj] at h; exact absurd bot_le h
  | some current => rw [entrySlot_of_join hj, WithBot.coe_le_coe, not_le] at h; exact ⟨current, rfl, h⟩

/-- One update with a value: it replaces the entry unless the entry's slot is higher. -/
theorem mergeEntry_some (entry : Option (Option (DataAndSlot Record))) (d : DataAndSlot Record) :
    mergeEntry entry (some d) = if entrySlot entry ≤ d.slot then some (some d) else entry := by
  unfold mergeEntry entrySlot
  cases entry.join <;> simp [WithBot.coe_le_coe]

theorem entrySlot_mergeEntry (entry : Option (Option (DataAndSlot Record))) (d : DataAndSlot Record) :
    entrySlot (mergeEntry entry (some d)) = max (entrySlot entry) d.slot := by
  rw [mergeEntry_some]
  split_ifs with hle
  · exact (max_eq_right hle).symm
  · exact (max_eq_left (le_of_not_le hle)).symm

section Append

variable {entry : Option (Option (DataAndSlot Record))} {updates : List (DataAndSlot Record)}
  {u v : DataAndSlot Record}

theorem IsLastTop.mem (h : IsLastTop u updates) : u ∈ updates := by
  obtain ⟨pre, post, rfl, -, -⟩ := h
  simp

theorem IsLastTop.le (h : IsLastTop u updates) : ∀ v ∈ updates, v.slot ≤ u.slot := by
  obtain ⟨pre, post, rfl, hpre, hpost⟩ := h
  intro v hv
  rcases List.mem_append.mp hv with hv | hv
  · exact hpre v hv
  · rcases List.mem_cons.mp hv with rfl | hv
    · exact le_refl _
    · exact le_of_lt (hpost v hv)

/-- A later update of no lower slot becomes the last of the highest slot. -/
theorem IsLastTop.append_of_le (hv : IsLastTop v updates) (hle : v.slot ≤ u.slot) :
    IsLastTop u (updates ++ [u]) :=
  ⟨updates, [], rfl, fun w hw => le_trans (hv.le w hw) hle, by simp⟩

/-- A later update of a lower slot leaves the last of the highest slot in place. -/
theorem IsLastTop.append_of_lt (hv : IsLastTop v updates) (hlt : u.slot < v.slot) :
    IsLastTop v (updates ++ [u]) := by
  obtain ⟨pre, post, rfl, hpre, hpost⟩ := hv
  refine ⟨pre, post ++ [u], by simp, hpre, fun w hw => ?_⟩
  rcases List.mem_append.mp hw with hw | hw
  · exact hpost w hw
  · cases List.mem_singleton.mp hw; exact hlt

theorem SlotAbove.of_append {more : List (DataAndSlot Record)} (h : SlotAbove entry (updates ++ more)) :
    SlotAbove entry updates :=
  let ⟨current, hcur, hall⟩ := h
  ⟨current, hcur, fun u hu => hall u (List.mem_append_left _ hu)⟩

/-- While the first entry is kept, an update of a lower slot keeps it still. -/
theorem SlotAbove.append (hkept : updates = [] ∨ SlotAbove entry updates) (hlt : ¬ entrySlot entry ≤ u.slot) :
    SlotAbove entry (updates ++ [u]) := by
  obtain ⟨current, hcur, hu⟩ := lt_entrySlot hlt
  refine ⟨current, hcur, fun w hw => ?_⟩
  rcases List.mem_append.mp hw with hw | hw
  · rcases hkept with rfl | ⟨current', hcur', hall⟩
    · cases hw
    · cases hcur.symm.trans hcur'; exact hall w hw
  · cases List.mem_singleton.mp hw; exact hu

/-- While the first entry is kept, an update of no lower slot is the last of the highest slot. -/
theorem isLastTop_append_of_kept (hkept : updates = [] ∨ SlotAbove entry updates)
    (hle : entrySlot entry ≤ u.slot) : IsLastTop u (updates ++ [u]) := by
  refine ⟨updates, [], rfl, fun w hw => ?_, by simp⟩
  rcases hkept with rfl | ⟨current, hcur, hall⟩
  · cases hw
  · rw [entrySlot_of_join hcur, WithBot.coe_le_coe] at hle
    exact le_of_lt (lt_of_lt_of_le (hall w hw) hle)

theorem not_kept_of_le (hle : entrySlot entry ≤ u.slot) :
    ¬ (updates ++ [u] = [] ∨ SlotAbove entry (updates ++ [u])) := by
  rintro (h | ⟨current, hcur, hall⟩)
  · simp at h
  · rw [entrySlot_of_join hcur, WithBot.coe_le_coe] at hle
    exact absurd (hall u (by simp)) (not_lt.mpr hle)

end Append

/-- The rule of the module's header for values in order: the fold of `mergeEntry` over
`updates` is the first entry when its slot is above every update's (or there is none),
otherwise the last update of the highest slot. -/
theorem foldl_mergeEntry (entry : Option (Option (DataAndSlot Record))) (updates : List (DataAndSlot Record)) :
    ((updates = [] ∨ SlotAbove entry updates) ∧
        updates.foldl (fun e d => mergeEntry e (some d)) entry = entry) ∨
      (¬ (updates = [] ∨ SlotAbove entry updates) ∧ ∃ u, IsLastTop u updates ∧
        updates.foldl (fun e d => mergeEntry e (some d)) entry = some (some u)) := by
  induction updates using List.reverseRecOn with
  | nil => exact .inl ⟨.inl rfl, rfl⟩
  | append_singleton updates u ih =>
      rw [List.foldl_append, List.foldl_cons, List.foldl_nil, mergeEntry_some]
      rcases ih with ⟨hkept, hfold⟩ | ⟨hnot, v, hv, hfold⟩ <;> rw [hfold]
      · split_ifs with hle
        · exact .inr ⟨not_kept_of_le hle, u, isLastTop_append_of_kept hkept hle, rfl⟩
        · exact .inl ⟨.inr (SlotAbove.append hkept hle), rfl⟩
      · have hnot' : ¬ (updates ++ [u] = [] ∨ SlotAbove entry (updates ++ [u])) :=
          fun h => hnot (.inr (h.resolve_left (by simp)).of_append)
        rw [show entrySlot (some (some v)) = (v.slot : WithBot Int) from rfl]
        split_ifs with hle <;> rw [WithBot.coe_le_coe] at hle
        · exact .inr ⟨hnot', u, hv.append_of_le hle, rfl⟩
        · exact .inr ⟨hnot', v, hv.append_of_lt (lt_of_not_le hle), rfl⟩

theorem foldl_mergeEntry_filterMap (entry : Option (Option (DataAndSlot Record)))
    (updates : List (Option (DataAndSlot Record))) :
    updates.foldl mergeEntry entry = (updates.filterMap id).foldl (fun e d => mergeEntry e (some d)) entry := by
  induction updates generalizing entry with
  | nil => rfl
  | cons u updates ih => cases u <;> exact ih _

/-- The cached slot after the updates is the highest of all slots. -/
theorem entrySlot_foldl (entry : Option (Option (DataAndSlot Record))) (updates : List (DataAndSlot Record)) :
    entrySlot (updates.foldl (fun e d => mergeEntry e (some d)) entry) =
      (updates.map fun u => (u.slot : WithBot Int)).foldl max (entrySlot entry) := by
  induction updates generalizing entry with
  | nil => rfl
  | cons u updates ih => rw [List.foldl_cons, ih, entrySlot_mergeEntry]; rfl

/-- Two orders of updates with distinct slots leave the same entry. -/
theorem foldl_mergeEntry_perm (entry : Option (Option (DataAndSlot Record)))
    {updates updates' : List (DataAndSlot Record)} (hperm : updates'.Perm updates)
    (hnodup : (updates.map DataAndSlot.slot).Nodup) :
    updates'.foldl (fun e d => mergeEntry e (some d)) entry =
      updates.foldl (fun e d => mergeEntry e (some d)) entry := by
  have hcond : (updates' = [] ∨ SlotAbove entry updates') ↔ (updates = [] ∨ SlotAbove entry updates) := by
    refine or_congr ⟨fun h => (h ▸ hperm).nil_eq.symm, fun h => (h ▸ hperm).eq_nil⟩ ?_
    exact exists_congr fun current => and_congr_right fun _ => forall_congr' fun u => by rw [hperm.mem_iff]
  rcases foldl_mergeEntry entry updates with ⟨h, e⟩ | ⟨h, u, hu, e⟩ <;>
    rcases foldl_mergeEntry entry updates' with ⟨h', e'⟩ | ⟨h', u', hu', e'⟩
  · rw [e, e']
  · exact absurd (hcond.mpr h) h'
  · exact absurd (hcond.mp h') h
  · have hu'mem : u' ∈ updates := hperm.mem_iff.mp hu'.mem
    have hslot : u'.slot = u.slot :=
      le_antisymm (hu.le u' hu'mem) (hu'.le u (hperm.mem_iff.mpr hu.mem))
    rw [e, e', List.inj_on_of_nodup_map hnodup hu'mem hu.mem hslot]

theorem foldl_mergeInto_get? (dataMap : Dict String (Option (DataAndSlot Record))) (key k : String)
    (updates : List (Option (DataAndSlot Record))) :
    (updates.foldl (fun d u => mergeInto d key u) dataMap).get? k =
      if k = key then updates.foldl mergeEntry (dataMap.get? key) else dataMap.get? k := by
  induction updates generalizing dataMap with
  | nil => split_ifs with hk <;> simp [hk]
  | cons u updates ih =>
      rw [List.foldl_cons, ih, mergeInto_get?]
      by_cases hk : k = key <;> simp [hk, mergeInto_get?]

namespace Registry

variable {Pubkey : Type} (reg : Registry Pubkey Record)

/-- Successive `_update_data(key, u)` calls on one key. -/
def updateEach (key : String) (updates : List (Option (DataAndSlot Record))) : Registry Pubkey Record :=
  updates.foldl (fun reg u => reg.updateData key u) reg

theorem updateEach_dataMap (key : String) (updates : List (Option (DataAndSlot Record))) :
    (reg.updateEach key updates).dataMap = updates.foldl (fun d u => mergeInto d key u) reg.dataMap := by
  induction updates generalizing reg with
  | nil => rfl
  | cons u updates ih => exact ih (reg.updateData key u)

/-- Updates to `key` by successive `_update_data` calls, `None` ignored: the first entry
stays when its slot is above every update's or there is none, otherwise the entry is the
last update of the highest slot; the cached slot is the maximum of all slots; two orders of
updates with distinct slots end alike; every other key keeps its entry. -/
theorem updateEach_keeps_newest (key : String) (updates : List (Option (DataAndSlot Record))) :
    ((updates.filterMap id = [] ∨ SlotAbove (reg.dataMap.get? key) (updates.filterMap id)) →
        (reg.updateEach key updates).dataMap.get? key = reg.dataMap.get? key) ∧
      (¬ (updates.filterMap id = [] ∨ SlotAbove (reg.dataMap.get? key) (updates.filterMap id)) →
        ∃ u, IsLastTop u (updates.filterMap id) ∧
          (reg.updateEach key updates).dataMap.get? key = some (some u)) ∧
      entrySlot ((reg.updateEach key updates).dataMap.get? key) =
        ((updates.filterMap id).map fun u => (u.slot : WithBot Int)).foldl max
          (entrySlot (reg.dataMap.get? key)) ∧
      (∀ updates', updates'.Perm updates → ((updates.filterMap id).map DataAndSlot.slot).Nodup →
        (reg.updateEach key updates').dataMap.get? key = (reg.updateEach key updates).dataMap.get? key) ∧
      ∀ k, k ≠ key → (reg.updateEach key updates).dataMap.get? k = reg.dataMap.get? k := by
  have hentry : ∀ updates : List (Option (DataAndSlot Record)),
      (reg.updateEach key updates).dataMap.get? key =
        (updates.filterMap id).foldl (fun e d => mergeEntry e (some d)) (reg.dataMap.get? key) := by
    intro updates
    rw [updateEach_dataMap, foldl_mergeInto_get?, if_pos rfl, foldl_mergeEntry_filterMap]
  refine ⟨fun h => ?_, fun h => ?_, ?_, fun updates' hperm hnodup => ?_, fun k hk => ?_⟩
  · rcases foldl_mergeEntry (reg.dataMap.get? key) (updates.filterMap id) with ⟨-, e⟩ | ⟨h', -⟩
    · rw [hentry, e]
    · exact absurd h h'
  · rcases foldl_mergeEntry (reg.dataMap.get? key) (updates.filterMap id) with ⟨h', -⟩ | ⟨-, u, hu, e⟩
    · exact absurd h' h
    · exact ⟨u, hu, by rw [hentry, e]⟩
  · rw [hentry, entrySlot_foldl]
  · rw [hentry, hentry, foldl_mergeEntry_perm _ (hperm.filterMap id) hnodup]
  · rw [updateEach_dataMap, foldl_mergeInto_get?, if_neg hk]

/-- The scenario of the spec: a value of slot `100`, then one of slot `99`. -/
example : ((init : Registry Unit Nat).updateEach "K" [some ⟨100, 1⟩, some ⟨99, 2⟩]).dataMap.get? "K" =
    some (some ⟨100, 1⟩) := by
  rfl

end Registry

end DriftSubscriber

import Mathlib.Data.List.Nodup

/-!
# Python dictionaries and sets

A `dict` keeps its keys in insertion order: assigning to a present key keeps its
place, a new key goes last, and `del` takes the key out.  The resubscribe batch
and `fetch()` iterate `data_map` and `decode_map` in that order, so the model keeps
it; results about the mapping alone compare two dictionaries key by key, as
Python's `==` does.  The sets of oracle ids are dictionaries with trivial values.
-/

namespace DriftSubscriber

/-- A Python `dict`: its entries in insertion order, each key once. -/
structure Dict (κ ν : Type) where
  entries : List (κ × ν)
  nodup : (entries.map Prod.fst).Nodup

namespace Dict

variable {κ ν : Type}

def empty : Dict κ ν := ⟨[], List.nodup_nil⟩

def keys (d : Dict κ ν) : List κ := d.entries.map Prod.fst

instance : Membership κ (Dict κ ν) := ⟨fun d k => k ∈ d.keys⟩

def isEmpty (d : Dict κ ν) : Bool := d.entries.isEmpty

theorem mem_keys (d : Dict κ ν) (k : κ) : k ∈ d.keys ↔ k ∈ d := Iff.rfl

theorem keys_nodup (d : Dict κ ν) : d.keys.Nodup := d.nodup

@[simp] theorem keys_empty : (empty : Dict κ ν).keys = [] := rfl

theorem isEmpty_eq_false_iff (d : Dict κ ν) : d.isEmpty = false ↔ ∃ k, k ∈ d := by
  rcases d with ⟨_ | _, _⟩ <;> simp [isEmpty, ← mem_keys, keys]

variable [DecidableEq κ]

instance (k : κ) (d : Dict κ ν) : Decidable (k ∈ d) :=
  inferInstanceAs (Decidable (k ∈ d.keys))

/-- Python's `d.get(k)`. -/
def get? (d : Dict κ ν) (k : κ) : Option ν := d.entries.lookup k

/-- What `d[k] = v` does to one entry: the entry of `k` takes `v`, no key moves. -/
def assign (k : κ) (v : ν) (e : κ × ν) : κ × ν := if e.1 = k then (k, v) else e

theorem assign_fst (k : κ) (v : ν) (e : κ × ν) : (assign k v e).1 = e.1 := by
  unfold assign; split <;> simp_all

/-- Python's `d[k] = v`: a present key keeps its place, a new key goes last. -/
def insert (d : Dict κ ν) (k : κ) (v : ν) : Dict κ ν :=
  if h : k ∈ d then
    ⟨d.entries.map (assign k v), by
      rw [List.map_map, show Prod.fst ∘ assign k v = Prod.fst from funext (assign_fst k v)]
      exact d.nodup⟩
  else
    ⟨d.entries ++ [(k, v)], by
      rw [List.map_append, List.map_singleton]
      exact List.nodup_append.mpr
        ⟨d.nodup, List.nodup_singleton k, List.disjoint_singleton.mpr h⟩⟩

/-- Python's `del d[k]` for a present key; `d.pop(k, None)` and `set.discard` in general. -/
def erase (d : Dict κ ν) (k : κ) : Dict κ ν :=
  ⟨d.entries.filter (fun e => e.1 != k), d.nodup.sublist ((List.filter_sublist _).map _)⟩

/-! ## Lookups through the operations -/

section Lookup

variable (l : List (κ × ν)) (k k' : κ) (v : ν)

theorem lookup_cons_ite (a : κ) (b : ν) :
    ((a, b) :: l).lookup k = if k = a then some b else l.lookup k := by
  by_cases h : k = a <;> simp [List.lookup_cons, h, beq_false_of_ne]

theorem lookup_map_assign_of_ne (h : k' ≠ k) :
    (l.map (assign k v)).lookup k' = l.lookup k' := by
  induction l with
  | nil => rfl
  | cons e l ih =>
      obtain ⟨a, b⟩ := e
      by_cases ha : a = k
      · subst ha; simp [assign, lookup_cons_ite, h, ih]
      · simp [assign, ha, lookup_cons_ite, ih]

theorem lookup_map_assign_self (h : k ∈ l.map Prod.fst) :
    (l.map (assign k v)).lookup k = some v := by
  induction l with
  | nil => simp at h
  | cons e l ih =>
      obtain ⟨a, b⟩ := e
      by_cases ha : a = k
      · subst ha; simp [assign, lookup_cons_ite]
      · have hl : k ∈ l.map Prod.fst := by simpa [Ne.symm ha] using h
        simp [assign, ha, lookup_cons_ite, Ne.symm ha, ih hl]

theorem lookup_append_singleton (h : k ∉ l.map Prod.fst) :
    (l ++ [(k, v)]).lookup k' = if k' = k then some v else l.lookup k' := by
  induction l with
  | nil => by_cases hk : k' = k <;> simp [lookup_cons_ite, hk]
  | cons e l ih =>
      obtain ⟨a, b⟩ := e
      have hak : a ≠ k := fun hak => h (by simp [hak])
      have hl : k ∉ l.map Prod.fst := fun hl => h (by simp [hl])
      by_cases ha : k' = a
      · subst ha; simp [lookup_cons_ite, hak]
      · simp [lookup_cons_ite, ha, ih hl]

theorem lookup_filter_ne :
    (l.filter (fun e => e.1 != k)).lookup k' = if k' = k then none else l.lookup k' := by
  induction l with
  | nil => simp
  | cons e l ih =>
      obtain ⟨a, b⟩ := e
      by_cases ha : a = k
      · subst ha
        by_cases hk : k' = a
        · subst hk; simpa [List.filter_cons] using ih
        · simp [List.filter_cons, lookup_cons_ite, hk, ih]
      · by_cases hk : k' = a
        · subst hk; simp [List.filter_cons, lookup_cons_ite, ha]
        · simp [List.filter_cons, lookup_cons_ite, ha, hk, ih]

theorem lookup_isSome_iff : (l.lookup k).isSome ↔ k ∈ l.map Prod.fst := by
  induction l with
  | nil => simp
  | cons e l ih =>
      obtain ⟨a, b⟩ := e
      by_cases ha : k = a <;> simp_all [lookup_cons_ite]

/-- In entries with distinct keys, an entry is what its key looks up. -/
theorem lookup_of_mem (hl : (l.map Prod.fst).Nodup) {e : κ × ν} (he : e ∈ l) :
    l.lookup e.1 = some e.2 := by
  induction l with
  | nil => cases he
  | cons e' l ih =>
      obtain ⟨a, b⟩ := e'
      obtain ⟨ha, hl⟩ := List.nodup_cons.mp hl
      rw [lookup_cons_ite]
      rcases List.mem_cons.mp he with rfl | he
      · exact if_pos rfl
      · rw [if_neg fun h => ha (List.mem_map.mpr ⟨e, he, h⟩)]
        exact ih hl he

end Lookup

variable (d : Dict κ ν) (k k' : κ) (v : ν)

@[simp] theorem get?_empty : (empty : Dict κ ν).get? k = none := rfl

theorem mem_iff_get?_isSome : k ∈ d ↔ (d.get? k).isSome :=
  (lookup_isSome_iff d.entries k).symm

theorem get?_of_mem_entries {e : κ × ν} (he : e ∈ d.entries) : d.get? e.1 = some e.2 :=
  lookup_of_mem d.entries d.nodup he

theorem get?_eq_none_iff : d.get? k = none ↔ k ∉ d := by
  rw [mem_iff_get?_isSome, Option.not_isSome_iff_eq_none]

@[simp] theorem get?_insert :
    (d.insert k v).get? k' = if k' = k then some v else d.get? k' := by
  unfold insert get?
  split
  · by_cases hk : k' = k
    · subst hk; simpa using lookup_map_assign_self d.entries k' v ‹_›
    · simpa [hk] using lookup_map_assign_of_ne d.entries k k' v hk
  · exact lookup_append_singleton d.entries k k' v ‹_›

/-- A new key is appended after every present one. -/
theorem entries_insert_of_not_mem (h : k ∉ d) : (d.insert k v).entries = d.entries ++ [(k, v)] := by
  unfold insert
  rw [dif_neg h]

@[simp] theorem get?_erase : (d.erase k).get? k' = if k' = k then none else d.get? k' :=
  lookup_filter_ne d.entries k k'

@[simp] theorem not_mem_empty : k ∉ (empty : Dict κ ν) := by
  simp [mem_iff_get?_isSome]

@[simp] theorem mem_insert : k' ∈ d.insert k v ↔ k' = k ∨ k' ∈ d := by
  by_cases hk : k' = k <;> simp [mem_iff_get?_isSome, hk]

@[simp] theorem mem_erase : k' ∈ d.erase k ↔ k' ≠ k ∧ k' ∈ d := by
  by_cases hk : k' = k <;> simp [mem_iff_get?_isSome, hk]

theorem mem_foldl_erase (keys : List κ) (d : Dict κ ν) (k : κ) :
    k ∈ keys.foldl erase d ↔ k ∉ keys ∧ k ∈ d := by
  induction keys generalizing d with
  | nil => simp
  | cons key keys ih =>
    simp only [List.foldl_cons, ih, mem_erase, List.mem_cons, not_or, and_assoc]
    exact and_left_comm

end Dict

/-- A Python `set`, kept as a dictionary with trivial values; it lists its elements in
insertion order. -/
abbrev PySet (α : Type) := Dict α Unit

namespace PySet

variable {α : Type} [DecidableEq α]

/-- Python's `s.add(x)`. -/
def add (s : PySet α) (x : α) : PySet α := s.insert x ()

/-- Python's `s.discard(x)`. -/
def discard (s : PySet α) (x : α) : PySet α := s.erase x

@[simp] theorem mem_add (s : PySet α) (x y : α) : y ∈ s.add x ↔ y = x ∨ y ∈ s :=
  Dict.mem_insert s x y ()

@[simp] theorem mem_discard (s : PySet α) (x y : α) : y ∈ s.discard x ↔ y ≠ x ∧ y ∈ s :=
  Dict.mem_erase s x y

end PySet

end DriftSubscriber

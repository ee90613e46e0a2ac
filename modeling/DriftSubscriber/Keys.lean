import DriftSubscriber.Unicode

/-!
# Addresses and logical keys

A logical key is either the text `str(P)` of an address or an `oracle_id` chosen
by the caller; the code's comments give oracle ids the form `pubkey-source_num`.
The resubscribe batch (lines 222-236) and `fetch()` (lines 586-600) read the
address back from a key: a last `-`-separated part made of digits is dropped and
the rest goes to `Pubkey.from_string`.  With the base58 text of an address, which
has no `-`, that read finds `P` exactly for the keys `str(P)` and `str(P)-digits`.
-/

namespace DriftSubscriber

/-- The text form of an address and its parse, as `solders.pubkey.Pubkey` provides
them: `str(P)` is the base58 text of the 32 bytes, whose alphabet has no `-`, and
`Pubkey.from_string` accepts exactly these texts, reading each back to its address. -/
structure PubkeyCodec (Pubkey : Type) where
  str : Pubkey → String
  fromString : String → Option Pubkey
  fromString_eq_some : ∀ s P, fromString s = some P ↔ s = str P
  dash_not_mem : ∀ P, '-' ∉ (str P).data

variable {Pubkey : Type} (codec : PubkeyCodec Pubkey)

/-- Python's `s.isdigit()`: a nonempty text of digits, beyond ASCII too (`isDigitChar`). -/
def isDigits (cs : List Char) : Bool := !cs.isEmpty && cs.all isDigitChar

/-- The text handed to `Pubkey.from_string` for a key (lines 224-236): when the key has
a `-` and its last `-`-separated part is made of digits, the parts before it joined by `-`. -/
def addressText (key : String) : String :=
  let parts := key.data.splitOn '-'
  if '-' ∈ key.data ∧ isDigits (parts.getLastD []) = true then
    ⟨['-'].intercalate parts.dropLast⟩
  else key

/-- The address the batch and `fetch()` take a key for; `none` when `from_string` raises. -/
def pubkeyOfKey (key : String) : Option Pubkey := codec.fromString (addressText key)

/-! ## Which keys name an address -/

theorem dash_not_mem_of_isDigits {ds : List Char} (h : isDigits ds = true) : '-' ∉ ds := by
  intro hmem
  simp only [isDigits, Bool.and_eq_true, List.all_eq_true] at h
  exact absurd (h.2 '-' hmem) (by decide)

theorem splitOn_dash_pair {a ds : List Char} (ha : '-' ∉ a) (hds : '-' ∉ ds) :
    (a ++ '-' :: ds).splitOn '-' = [a, ds] := by
  have := List.splitOn_intercalate [a, ds] '-' (by simp [ha, hds]) (by simp)
  simpa [List.intercalate] using this

theorem dash_mem_intercalate {a b : List Char} {rest : List (List Char)} :
    '-' ∈ ['-'].intercalate (a :: b :: rest) := by
  simp [List.intercalate, List.intersperse]

/-- The keys the read gives `P` for: `str(P)` itself and `str(P)-digits`. -/
theorem pubkeyOfKey_eq_some (key : String) (P : Pubkey) :
    pubkeyOfKey codec key = some P ↔
      key = codec.str P ∨
        ∃ ds, isDigits ds = true ∧ key.data = (codec.str P).data ++ '-' :: ds := by
  unfold pubkeyOfKey addressText
  dsimp only
  rw [codec.fromString_eq_some]
  constructor
  · intro htext
    split at htext
    · rename_i hsplit
      obtain ⟨hdash, hdigits⟩ := hsplit
      have hkey : ['-'].intercalate (key.data.splitOn '-') = key.data :=
        List.intercalate_splitOn _ _
      have hne : key.data.splitOn '-' ≠ [] := List.splitOnP_ne_nil _ _
      generalize key.data.splitOn '-' = parts at hdigits hkey htext hne
      obtain ⟨init, last, rfl⟩ : ∃ init last, parts = init ++ [last] :=
        ⟨_, _, (List.dropLast_append_getLast hne).symm⟩
      simp only [List.dropLast_concat, List.getLastD_eq_getLast?, List.getLast?_concat,
        Option.getD_some] at hdigits htext
      have hdata := congrArg String.data htext
      match init with
      | [] =>
          simp [List.intercalate] at hkey
          exact absurd (hkey ▸ hdash) (dash_not_mem_of_isDigits hdigits)
      | [a] =>
          simp [List.intercalate] at hdata hkey
          exact .inr ⟨last, hdigits, by rw [← hkey, hdata]⟩
      | a :: b :: rest =>
          exact absurd (hdata ▸ dash_mem_intercalate) (codec.dash_not_mem P)
    · exact .inl htext
  · rintro (rfl | ⟨ds, hds, hkey⟩)
    · rw [if_neg (fun h => codec.dash_not_mem P h.1)]
    · have hsplit := splitOn_dash_pair (codec.dash_not_mem P) (dash_not_mem_of_isDigits hds)
      rw [if_pos ⟨by simp [hkey], by simp [hkey, hsplit, hds]⟩]
      simp [hkey, hsplit, List.intercalate]

/-- The plain key of an address reads back as the address. -/
theorem pubkeyOfKey_str (P : Pubkey) : pubkeyOfKey codec (codec.str P) = some P :=
  (pubkeyOfKey_eq_some codec _ P).mpr (.inl rfl)

/-- Distinct addresses have distinct texts. -/
theorem str_injective {P Q : Pubkey} (h : codec.str P = codec.str Q) : P = Q :=
  Option.some.inj ((pubkeyOfKey_str codec P).symm.trans (h ▸ pubkeyOfKey_str codec Q))

/-- Two addresses whose texts follow the laws of `PubkeyCodec`; the concrete runs of the
later modules are played on them. -/
inductive SampleAddress
  | addr1
  | addr2
  deriving DecidableEq, Repr

def sampleCodec : PubkeyCodec SampleAddress where
  str
    | .addr1 => "ADDR1"
    | .addr2 => "ADDR2"
  fromString s := if s = "ADDR1" then some .addr1 else if s = "ADDR2" then some .addr2 else none
  fromString_eq_some s P := by
    by_cases h1 : s = "ADDR1" <;> by_cases h2 : s = "ADDR2" <;> cases P <;> simp_all
  dash_not_mem P := by cases P <;> decide

end DriftSubscriber

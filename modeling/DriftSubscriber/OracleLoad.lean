import Mathlib.Data.List.Dedup
import Mathlib.Data.String.Basic
import DriftSubscriber.Registry

/-!
# Loading the oracle accounts

`find_all_market_and_oracles` of `constants/configv1.py` (lines 235-304) reads the
oracle of every perp and spot market, keeps one `(pubkey, str(source))` pair each,
fetches the distinct oracle accounts in chunks of 75 through
`get_chunked_account_infos` (lines 107-126), and builds one `FullOracleWrapper` per
pair from the account of its pubkey.  The comments at lines 118-119 and 268 state
the alignment this relies on: `value[i]` of the concatenated reply answers
`pubkeys[i]`.

It holds: `chunks` cuts the keys into consecutive pieces of exactly the chunk size but the
last, so with replies that answer their chunks in order and at least one market, the loader
returns one wrapper per distinct pair, sorted, each decoded from its own pubkey's account.
With no market at all it raises at `chunk_results[0]`.
-/

namespace DriftSubscriber.OracleLoad

/-- The exceptions on this path: `range()` with step 0 inside `chunks`, the
`chunk_results[0]` of line 125, a failed `get_multiple_accounts` re-raised at
line 115, and the `ValueError` of lines 269-273. -/
inductive LoadError
  | rangeStepZero
  | indexOutOfRange
  | rpcFailed
  | countMismatch (requested got : Nat)
  deriving DecidableEq, Repr

/-- `chunks` (lines 103-104): `[array[i : i + size] for i in range(0, len(array), size)]`;
the range has `⌈len / size⌉` starts. -/
def chunks {α : Type} (array : List α) (size : Nat) : Except LoadError (List (List α)) :=
  if size = 0 then .error .rangeStepZero
  else .ok ((List.range' 0 ((array.length + size - 1) / size) size).map
    fun i => (array.drop i).take size)

section Chunks

variable {α : Type} (array : List α) (size : Nat)

/-- The pieces cut at `n` consecutive starts from `k` are the `n * size` elements from `k`. -/
theorem flatten_slices (k n : Nat) :
    ((List.range' k n size).map fun i => (array.drop i).take size).flatten =
      (array.drop k).take (n * size) := by
  induction n generalizing k with
  | zero => simp
  | succ n ih =>
    rw [List.range'_succ, List.map_cons, List.flatten_cons, ih, Nat.succ_mul,
      Nat.add_comm (n * size), List.take_add, List.drop_drop]

/-- `⌈len / size⌉` pieces of `size` cover the list. -/
theorem length_le_ceil_mul (hsize : 0 < size) :
    array.length ≤ (array.length + size - 1) / size * size := by
  have hdiv := Nat.div_add_mod (array.length + size - 1) size
  have hmod := Nat.mod_lt (array.length + size - 1) hsize
  rw [Nat.mul_comm] at hdiv
  omega

/-- For a positive size the pieces are consecutive and their concatenation is the list. -/
theorem chunks_flatten (hsize : 0 < size) :
    ∃ pieces, chunks array size = .ok pieces ∧ pieces.flatten = array := by
  refine ⟨_, if_neg (Nat.pos_iff_ne_zero.mp hsize), ?_⟩
  rw [flatten_slices, List.drop_zero, List.take_of_length_le (length_le_ceil_mul array size hsize)]

/-- Every piece holds at most `size` keys, and none is empty. -/
theorem chunks_piece_length (hsize : 0 < size) {pieces : List (List α)}
    (h : chunks array size = .ok pieces) :
    ∀ piece ∈ pieces, piece ≠ [] ∧ piece.length ≤ size := by
  rw [chunks, if_neg (Nat.pos_iff_ne_zero.mp hsize), Except.ok.injEq] at h
  subst h
  simp only [List.mem_map, List.mem_range', forall_exists_index, and_imp]
  rintro _ _ j hj rfl rfl
  have hlt : size * j < array.length := by
    have hstart := Nat.mul_le_mul_left size (Nat.succ_le_of_lt hj)
    have hceil := Nat.div_mul_le_self (array.length + size - 1) size
    rw [Nat.mul_succ] at hstart
    rw [Nat.mul_comm] at hceil
    omega
  refine ⟨fun hnil => ?_, List.length_take_le _ _⟩
  rw [List.take_eq_nil_iff, List.drop_eq_nil_iff] at hnil
  omega

/-- Every piece but the last holds exactly `size` keys. -/
theorem chunks_dropLast_length (hsize : 0 < size) {pieces : List (List α)}
    (h : chunks array size = .ok pieces) : ∀ piece ∈ pieces.dropLast, piece.length = size := by
  rw [chunks, if_neg (Nat.pos_iff_ne_zero.mp hsize), Except.ok.injEq] at h
  subst h
  have hceil := Nat.div_mul_le_self (array.length + size - 1) size
  cases hn : (array.length + size - 1) / size with
  | zero => simp
  | succ m =>
      rw [hn, Nat.succ_mul] at hceil
      rw [List.range'_concat, List.map_append, List.map_singleton, List.dropLast_concat]
      simp only [List.mem_map, List.mem_range', forall_exists_index, and_imp]
      rintro _ _ j hj rfl rfl
      have hlast := Nat.mul_le_mul_left size (Nat.succ_le_of_lt hj)
      rw [Nat.mul_succ, Nat.mul_comm size m] at hlast
      rw [List.length_take, List.length_drop]
      omega

/-- For a positive size, `chunks` cuts the list into consecutive pieces that concatenate
back to it: none is empty, and all hold exactly `size` keys but the last, which holds at most
`size`. -/
theorem chunks_slices (hsize : 0 < size) :
    ∃ pieces, chunks array size = .ok pieces ∧ pieces.flatten = array ∧
      (∀ piece ∈ pieces, piece ≠ [] ∧ piece.length ≤ size) ∧
      ∀ piece ∈ pieces.dropLast, piece.length = size := by
  obtain ⟨pieces, hok, hflat⟩ := chunks_flatten array size hsize
  exact ⟨pieces, hok, hflat, chunks_piece_length array size hsize hok,
    chunks_dropLast_length array size hsize hok⟩

/-- Five keys in pieces of two. -/
theorem chunks_slices_sample :
    0 < 2 ∧ ∃ pieces, chunks [1, 2, 3, 4, 5] 2 = .ok pieces ∧ pieces.flatten = [1, 2, 3, 4, 5] ∧
      (∀ piece ∈ pieces, piece ≠ [] ∧ piece.length ≤ 2) ∧ ∀ piece ∈ pieces.dropLast, piece.length = 2 :=
  ⟨by decide, chunks_slices [1, 2, 3, 4, 5] 2 (by decide)⟩

/-- A nonempty list's first piece is its first `size` keys. -/
theorem chunks_eq_cons (hsize : 0 < size) (harray : array ≠ []) :
    ∃ rest, chunks array size = .ok (array.take size :: rest) := by
  have hstarts : 0 < (array.length + size - 1) / size :=
    Nat.div_pos (by have := List.length_pos.mpr harray; omega) hsize
  obtain ⟨n, hn⟩ := Nat.exists_eq_add_of_lt hstarts
  rw [chunks, if_neg (Nat.pos_iff_ne_zero.mp hsize), hn, List.range'_succ, List.map_cons,
    List.drop_zero]
  exact ⟨_, rfl⟩

end Chunks

example : chunks [1, 2, 3, 4, 5] 2 = .ok [[1, 2], [3, 4], [5]] := rfl

/-- `solders.account.Account`, of which the loader reads only `data` (line 287). -/
structure Account where
  data : Payload

/-- `GetMultipleAccountsResp`: one value per requested key, `None` for a missing
account, and the slot of its `context`. -/
structure MultipleAccountsResp where
  value : List (Option Account)
  contextSlot : Int

/-- `get_chunked_account_infos` (lines 107-126).  `getMultipleAccounts` is the RPC,
failing with the exception it raises; `asyncio.gather` fails when one of them does. -/
def getChunkedAccountInfos {Pubkey ε : Type} (getMultipleAccounts : List Pubkey → Except ε MultipleAccountsResp)
    (pubkeys : List Pubkey) (chunkSize : Nat) : Except LoadError MultipleAccountsResp := do
  let pubkeyChunks ← chunks pubkeys chunkSize
  let chunkResults ← (pubkeyChunks.mapM getMultipleAccounts).mapError fun _ => .rpcFailed
  match chunkResults with
  | [] => throw .indexOutOfRange
  | first :: _ => pure ⟨(chunkResults.map MultipleAccountsResp.value).flatten, first.contextSlot⟩

section Aligned

variable {Pubkey ε : Type} (getMultipleAccounts : List Pubkey → Except ε MultipleAccountsResp)

theorem chunks_nil (chunkSize : Nat) : chunks ([] : List Pubkey) (chunkSize + 1) = .ok [] := by
  rw [chunks, if_neg (Nat.succ_ne_zero chunkSize), List.length_nil, Nat.zero_add,
    Nat.add_sub_cancel, Nat.div_eq_of_lt (Nat.lt_succ_self chunkSize)]
  rfl

/-- With no keys there is no chunk, no reply, and `chunk_results[0]` raises. -/
theorem getChunkedAccountInfos_nil (chunkSize : Nat) :
    getChunkedAccountInfos getMultipleAccounts [] (chunkSize + 1) = .error .indexOutOfRange := by
  simp only [getChunkedAccountInfos, chunks_nil]
  rfl

variable (accountOf : Pubkey → Option Account) (slotOf : List Pubkey → Int)

/-- Each reply lists one value per requested key, in request order. -/
theorem mapM_replies (hreply : ∀ chunk, getMultipleAccounts chunk = .ok ⟨chunk.map accountOf, slotOf chunk⟩)
    (pieces : List (List Pubkey)) :
    pieces.mapM getMultipleAccounts = .ok (pieces.map fun chunk => ⟨chunk.map accountOf, slotOf chunk⟩) := by
  induction pieces with
  | nil => rfl
  | cons chunk pieces ih => simp only [List.mapM_cons, hreply, ih]; rfl

/-- When each reply answers its own chunk in order, the concatenated values answer the
keys in order, and the context is the first chunk's. -/
theorem getChunkedAccountInfos_aligned
    (hreply : ∀ chunk, getMultipleAccounts chunk = .ok ⟨chunk.map accountOf, slotOf chunk⟩)
    {pubkeys : List Pubkey} {chunkSize : Nat} (hsize : 0 < chunkSize) (hkeys : pubkeys ≠ []) :
    getChunkedAccountInfos getMultipleAccounts pubkeys chunkSize =
      .ok ⟨pubkeys.map accountOf, slotOf (pubkeys.take chunkSize)⟩ := by
  obtain ⟨pieces, hpieces, hflat⟩ := chunks_flatten pubkeys chunkSize hsize
  obtain ⟨rest, hrest⟩ := chunks_eq_cons pubkeys chunkSize hsize hkeys
  have hvalues : ((pieces.map fun chunk => (⟨chunk.map accountOf, slotOf chunk⟩ : MultipleAccountsResp)).map
      MultipleAccountsResp.value).flatten = pubkeys.map accountOf := by
    rw [List.map_map, ← hflat, List.map_flatten]
    rfl
  rw [hrest, Except.ok.injEq] at hpieces
  subst hpieces
  simp only [getChunkedAccountInfos, hrest, mapM_replies getMultipleAccounts accountOf slotOf hreply]
  rw [← hvalues]
  rfl

end Aligned

/-- The `amm` of a perp market account, as far as the loader reads it. -/
structure Amm (Pubkey Source : Type) where
  oracle : Pubkey
  oracleSource : Source

/-- A perp market account; the loaders read `market_index`, `amm.oracle` and
`amm.oracle_source`. -/
structure PerpMarket (Pubkey Source : Type) where
  marketIndex : Int
  amm : Amm Pubkey Source

/-- A spot market account; the loaders read `market_index`, `oracle` and `oracle_source`. -/
structure SpotMarket (Pubkey Source : Type) where
  marketIndex : Int
  oracle : Pubkey
  oracleSource : Source

/-- `FullOracleWrapper` as lines 297-301 build it. -/
structure FullOracleWrapper (Pubkey Source Price : Type) where
  pubkey : Pubkey
  oracleSource : Source
  oraclePriceDataAndSlot : Option (DataAndSlot Price)

/-- Python's `<=` on two pairs of texts: lexicographic, each text by code points. -/
def strPairLE (a b : String × String) : Bool := decide (a.1 < b.1 ∨ a.1 = b.1 ∧ a.2 ≤ b.2)

theorem strPairLE_trans (a b c : String × String) (hab : strPairLE a b) (hbc : strPairLE b c) :
    strPairLE a c := by
  simp only [strPairLE, decide_eq_true_eq] at *
  rcases hab with hab | ⟨hab, hab'⟩ <;> rcases hbc with hbc | ⟨hbc, hbc'⟩
  · exact .inl (hab.trans hbc)
  · exact .inl (hbc ▸ hab)
  · exact .inl (hab ▸ hbc)
  · exact .inr ⟨hab.trans hbc, hab'.trans hbc'⟩

theorem strPairLE_total (a b : String × String) : (strPairLE a b || strPairLE b a) = true := by
  simp only [strPairLE, Bool.or_eq_true, decide_eq_true_eq]
  rcases lt_trichotomy a.1 b.1 with h | h | h
  · exact .inl (.inl h)
  · rcases le_total a.2 b.2 with h' | h'
    · exact .inl (.inr ⟨h, h'⟩)
    · exact .inr (.inr ⟨h.symm, h'⟩)
  · exact .inr (.inl h)

section Pairing

variable {Pubkey Source Price ε : Type} [DecidableEq Pubkey]
variable (codec : PubkeyCodec Pubkey) (sourceStr : Source → String)

/-- Lines 236-240: `oracle_pairs`, the perp markets' oracles, then the spot markets'. -/
def oraclePairs (perpMarkets : List (PerpMarket Pubkey Source))
    (spotMarkets : List (SpotMarket Pubkey Source)) : List (Pubkey × Source) :=
  perpMarkets.map (fun m => (m.amm.oracle, m.amm.oracleSource)) ++
    spotMarkets.map fun m => (m.oracle, m.oracleSource)

/-- One pass of lines 244-247: the first source seen under `(pubkey, str(source))` stays. -/
def keepFirstSource (uniqueOraclePairs : Dict (Pubkey × String) Source) (pair : Pubkey × Source) :
    Dict (Pubkey × String) Source :=
  if (pair.1, sourceStr pair.2) ∈ uniqueOraclePairs then uniqueOraclePairs
  else uniqueOraclePairs.insert (pair.1, sourceStr pair.2) pair.2

/-- Lines 243-247: `unique_oracle_pairs`. -/
def uniqueOraclePairs (oraclePairs : List (Pubkey × Source)) : Dict (Pubkey × String) Source :=
  oraclePairs.foldl (keepFirstSource sourceStr) Dict.empty

/-- Line 250: `sorted(unique_oracle_pairs.items(), key=lambda x: (str(x[0][0]), x[0][1]))`. -/
def sortedPairs (uniqueOraclePairs : Dict (Pubkey × String) Source) :
    List ((Pubkey × String) × Source) :=
  uniqueOraclePairs.entries.mergeSort fun x y =>
    strPairLE (codec.str x.1.1, x.1.2) (codec.str y.1.1, y.1.2)

/-- Line 253: `sorted(set(pubkey for pubkey, _ in unique_oracle_pairs.keys()), key=str)`. -/
def uniquePubkeys (uniqueOraclePairs : Dict (Pubkey × String) Source) : List Pubkey :=
  (uniqueOraclePairs.keys.map Prod.fst).dedup.mergeSort fun P Q => decide (codec.str P ≤ codec.str Q)

/-- Lines 277-279: `pubkey_to_account[pubkey] = oracle_ais.value[i]` along
`enumerate(unique_pubkeys)`. -/
def pubkeyToAccount (uniquePubkeys : List Pubkey) (value : List (Option Account)) :
    Dict Pubkey (Option Account) :=
  (uniquePubkeys.zip value).foldl (fun accounts entry => accounts.insert entry.1 entry.2) Dict.empty

/-- Lines 283-301: the wrapper of one sorted pair.  `decodeOracle` is `decode_oracle`,
`none` where it raises; a missing or `None` account gives no data. -/
def oracleWrapper (decodeOracle : Payload → Source → Option Price) (oracleSlot : Int)
    (pubkeyToAccount : Dict Pubkey (Option Account)) (pair : (Pubkey × String) × Source) :
    FullOracleWrapper Pubkey Source Price where
  pubkey := pair.1.1
  oracleSource := pair.2
  oraclePriceDataAndSlot :=
    match (pubkeyToAccount.get? pair.1.1).join with
    | some account => (decodeOracle account.data pair.2).map (DataAndSlot.mk oracleSlot)
    | none => none

/-- The oracle wrappers of `find_all_market_and_oracles` (lines 235-304), from the
fetched perp and spot markets; the accounts are fetched in chunks of 75. -/
def findAllMarketAndOracles (getMultipleAccounts : List Pubkey → Except ε MultipleAccountsResp)
    (decodeOracle : Payload → Source → Option Price) (perpMarkets : List (PerpMarket Pubkey Source))
    (spotMarkets : List (SpotMarket Pubkey Source)) :
    Except LoadError (List (FullOracleWrapper Pubkey Source Price)) := do
  let unique := uniqueOraclePairs sourceStr (oraclePairs perpMarkets spotMarkets)
  let sorted := sortedPairs codec unique
  let keys := uniquePubkeys codec unique
  let oracleAis ← getChunkedAccountInfos getMultipleAccounts keys 75
  if oracleAis.value.length ≠ keys.length then
    throw (.countMismatch keys.length oracleAis.value.length)
  let accounts := pubkeyToAccount keys oracleAis.value
  pure (sorted.map (oracleWrapper decodeOracle oracleAis.contextSlot accounts))

omit [DecidableEq Pubkey] in
theorem oraclePairs_ne_nil {perpMarkets : List (PerpMarket Pubkey Source)}
    {spotMarkets : List (SpotMarket Pubkey Source)} (h : perpMarkets ≠ [] ∨ spotMarkets ≠ []) :
    oraclePairs perpMarkets spotMarkets ≠ [] := by
  simpa only [oraclePairs, ne_eq, List.append_eq_nil, List.map_eq_nil_iff, not_and_or] using h

theorem mem_keepFirstSource (unique : Dict (Pubkey × String) Source) (pair : Pubkey × Source)
    (key : Pubkey × String) :
    key ∈ keepFirstSource sourceStr unique pair ↔ key = (pair.1, sourceStr pair.2) ∨ key ∈ unique := by
  unfold keepFirstSource
  split_ifs with h
  · exact ⟨.inr, fun hkey => hkey.elim (· ▸ h) id⟩
  · exact Dict.mem_insert _ _ _ _

/-- A pass adds at most the entry of its own pair, under its own key. -/
theorem mem_entries_keepFirstSource {unique : Dict (Pubkey × String) Source} {pair : Pubkey × Source}
    {e : (Pubkey × String) × Source} (he : e ∈ (keepFirstSource sourceStr unique pair).entries) :
    e ∈ unique.entries ∨ e = ((pair.1, sourceStr pair.2), pair.2) := by
  unfold keepFirstSource at he
  split_ifs at he with hmem
  · exact .inl he
  · rwa [Dict.entries_insert_of_not_mem _ _ _ hmem, List.mem_append, List.mem_singleton] at he

theorem mem_foldl_keepFirstSource (pairs : List (Pubkey × Source))
    (unique : Dict (Pubkey × String) Source) (key : Pubkey × String) :
    key ∈ pairs.foldl (keepFirstSource sourceStr) unique ↔
      key ∈ unique ∨ ∃ pair ∈ pairs, key = (pair.1, sourceStr pair.2) := by
  induction pairs generalizing unique with
  | nil => simp
  | cons pair pairs ih =>
    rw [List.foldl_cons, ih, mem_keepFirstSource, List.exists_mem_cons_iff, or_assoc]
    exact or_left_comm

theorem entries_foldl_keepFirstSource (pairs : List (Pubkey × Source))
    (unique : Dict (Pubkey × String) Source) {e : (Pubkey × String) × Source}
    (he : e ∈ (pairs.foldl (keepFirstSource sourceStr) unique).entries) :
    e ∈ unique.entries ∨ (e.1.1, e.2) ∈ pairs ∧ e.1.2 = sourceStr e.2 := by
  induction pairs generalizing unique with
  | nil => exact .inl he
  | cons pair pairs ih =>
    rcases ih _ he with he | ⟨hpair, hstr⟩
    · rcases mem_entries_keepFirstSource sourceStr he with he | rfl
      · exact .inl he
      · exact .inr ⟨List.mem_cons_self _ _, rfl⟩
    · exact .inr ⟨List.mem_cons_of_mem _ hpair, hstr⟩

/-- The keys are the distinct `(pubkey, str(source))` of the pairs. -/
theorem mem_uniqueOraclePairs (pairs : List (Pubkey × Source)) (key : Pubkey × String) :
    key ∈ uniqueOraclePairs sourceStr pairs ↔ ∃ pair ∈ pairs, key = (pair.1, sourceStr pair.2) := by
  rw [uniqueOraclePairs, mem_foldl_keepFirstSource]
  simp

/-- Each entry keeps a source of one of the pairs, under that pair's key. -/
theorem of_mem_uniqueOraclePairs (pairs : List (Pubkey × Source)) {e : (Pubkey × String) × Source}
    (he : e ∈ (uniqueOraclePairs sourceStr pairs).entries) :
    (e.1.1, e.2) ∈ pairs ∧ e.1.2 = sourceStr e.2 :=
  (entries_foldl_keepFirstSource sourceStr pairs _ he).resolve_left (List.not_mem_nil e)

omit [DecidableEq Pubkey] in
theorem sortedPairs_perm (unique : Dict (Pubkey × String) Source) :
    (sortedPairs codec unique).Perm unique.entries :=
  List.mergeSort_perm _ _

omit [DecidableEq Pubkey] in
theorem sortedPairs_sorted (unique : Dict (Pubkey × String) Source) :
    (sortedPairs codec unique).Pairwise fun x y =>
      strPairLE (codec.str x.1.1, x.1.2) (codec.str y.1.1, y.1.2) := by
  apply List.sorted_mergeSort
  exacts [fun _ _ _ => strPairLE_trans _ _ _, fun _ _ => strPairLE_total _ _]

theorem mem_uniquePubkeys (unique : Dict (Pubkey × String) Source) (P : Pubkey) :
    P ∈ uniquePubkeys codec unique ↔ P ∈ unique.keys.map Prod.fst := by
  rw [uniquePubkeys, List.mem_mergeSort, List.mem_dedup]

/-- Writing each key's own account along the keys leaves every key at its account,
whatever the order and repetitions. -/
theorem get?_foldl_insert_zip (keys : List Pubkey) (accountOf : Pubkey → Option Account)
    (accounts : Dict Pubkey (Option Account)) (P : Pubkey) :
    ((keys.zip (keys.map accountOf)).foldl (fun accounts entry => accounts.insert entry.1 entry.2)
      accounts).get? P = if P ∈ keys then some (accountOf P) else accounts.get? P := by
  induction keys generalizing accounts with
  | nil => simp
  | cons Q keys ih =>
    rw [List.map_cons, List.zip_cons_cons, List.foldl_cons, ih, Dict.get?_insert]
    by_cases hP : P ∈ keys <;> by_cases hQ : P = Q <;> simp [hP, hQ]

theorem get?_pubkeyToAccount {keys : List Pubkey} (accountOf : Pubkey → Option Account) {P : Pubkey}
    (hP : P ∈ keys) : (pubkeyToAccount keys (keys.map accountOf)).get? P = some (accountOf P) := by
  rw [pubkeyToAccount, get?_foldl_insert_zip, if_pos hP]

/-- A wrapper's data is its source's decoding of its own pubkey's account. -/
theorem oracleWrapper_data (decodeOracle : Payload → Source → Option Price) (oracleSlot : Int)
    {accounts : Dict Pubkey (Option Account)} {pair : (Pubkey × String) × Source}
    {account : Option Account} (h : accounts.get? pair.1.1 = some account) :
    (oracleWrapper decodeOracle oracleSlot accounts pair).oraclePriceDataAndSlot =
      (account.bind fun a => decodeOracle a.data pair.2).map (DataAndSlot.mk oracleSlot) := by
  unfold oracleWrapper
  rw [h]
  cases account <;> rfl

/-- Each sorted pair is a pair of the input, kept under its own key. -/
theorem of_mem_sortedPairs {pairs : List (Pubkey × Source)} {e : (Pubkey × String) × Source}
    (he : e ∈ sortedPairs codec (uniqueOraclePairs sourceStr pairs)) :
    (e.1.1, e.2) ∈ pairs ∧ e.1.2 = sourceStr e.2 :=
  of_mem_uniqueOraclePairs sourceStr pairs ((sortedPairs_perm codec _).subset he)

/-- The pubkey of each sorted pair is one of the keys fetched. -/
theorem mem_uniquePubkeys_of_sorted {unique : Dict (Pubkey × String) Source}
    {e : (Pubkey × String) × Source} (he : e ∈ sortedPairs codec unique) :
    e.1.1 ∈ uniquePubkeys codec unique :=
  (mem_uniquePubkeys codec unique _).mpr (List.mem_map_of_mem Prod.fst
    (List.mem_map_of_mem Prod.fst ((sortedPairs_perm codec unique).subset he)))

/-- The wrappers' `(pubkey, str(source))` are the keys of the sorted pairs. -/
theorem oracleWrapper_keys (decodeOracle : Payload → Source → Option Price) (oracleSlot : Int)
    (accounts : Dict Pubkey (Option Account)) (pairs : List (Pubkey × Source)) :
    ((sortedPairs codec (uniqueOraclePairs sourceStr pairs)).map
        (oracleWrapper decodeOracle oracleSlot accounts)).map
      (fun w => (w.pubkey, sourceStr w.oracleSource)) =
      (sortedPairs codec (uniqueOraclePairs sourceStr pairs)).map Prod.fst := by
  rw [List.map_map]
  exact List.map_congr_left fun e he => Prod.ext rfl (of_mem_sortedPairs codec sourceStr he).2.symm

/-- With replies that answer their chunks in order and at least one key to fetch, the
loader wraps each sorted pair with the accounts fetched for the keys. -/
theorem findAllMarketAndOracles_ok (getMultipleAccounts : List Pubkey → Except ε MultipleAccountsResp)
    (decodeOracle : Payload → Source → Option Price) (accountOf : Pubkey → Option Account)
    (slotOf : List Pubkey → Int)
    (hreply : ∀ chunk, getMultipleAccounts chunk = .ok ⟨chunk.map accountOf, slotOf chunk⟩)
    {perpMarkets : List (PerpMarket Pubkey Source)} {spotMarkets : List (SpotMarket Pubkey Source)}
    (hkeys : uniquePubkeys codec (uniqueOraclePairs sourceStr (oraclePairs perpMarkets spotMarkets)) ≠ []) :
    findAllMarketAndOracles codec sourceStr getMultipleAccounts decodeOracle perpMarkets spotMarkets =
      .ok ((sortedPairs codec (uniqueOraclePairs sourceStr (oraclePairs perpMarkets spotMarkets))).map
        (oracleWrapper decodeOracle
          (slotOf ((uniquePubkeys codec (uniqueOraclePairs sourceStr (oraclePairs perpMarkets spotMarkets))).take 75))
          (pubkeyToAccount (uniquePubkeys codec (uniqueOraclePairs sourceStr (oraclePairs perpMarkets spotMarkets)))
            ((uniquePubkeys codec (uniqueOraclePairs sourceStr (oraclePairs perpMarkets spotMarkets))).map
              accountOf)))) := by
  rw [findAllMarketAndOracles,
    getChunkedAccountInfos_aligned getMultipleAccounts accountOf slotOf hreply (by decide) hkeys]
  simp only [bind, Except.bind, List.length_map, ne_eq, not_true_eq_false, if_false]
  rfl

/-- The keys of the loader's first `get_multiple_accounts` call (lines 110-113): the first
75 of `unique_pubkeys`, as `chunks` cuts them. -/
def firstChunk (perpMarkets : List (PerpMarket Pubkey Source)) (spotMarkets : List (SpotMarket Pubkey Source)) :
    List Pubkey :=
  (uniquePubkeys codec (uniqueOraclePairs sourceStr (oraclePairs perpMarkets spotMarkets))).take 75

/-- From any fetched markets, at least one, and replies that answer their chunks in
order, the loader returns one wrapper per distinct `(pubkey, str(source))`, in the order
of `(str(pubkey), str(source))`, each holding its source's decoding of its own pubkey's
account at the slot of the reply to the first chunk. -/
theorem findAllMarketAndOracles_wrappers
    (getMultipleAccounts : List Pubkey → Except ε MultipleAccountsResp)
    (decodeOracle : Payload → Source → Option Price) (accountOf : Pubkey → Option Account)
    (slotOf : List Pubkey → Int)
    (hreply : ∀ chunk, getMultipleAccounts chunk = .ok ⟨chunk.map accountOf, slotOf chunk⟩)
    {perpMarkets : List (PerpMarket Pubkey Source)} {spotMarkets : List (SpotMarket Pubkey Source)}
    (hmarkets : perpMarkets ≠ [] ∨ spotMarkets ≠ []) :
    ∃ wrappers,
      findAllMarketAndOracles codec sourceStr getMultipleAccounts decodeOracle perpMarkets
        spotMarkets = .ok wrappers ∧
      (wrappers.map fun w => (w.pubkey, sourceStr w.oracleSource)).Nodup ∧
      (∀ pair ∈ oraclePairs perpMarkets spotMarkets,
        (pair.1, sourceStr pair.2) ∈ wrappers.map fun w => (w.pubkey, sourceStr w.oracleSource)) ∧
      (∀ w ∈ wrappers, (w.pubkey, w.oracleSource) ∈ oraclePairs perpMarkets spotMarkets ∧
        w.oraclePriceDataAndSlot = ((accountOf w.pubkey).bind fun account =>
          decodeOracle account.data w.oracleSource).map
            (DataAndSlot.mk (slotOf (firstChunk codec sourceStr perpMarkets spotMarkets)))) ∧
      wrappers.Pairwise fun w w' =>
        strPairLE (codec.str w.pubkey, sourceStr w.oracleSource)
          (codec.str w'.pubkey, sourceStr w'.oracleSource) := by
  obtain ⟨pair, hpair⟩ := List.exists_mem_of_ne_nil _ (oraclePairs_ne_nil hmarkets)
  have hkeys := List.ne_nil_of_mem ((mem_uniquePubkeys codec _ pair.1).mpr
    (List.mem_map_of_mem Prod.fst ((mem_uniqueOraclePairs sourceStr _ _).mpr ⟨pair, hpair, rfl⟩)))
  have hperm := (sortedPairs_perm codec (uniqueOraclePairs sourceStr (oraclePairs perpMarkets spotMarkets))).map
    Prod.fst
  refine ⟨_, findAllMarketAndOracles_ok codec sourceStr getMultipleAccounts decodeOracle accountOf slotOf hreply hkeys,
    ?nodup, ?covers, ?decoded, ?sorted⟩
  case nodup => exact (oracleWrapper_keys codec sourceStr _ _ _ _).symm ▸ hperm.nodup_iff.mpr (Dict.nodup _)
  case covers =>
    intro pair hpair
    rw [oracleWrapper_keys]
    exact hperm.mem_iff.mpr ((mem_uniqueOraclePairs sourceStr _ _).mpr ⟨pair, hpair, rfl⟩)
  case decoded =>
    simp only [List.mem_map, forall_exists_index, and_imp]
    rintro _ e he rfl
    exact ⟨(of_mem_sortedPairs codec sourceStr he).1, oracleWrapper_data decodeOracle _
      (get?_pubkeyToAccount accountOf (mem_uniquePubkeys_of_sorted codec he))⟩
  case sorted =>
    refine List.pairwise_map.mpr ((sortedPairs_sorted codec _).imp_of_mem fun {x y} hx hy hxy => ?_)
    show strPairLE (codec.str x.1.1, sourceStr x.2) (codec.str y.1.1, sourceStr y.2)
    rwa [← (of_mem_sortedPairs codec sourceStr hx).2, ← (of_mem_sortedPairs codec sourceStr hy).2]

/-- An RPC that answers every key with an account holding no bytes, at slot `5`. -/
def emptyAccountsReply (chunk : List SampleAddress) : Except Unit MultipleAccountsResp :=
  .ok ⟨chunk.map fun _ => some ⟨.bytes []⟩, 5⟩

/-- One spot market, whose `pyth` oracle is `ADDR1`. -/
theorem findAllMarketAndOracles_wrappers_sample :
    (∀ chunk, emptyAccountsReply chunk = .ok ⟨chunk.map fun _ => some ⟨.bytes []⟩, (fun _ => 5) chunk⟩) ∧
      (([] : List (PerpMarket SampleAddress String)) ≠ [] ∨
        [(⟨0, .addr1, "pyth"⟩ : SpotMarket SampleAddress String)] ≠ []) ∧
      ∃ wrappers,
        findAllMarketAndOracles sampleCodec id emptyAccountsReply (fun data _ => some data) []
          [(⟨0, .addr1, "pyth"⟩ : SpotMarket SampleAddress String)] = .ok wrappers ∧
        (wrappers.map fun w => (w.pubkey, id w.oracleSource)).Nodup ∧
        (∀ pair ∈ oraclePairs [] [(⟨0, .addr1, "pyth"⟩ : SpotMarket SampleAddress String)],
          (pair.1, id pair.2) ∈ wrappers.map fun w => (w.pubkey, id w.oracleSource)) ∧
        (∀ w ∈ wrappers,
          (w.pubkey, w.oracleSource) ∈ oraclePairs [] [(⟨0, .addr1, "pyth"⟩ : SpotMarket SampleAddress String)] ∧
          w.oraclePriceDataAndSlot = some ⟨5, .bytes []⟩) ∧
        wrappers.Pairwise fun w w' =>
          strPairLE (sampleCodec.str w.pubkey, id w.oracleSource) (sampleCodec.str w'.pubkey, id w'.oracleSource) :=
  ⟨fun _ => rfl, .inr (List.cons_ne_nil _ _),
    findAllMarketAndOracles_wrappers sampleCodec id emptyAccountsReply (fun data _ => some data)
      (fun _ => some ⟨.bytes []⟩) (fun _ => 5) (fun _ => rfl) (.inr (List.cons_ne_nil _ _))⟩

/-- With no market there is no key to fetch, and the loader raises at `chunk_results[0]`
instead of returning no wrapper. -/
theorem findAllMarketAndOracles_no_markets
    (getMultipleAccounts : List Pubkey → Except ε MultipleAccountsResp)
    (decodeOracle : Payload → Source → Option Price) :
    findAllMarketAndOracles codec sourceStr getMultipleAccounts decodeOracle [] [] =
      .error .indexOutOfRange := by
  have hkeys : uniquePubkeys codec (uniqueOraclePairs sourceStr (oraclePairs
      ([] : List (PerpMarket Pubkey Source)) [])) = [] := by
    rw [uniquePubkeys]
    exact List.mergeSort_nil
  simp only [findAllMarketAndOracles, hkeys, getChunkedAccountInfos, chunks_nil]
  rfl

end Pairing

end DriftSubscriber.OracleLoad

import DriftSubscriber.OracleLoad

/-!
# Oracle infos without data, and the static market tables

Two more readers of the markets' oracles in `constants/configv1.py`.
`find_all_market_and_oracles_no_data_and_slots` (lines 129-155) keys its `oracle_infos`
by `str(oracle)`, so a later market overwrites an earlier one's source under the same
address, where `find_all_market_and_oracles` keeps a wrapper per `(pubkey, str(source))`.
The two still fetch the same oracle accounts: the addresses of the infos are the
`unique_pubkeys` of the full loader, each once, with the source of the last market that
names it.

`get_markets_and_oracles` (lines 324-361) reads the static `Config` tables instead: the
configs of the requested indexes, and the quote spot market `spot_markets[0]` whenever
perp markets are requested.  It returns exactly when some index list is given, every
index has a config, and the spot table is not empty when perp markets are requested;
the spot indexes it returns never include the requested ones.
-/

namespace DriftSubscriber.OracleLoad

/-- `OracleInfo(oracle, oracle_source)`. -/
structure OracleInfo (Pubkey Source : Type) where
  pubkey : Pubkey
  source : Source

section NoData

variable {Pubkey Source : Type} (codec : PubkeyCodec Pubkey)

/-- Lines 138 and 145: `oracle_infos[str(oracle)] = OracleInfo(oracle, oracle_source)`. -/
def recordOracleInfo (oracleInfos : Dict String (OracleInfo Pubkey Source)) (pair : Pubkey × Source) :
    Dict String (OracleInfo Pubkey Source) :=
  oracleInfos.insert (codec.str pair.1) ⟨pair.1, pair.2⟩

variable [DecidableEq Pubkey]

/-- `find_all_market_and_oracles_no_data_and_slots` (lines 129-155), from the fetched perp
and spot markets: their indexes, and `list(oracle_infos.values())`. -/
def findAllMarketAndOraclesNoDataAndSlots (perpMarkets : List (PerpMarket Pubkey Source))
    (spotMarkets : List (SpotMarket Pubkey Source)) :
    List Int × List Int × List (OracleInfo Pubkey Source) :=
  (perpMarkets.map PerpMarket.marketIndex, spotMarkets.map SpotMarket.marketIndex,
    ((oraclePairs perpMarkets spotMarkets).foldl (recordOracleInfo codec) .empty).entries.map Prod.snd)

omit [DecidableEq Pubkey] in
/-- After the assignments of `pairs`, a text holds the info of the last pair of that
address, or what it held before. -/
theorem get?_foldl_recordOracleInfo (pairs : List (Pubkey × Source))
    (oracleInfos : Dict String (OracleInfo Pubkey Source)) (k : String) :
    (pairs.foldl (recordOracleInfo codec) oracleInfos).get? k =
      ((pairs.reverse.find? fun pair => codec.str pair.1 = k).map fun pair => ⟨pair.1, pair.2⟩).or
        (oracleInfos.get? k) := by
  induction pairs generalizing oracleInfos with
  | nil => rfl
  | cons pair pairs ih =>
      rw [List.foldl_cons, ih, List.reverse_cons, List.find?_append]
      cases pairs.reverse.find? fun pair => codec.str pair.1 = k with
      | some _ => rfl
      | none =>
          by_cases hk : codec.str pair.1 = k
          · simp [recordOracleInfo, hk]
          · simp [recordOracleInfo, hk, Ne.symm hk]

/-- Each info of the loader sits under its own address's text and is the last pair of
that address. -/
theorem mem_entries_noData {pairs : List (Pubkey × Source)} {e : String × OracleInfo Pubkey Source}
    (he : e ∈ (pairs.foldl (recordOracleInfo codec) .empty).entries) :
    e.1 = codec.str e.2.pubkey ∧
      pairs.reverse.find? (fun pair => pair.1 = e.2.pubkey) = some (e.2.pubkey, e.2.source) := by
  obtain ⟨k, info⟩ := e
  have hget : (pairs.foldl (recordOracleInfo codec) .empty).get? k = some info :=
    Dict.get?_of_mem_entries _ he
  rw [get?_foldl_recordOracleInfo, Dict.get?_empty, Option.or_none] at hget
  obtain ⟨pair, hfind, rfl⟩ := Option.map_eq_some'.mp hget
  have hkey : codec.str pair.1 = k := of_decide_eq_true (List.find?_some hfind :)
  have hpred : (fun pair' : Pubkey × Source => decide (pair'.1 = pair.1)) =
      fun pair' => decide (codec.str pair'.1 = k) :=
    funext fun _ => decide_eq_decide.mpr ⟨fun h => h ▸ hkey, fun h => str_injective codec (h.trans hkey.symm)⟩
  show k = codec.str pair.1 ∧
    List.find? (fun pair' => decide (pair'.1 = pair.1)) pairs.reverse = some (pair.1, pair.2)
  rw [hpred, hfind]
  exact ⟨hkey.symm, rfl⟩

/-- The addresses of the infos are those the markets name. -/
theorem mem_noData_pubkeys (pairs : List (Pubkey × Source)) (P : Pubkey) :
    P ∈ ((pairs.foldl (recordOracleInfo codec) .empty).entries.map Prod.snd).map OracleInfo.pubkey ↔
      ∃ pair ∈ pairs, pair.1 = P := by
  simp only [List.map_map, List.mem_map, Function.comp]
  constructor
  · rintro ⟨e, he, rfl⟩
    exact ⟨_, List.mem_reverse.mp (List.mem_of_find?_eq_some (mem_entries_noData codec he).2), rfl⟩
  · rintro ⟨pair, hpair, rfl⟩
    have hsome : ((pairs.foldl (recordOracleInfo codec) .empty).get? (codec.str pair.1)).isSome := by
      rw [get?_foldl_recordOracleInfo, Dict.get?_empty, Option.or_none, Option.isSome_map',
        List.find?_isSome]
      exact ⟨pair, List.mem_reverse.mpr hpair, decide_eq_true rfl⟩
    obtain ⟨e, he, hkey⟩ := List.mem_map.mp ((Dict.mem_iff_get?_isSome _ _).mpr hsome)
    exact ⟨e, he, str_injective codec ((mem_entries_noData codec he).1.symm.trans hkey)⟩

theorem noData_pubkeys_nodup (pairs : List (Pubkey × Source)) :
    (((pairs.foldl (recordOracleInfo codec) .empty).entries.map Prod.snd).map OracleInfo.pubkey).Nodup := by
  have hkeys := (pairs.foldl (recordOracleInfo codec) .empty).nodup
  rw [List.map_congr_left fun e he => (mem_entries_noData codec he).1] at hkeys
  refine List.Nodup.of_map codec.str ?_
  rwa [List.map_map, List.map_map]

variable (sourceStr : Source → String)

theorem uniquePubkeys_nodup (unique : Dict (Pubkey × String) Source) :
    (uniquePubkeys codec unique).Nodup :=
  (List.mergeSort_perm _ _).nodup_iff.mpr (List.nodup_dedup _)

/-- The loader without data names the oracle accounts the full loader fetches, each once,
and gives each the source of the last market that names it; the full loader keeps one
wrapper per source instead. -/
theorem noDataAndSlots_oracleInfos (perpMarkets : List (PerpMarket Pubkey Source))
    (spotMarkets : List (SpotMarket Pubkey Source)) :
    ((findAllMarketAndOraclesNoDataAndSlots codec perpMarkets spotMarkets).2.2.map OracleInfo.pubkey).Perm
        (uniquePubkeys codec (uniqueOraclePairs sourceStr (oraclePairs perpMarkets spotMarkets))) ∧
      ∀ info ∈ (findAllMarketAndOraclesNoDataAndSlots codec perpMarkets spotMarkets).2.2,
        (oraclePairs perpMarkets spotMarkets).reverse.find? (fun pair => pair.1 = info.pubkey) =
          some (info.pubkey, info.source) := by
  refine ⟨(List.perm_ext_iff_of_nodup (noData_pubkeys_nodup codec _) (uniquePubkeys_nodup codec _)).mpr
    fun P => ?_, ?_⟩
  · rw [mem_noData_pubkeys, mem_uniquePubkeys]
    simp only [List.mem_map, Dict.mem_keys, mem_uniqueOraclePairs]
    exact ⟨fun ⟨pair, hpair, hP⟩ => ⟨_, ⟨pair, hpair, rfl⟩, hP⟩,
      fun ⟨_, ⟨pair, hpair, hkey⟩, hP⟩ => ⟨pair, hpair, by rw [← hP, hkey]⟩⟩
  · intro info hinfo
    obtain ⟨e, he, rfl⟩ := List.mem_map.mp hinfo
    exact (mem_entries_noData codec he).2

end NoData

section Tables

variable {Pubkey Source : Type}

/-- The fields of a `SpotMarketConfig` or a `PerpMarketConfig` that the lookups read. -/
structure MarketConfig (Pubkey Source : Type) where
  marketIndex : Int
  oracle : Pubkey
  oracleSource : Source

/-- A `Config` (lines 43-53) as `get_markets_and_oracles` reads it: its market tables. -/
structure Config (Pubkey Source : Type) where
  perpMarkets : List (MarketConfig Pubkey Source)
  spotMarkets : List (MarketConfig Pubkey Source)

/-- The exceptions of `get_markets_and_oracles`. -/
inductive ConfigError
  /-- line 335 -/
  | valueError (message : String)
  /-- `market_config.oracle` on the `None` of an index without a config (lines 343, 358) -/
  | attributeError
  /-- `config.spot_markets[0]` of an empty table (line 350) -/
  | indexError
  deriving DecidableEq

/-- `find_market_config_by_index` (lines 315-321): the first config of the index.  Every
config has a `market_index`, so the `hasattr` test always holds. -/
def findMarketConfigByIndex (marketConfigs : List (MarketConfig Pubkey Source)) (marketIndex : Int) :
    Option (MarketConfig Pubkey Source) :=
  marketConfigs.find? fun config => config.marketIndex = marketIndex

/-- `OracleInfo(market_config.oracle, market_config.oracle_source)`. -/
def MarketConfig.oracleInfo (config : MarketConfig Pubkey Source) : OracleInfo Pubkey Source :=
  ⟨config.oracle, config.oracleSource⟩

/-- The loops of lines 338-344 and 353-359: the oracle info of each index's config, in
order, raising at the first index without one. -/
def oracleInfosOf (marketConfigs : List (MarketConfig Pubkey Source)) :
    List Int → Except ConfigError (List (OracleInfo Pubkey Source))
  | [] => .ok []
  | marketIndex :: rest =>
      match findMarketConfigByIndex marketConfigs marketIndex with
      | none => .error .attributeError
      | some config => (oracleInfosOf marketConfigs rest).map (config.oracleInfo :: ·)

/-- `get_markets_and_oracles` (lines 324-361) on `configs[env]`: the spot oracle infos,
the perp oracle infos and `spot_market_indexes`. -/
def getMarketsAndOracles (config : Config Pubkey Source) (perpMarkets spotMarkets : Option (List Int)) :
    Except ConfigError (List (OracleInfo Pubkey Source) × List (OracleInfo Pubkey Source) × List Int) := do
  if perpMarkets.isNone && spotMarkets.isNone then throw (.valueError "no indexes provided")
  let spotInfos ← match spotMarkets with
    | some spotMarkets => oracleInfosOf config.spotMarkets spotMarkets
    | none => pure []
  match perpMarkets with
  | none => pure (spotInfos, [], [])
  | some perpMarkets =>
      match config.spotMarkets with
      | [] => throw .indexError
      | quoteMarket :: _ =>
          let perpInfos ← oracleInfosOf config.perpMarkets perpMarkets
          pure (spotInfos ++ [quoteMarket.oracleInfo], perpInfos, [0])

/-- The info a lookup of `marketIndex` gives, `none` without a config. -/
def infoAt (marketConfigs : List (MarketConfig Pubkey Source)) (marketIndex : Int) :
    Option (OracleInfo Pubkey Source) :=
  (findMarketConfigByIndex marketConfigs marketIndex).map MarketConfig.oracleInfo

variable (marketConfigs : List (MarketConfig Pubkey Source))

/-- The loop returns exactly when every index has a config, with their infos in order. -/
theorem oracleInfosOf_eq_ok (indexes : List Int) (infos : List (OracleInfo Pubkey Source)) :
    oracleInfosOf marketConfigs indexes = .ok infos ↔ indexes.map (infoAt marketConfigs) = infos.map some := by
  induction indexes generalizing infos with
  | nil => cases infos <;> simp [oracleInfosOf]
  | cons marketIndex indexes ih =>
      simp only [oracleInfosOf]
      cases hfind : findMarketConfigByIndex marketConfigs marketIndex with
      | none => cases infos <;> simp [infoAt, hfind]
      | some config =>
          have hinfo : infoAt marketConfigs marketIndex = some config.oracleInfo := by rw [infoAt, hfind]; rfl
          cases infos with
          | nil => cases oracleInfosOf marketConfigs indexes <;> simp [Except.map]
          | cons info infos =>
              rw [List.map_cons, List.map_cons, hinfo, List.cons.injEq, Option.some.injEq, ← ih]
              cases oracleInfosOf marketConfigs indexes <;> simp [Except.map]

theorem oracleInfosOf_ok_iff (indexes : List Int) :
    (∃ infos, oracleInfosOf marketConfigs indexes = .ok infos) ↔
      ∀ marketIndex ∈ indexes, ∃ config ∈ marketConfigs, config.marketIndex = marketIndex := by
  induction indexes with
  | nil => simp [oracleInfosOf]
  | cons marketIndex indexes ih =>
      rw [List.forall_mem_cons, ← ih]
      simp only [oracleInfosOf]
      cases hfind : findMarketConfigByIndex marketConfigs marketIndex with
      | none =>
          simp only [findMarketConfigByIndex, List.find?_eq_none, decide_eq_true_eq] at hfind
          exact iff_of_false (fun ⟨_, h⟩ => Except.noConfusion h)
            fun ⟨⟨config, hmem, hindex⟩, _⟩ => hfind config hmem hindex
      | some config =>
          have hfound : ∃ config ∈ marketConfigs, config.marketIndex = marketIndex :=
            ⟨config, List.mem_of_find?_eq_some hfind, of_decide_eq_true (List.find?_some hfind :)⟩
          cases oracleInfosOf marketConfigs indexes <;> simp [Except.map, hfound]

section Except

variable {ε α β : Type} {x : Except ε α}

theorem except_map_eq_ok {f : α → β} {b : β} : f <$> x = .ok b ↔ ∃ a, x = .ok a ∧ f a = b := by
  cases x <;> simp [Functor.map, Except.map]

theorem except_bind_eq_ok {f : α → Except ε β} {b : β} :
    x >>= f = .ok b ↔ ∃ a, x = .ok a ∧ f a = .ok b := by
  cases x <;> simp [bind, Except.bind]

theorem except_throw_eq_ok {e : ε} {a : α} : (throw e : Except ε α) = .ok a ↔ False := by
  simp [throw, throwThe, MonadExceptOf.throw]

theorem exists_map_eq_ok {f : α → β} : (∃ b, f <$> x = .ok b) ↔ ∃ a, x = .ok a := by
  cases x <;> simp [Functor.map, Except.map]

theorem exists_bind_eq_ok {f : α → Except ε β} :
    (∃ b, x >>= f = .ok b) ↔ ∃ a, x = .ok a ∧ ∃ b, f a = .ok b := by
  cases x <;> simp [bind, Except.bind]

theorem exists_throw_eq_ok {e : ε} : (∃ a, (throw e : Except ε α) = .ok a) ↔ False := by
  simp [throw, throwThe, MonadExceptOf.throw]

end Except

variable (config : Config Pubkey Source)

/-- `get_markets_and_oracles` returns exactly when some index list is given, every
requested index has a config in its table, and the spot table is not empty when perp
markets are requested. -/
theorem getMarketsAndOracles_ok_iff (perpMarkets spotMarkets : Option (List Int)) :
    (∃ result, getMarketsAndOracles config perpMarkets spotMarkets = .ok result) ↔
      (perpMarkets.isSome ∨ spotMarkets.isSome) ∧
      (∀ marketIndex ∈ spotMarkets.getD [], ∃ c ∈ config.spotMarkets, c.marketIndex = marketIndex) ∧
      (∀ marketIndex ∈ perpMarkets.getD [], ∃ c ∈ config.perpMarkets, c.marketIndex = marketIndex) ∧
      (perpMarkets.isSome → config.spotMarkets ≠ []) := by
  simp only [← oracleInfosOf_ok_iff, getMarketsAndOracles]
  cases perpMarkets <;> cases spotMarkets <;> cases config.spotMarkets <;>
    simp [exists_map_eq_ok, exists_bind_eq_ok, exists_throw_eq_ok, oracleInfosOf, -Prod.exists]

/-- What `get_markets_and_oracles` returns: the infos of the requested spot markets'
configs in order, then the quote spot market's when perp markets are requested; the
infos of the requested perp markets' configs; and as spot market indexes `[0]` when perp
markets are requested and `[]` otherwise, never the requested spot indexes. -/
theorem getMarketsAndOracles_result {perpMarkets spotMarkets : Option (List Int)}
    {spotInfos perpInfos : List (OracleInfo Pubkey Source)} {spotMarketIndexes : List Int}
    (h : getMarketsAndOracles config perpMarkets spotMarkets = .ok (spotInfos, perpInfos, spotMarketIndexes)) :
    spotInfos.map some = (spotMarkets.getD []).map (infoAt config.spotMarkets) ++
        (if perpMarkets.isSome then [config.spotMarkets.head?.map MarketConfig.oracleInfo] else []) ∧
      perpInfos.map some = (perpMarkets.getD []).map (infoAt config.perpMarkets) ∧
      spotMarketIndexes = if perpMarkets.isSome then [0] else [] := by
  revert h
  simp only [getMarketsAndOracles]
  cases perpMarkets <;> cases spotMarkets <;> cases config.spotMarkets <;>
    simp [except_map_eq_ok, except_bind_eq_ok, except_throw_eq_ok, oracleInfosOf_eq_ok, oracleInfosOf] <;>
    (intros; subst_vars; simp_all)

end Tables

/-- The quote spot market `0` and spot market `1`, and perp market `0`, each with its own
oracle. -/
def sampleConfig : Config String String where
  perpMarkets := [⟨0, "SOL-PERP-ORACLE", "pyth"⟩]
  spotMarkets := [⟨0, "USDC-ORACLE", "pyth"⟩, ⟨1, "SOL-ORACLE", "pyth"⟩]

/-- Spot market `1` and perp market `0` requested: the quote market's info follows the
requested spot market's, and the spot indexes are `[0]`. -/
theorem getMarketsAndOracles_result_sample :
    getMarketsAndOracles sampleConfig (some [0]) (some [1]) =
        .ok ([⟨"SOL-ORACLE", "pyth"⟩, ⟨"USDC-ORACLE", "pyth"⟩], [⟨"SOL-PERP-ORACLE", "pyth"⟩], [0]) ∧
      [some ⟨"SOL-ORACLE", "pyth"⟩, some ⟨"USDC-ORACLE", "pyth"⟩] =
          [1].map (infoAt sampleConfig.spotMarkets) ++ [sampleConfig.spotMarkets.head?.map MarketConfig.oracleInfo] ∧
        [some ⟨"SOL-PERP-ORACLE", "pyth"⟩] = [0].map (infoAt sampleConfig.perpMarkets) ∧ ([0] : List Int) = [0] := by
  have h : getMarketsAndOracles sampleConfig (some [0]) (some [1]) =
      .ok ([⟨"SOL-ORACLE", "pyth"⟩, ⟨"USDC-ORACLE", "pyth"⟩], [⟨"SOL-PERP-ORACLE", "pyth"⟩], [0]) := rfl
  exact ⟨h, getMarketsAndOracles_result sampleConfig h⟩

end DriftSubscriber.OracleLoad

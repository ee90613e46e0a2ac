import DriftSubscriber.EventLoop

/-!
# Fan-out of a notification

A notification routed to an address goes to the keys of `fanOutKeys`: the address's
oracle ids when it has any, its own text otherwise (line 434).  Each key's decoder
runs on its own and a failure skips only that key, so the notification amounts to
one `_update_data` per key of the fan-out whose decoder succeeds, in any order,
and touches nothing but `data_map`.  A plain key of an address that also has
oracle ids is not among them.

`get_data(P)` reads one key of that fan-out.  No message the read loop handles lowers the
slot cached under a key, so along any stream of messages the value `get_data` returns never
goes back to an older slot; only the application's own calls can do that.
-/

namespace DriftSubscriber

namespace Registry

variable {Pubkey Record : Type} (reg : Registry Pubkey Record) (slot : Option Int) (data : Payload)

/-- What the decoder of `key` makes of a notification: `none` when the key has no
decoder, the slot is not an integer, or the decoder raises. -/
def decodedAt (key : String) : Option (DataAndSlot Record) :=
  match reg.decodeMap.get? key with
  | none => none
  | some decodeFn =>
      match slot, decodeFn data with
      | some slot, some record => some ⟨slot, record⟩
      | _, _ => none

theorem deliver_eq_updateData (key : String) :
    reg.deliver slot data key = reg.updateData key (reg.decodedAt slot data key) := by
  unfold deliver decodedAt
  cases reg.decodeMap.get? key with
  | none => rfl
  | some decodeFn => dsimp only; cases slot <;> cases decodeFn data <;> rfl

/-- Delivering keys in turn changes only `data_map`; each key of a duplicate-free list
ends merged once with its own decoded value, read in the registry before the first. -/
theorem foldl_deliver (keys : List String) (hkeys : keys.Nodup) :
    ∃ dataMap, keys.foldl (fun reg key => reg.deliver slot data key) reg = { reg with dataMap } ∧
      ∀ k, dataMap.get? k =
        if k ∈ keys then mergeEntry (reg.dataMap.get? k) (reg.decodedAt slot data k)
        else reg.dataMap.get? k := by
  induction keys generalizing reg with
  | nil => exact ⟨reg.dataMap, rfl, fun k => by simp⟩
  | cons key keys ih =>
      obtain ⟨hkey, hkeys⟩ := List.nodup_cons.mp hkeys
      obtain ⟨dataMap, hfold, hget⟩ := ih (reg.deliver slot data key) hkeys
      have hdecode : (reg.deliver slot data key).decodedAt slot data = reg.decodedAt slot data := by
        rw [deliver_eq_updateData]; rfl
      refine ⟨dataMap, by rw [List.foldl_cons, hfold, deliver_eq_updateData]; rfl, fun k => ?_⟩
      rw [hget, hdecode, deliver_eq_updateData]
      by_cases hk : k = key
      · subst hk; simp [updateData, mergeInto_get?, hkey]
      · simp [updateData, mergeInto_get?, hk]

variable [DecidableEq Pubkey] (codec : PubkeyCodec Pubkey)

theorem fanOutKeys_nodup (P : Pubkey) : (reg.fanOutKeys codec P).Nodup := by
  unfold fanOutKeys
  split
  · exact List.nodup_singleton _
  · exact Dict.keys_nodup _

/-- `get_data(P)` reads one key of `P`'s fan-out, the same one in every registry with the same
oracle ids. -/
theorem getData_inl_reads (P : Pubkey) :
    ∃ k ∈ reg.fanOutKeys codec P, ∀ reg' : Registry Pubkey Record,
      reg'.pubkeyToOracleIds = reg.pubkeyToOracleIds → reg'.getData codec (.inl P) = (reg'.dataMap.get? k).join := by
  have hids : ∀ reg' : Registry Pubkey Record, reg'.pubkeyToOracleIds = reg.pubkeyToOracleIds →
      reg'.oracleIdsOf P = reg.oracleIdsOf P := fun reg' hids => by unfold oracleIdsOf; rw [hids]
  unfold fanOutKeys Dict.isEmpty
  cases h : (reg.oracleIdsOf P).keys with
  | nil =>
      have hempty : (reg.oracleIdsOf P).entries = [] := List.map_eq_nil_iff.mp h
      exact ⟨codec.str P, by simp [hempty], fun reg' h' => by rw [getData, hids reg' h', h]⟩
  | cons k ks =>
      have hne : (reg.oracleIdsOf P).entries ≠ [] := fun he => by simp [Dict.keys, he] at h
      exact ⟨k, by simp [hne, h], fun reg' h' => by rw [getData, hids reg' h', h]⟩

/-- `reg'` is `reg` with a notification of slot `slot` and data `data` for `P` merged:
only `data_map` differs, and it holds, under each key of `P`'s fan-out, the merge of the
value that key's decoder makes of the data, as `_update_data` on those keys in any
order leaves it. -/
structure NotificationMerged (reg reg' : Registry Pubkey Record) (P : Pubkey)
    (slot : Option Int) (data : Payload) : Prop where
  frame : reg' = { reg with dataMap := reg'.dataMap }
  merged : ∀ k, reg'.dataMap.get? k =
    if k ∈ reg.fanOutKeys codec P then mergeEntry (reg.dataMap.get? k) (reg.decodedAt slot data k)
    else reg.dataMap.get? k
  anyOrder : ∀ keys : List String, keys.Perm (reg.fanOutKeys codec P) → ∀ k,
    (keys.foldl (fun reg key => reg.updateData key (reg.decodedAt slot data key)) reg).dataMap.get? k =
      reg'.dataMap.get? k

/-- Delivering the fan-out of `P` is a merge of the notification. -/
theorem fanOut_merged (P : Pubkey) :
    reg.NotificationMerged codec (reg.fanOut codec P slot data) P slot data := by
  obtain ⟨dataMap, hfold, hget⟩ := foldl_deliver reg slot data _ (reg.fanOutKeys_nodup codec P)
  have hmap : (reg.fanOut codec P slot data).dataMap = dataMap := by rw [fanOut, hfold]
  refine ⟨by rw [hmap]; exact hfold, by rw [hmap]; exact hget, fun keys hperm k => ?_⟩
  obtain ⟨dataMap', hfold', hget'⟩ :=
    foldl_deliver reg slot data keys (hperm.nodup_iff.mpr (reg.fanOutKeys_nodup codec P))
  simp only [← deliver_eq_updateData, hfold', hget', hmap, hget, hperm.mem_iff]

/-- A notification for a subscription id that `subscription_map` routes to `P` is a merge
into `P`'s fan-out, and changes nothing else. -/
theorem notification_merges_fanOut_keys (msg : Msg) {context : Context} {data : Payload}
    {sid : Json} {s : Int} {P : Pubkey} (hresult : msg.result = .account context data)
    (hsub : msg.subscription = some sid) (hkey : sid.intKey = .key s)
    (hroute : reg.subscriptionMap.get? s = some P) :
    reg.NotificationMerged codec (reg.handleMsg codec msg) P (contextSlot context) data := by
  have hmsg : reg.handleMsg codec msg = reg.fanOut codec P (contextSlot context) data := by
    cases sid <;> simp_all [handleMsg, notify, Json.intKey]
  rw [hmsg]
  exact reg.fanOut_merged _ _ codec P

/-! ## The read loop never moves a cached value back -/

omit [DecidableEq Pubkey] in
/-- `_update_data` leaves under its key a value of no lower slot than the one cached there. -/
theorem mergeEntry_rises (entry : Option (Option (DataAndSlot Record))) (newData : Option (DataAndSlot Record))
    {d : DataAndSlot Record} (hd : entry.join = some d) :
    ∃ d', (mergeEntry entry newData).join = some d' ∧ d.slot ≤ d'.slot := by
  cases newData with
  | none => exact ⟨d, hd, le_refl _⟩
  | some newData =>
      unfold mergeEntry
      rw [hd]
      dsimp only
      split_ifs with hle
      · exact ⟨newData, rfl, hle⟩
      · exact ⟨d, hd, le_refl _⟩

omit [DecidableEq Pubkey] in
/-- `reg'` has the oracle ids of `reg`, and under each key where `reg` caches a value, a value
of no lower slot. -/
structure SlotsRise (reg reg' : Registry Pubkey Record) : Prop where
  oracleIds : reg'.pubkeyToOracleIds = reg.pubkeyToOracleIds
  rise : ∀ k d, (reg.dataMap.get? k).join = some d → ∃ d', (reg'.dataMap.get? k).join = some d' ∧ d.slot ≤ d'.slot

omit [DecidableEq Pubkey] in
theorem SlotsRise.of_eq {reg' : Registry Pubkey Record} (hids : reg'.pubkeyToOracleIds = reg.pubkeyToOracleIds)
    (hdata : reg'.dataMap = reg.dataMap) : SlotsRise reg reg' :=
  ⟨hids, fun _ d hd => ⟨d, hdata ▸ hd, le_refl _⟩⟩

omit [DecidableEq Pubkey] in
theorem SlotsRise.trans {reg₁ reg₂ reg₃ : Registry Pubkey Record} (h₁ : SlotsRise reg₁ reg₂)
    (h₂ : SlotsRise reg₂ reg₃) : SlotsRise reg₁ reg₃ where
  oracleIds := h₂.oracleIds.trans h₁.oracleIds
  rise k d hd :=
    let ⟨d₂, hd₂, hle₂⟩ := h₁.rise k d hd
    let ⟨d₃, hd₃, hle₃⟩ := h₂.rise k d₂ hd₂
    ⟨d₃, hd₃, hle₂.trans hle₃⟩

theorem NotificationMerged.slotsRise {reg' : Registry Pubkey Record} {P : Pubkey} {slot : Option Int}
    {data : Payload} (h : reg.NotificationMerged codec reg' P slot data) : SlotsRise reg reg' where
  oracleIds := by rw [h.frame]
  rise k d hd := by
    rw [h.merged k]
    split_ifs
    · exact mergeEntry_rises _ _ hd
    · exact ⟨d, hd, le_refl _⟩

/-- No message the read loop handles lowers a cached slot or changes an oracle id. -/
theorem handleMsg_slotsRise (msg : Msg) : SlotsRise reg (reg.handleMsg codec msg) := by
  rcases reg.handleMsg_cases codec msg with h | ⟨_, h⟩ | ⟨_, _, _, _, -, h⟩ | ⟨P, _, _, _, -, h⟩ <;> rw [h]
  · exact .of_eq reg rfl rfl
  · unfold confirmFallback; split <;> exact .of_eq reg rfl rfl
  · exact .of_eq reg rfl rfl
  · exact (reg.fanOut_merged _ _ codec P).slotsRise

theorem foldl_handleMsg_slotsRise (msgs : List Msg) :
    SlotsRise reg (msgs.foldl (fun reg msg => reg.handleMsg codec msg) reg) := by
  induction msgs generalizing reg with
  | nil => exact .of_eq reg rfl rfl
  | cons msg msgs ih => exact (reg.handleMsg_slotsRise codec msg).trans (ih _)

/-- `get_data` of a key, logical or by address, returns a value of no lower slot after the
slots rise. -/
theorem SlotsRise.getData {reg' : Registry Pubkey Record} (h : SlotsRise reg reg') {d : DataAndSlot Record} :
    ∀ key, reg.getData codec key = some d → ∃ d', reg'.getData codec key = some d' ∧ d.slot ≤ d'.slot
  | .inr k, hd => h.rise k d hd
  | .inl P, hd => by
      obtain ⟨k, -, hread⟩ := reg.getData_inl_reads codec P
      rw [hread reg rfl] at hd
      rw [hread reg' h.oracleIds]
      exact h.rise k d hd

/-- Along any stream of messages the read loop handles (confirmations, notifications, frames
it ignores), the value `get_data` returns for a key, logical or by address, never goes back to
an older slot: once it returns a value, it returns one of no lower slot after every further
message. -/
theorem getData_slot_never_falls (msgs : List Msg) (key : Pubkey ⊕ String) {d : DataAndSlot Record}
    (hd : reg.getData codec key = some d) :
    ∃ d', (msgs.foldl (fun reg msg => reg.handleMsg codec msg) reg).getData codec key = some d' ∧
      d.slot ≤ d'.slot :=
  (reg.foldl_handleMsg_slotsRise codec msgs).getData reg codec key hd

end Registry

/-- A notification of slot `5` for subscription id `42`. -/
def slotFiveNotification : Msg :=
  ⟨.account (.ofSlot 5) (.bytes []), .null, some (.int 42)⟩

theorem notification_merges_fanOut_keys_sample :
    slotFiveNotification.result = .account (.ofSlot 5) (.bytes []) ∧
      slotFiveNotification.subscription = some (.int 42) ∧ (Json.int 42).intKey = .key 42 ∧
      (Registry.init.bindSubscription 42 SampleAddress.addr1 :
        Registry SampleAddress Payload).subscriptionMap.get? 42 = some .addr1 ∧
      (Registry.init.bindSubscription 42 SampleAddress.addr1 : Registry SampleAddress Payload).NotificationMerged
        sampleCodec ((Registry.init.bindSubscription 42 .addr1).handleMsg sampleCodec slotFiveNotification)
        .addr1 (contextSlot (.ofSlot 5)) (.bytes []) :=
  ⟨rfl, rfl, rfl, by decide,
    Registry.notification_merges_fanOut_keys _ sampleCodec slotFiveNotification rfl rfl rfl (by decide)⟩

/-- Subscription id `42` routed to `ADDR1`, whose key has the raw decoder and a value of
slot `3`. -/
def decodingRegistry : Registry SampleAddress Payload :=
  { Registry.init with
    subscriptionMap := Dict.empty.insert 42 .addr1
    decodeMap := Dict.empty.insert "ADDR1" rawDecoder
    dataMap := Dict.empty.insert "ADDR1" (some ⟨3, .bytes []⟩) }

/-- The value of slot `3` under `ADDR1` gives way to the notification of slot `5`. -/
theorem getData_slot_never_falls_sample :
    decodingRegistry.getData sampleCodec (.inl .addr1) = some ⟨3, .bytes []⟩ ∧
      ∃ d', ([slotFiveNotification].foldl (fun reg msg => reg.handleMsg sampleCodec msg)
        decodingRegistry).getData sampleCodec (.inl .addr1) = some d' ∧
        (⟨3, .bytes []⟩ : DataAndSlot Payload).slot ≤ d'.slot :=
  have hd : decodingRegistry.getData sampleCodec (.inl .addr1) = some ⟨3, .bytes []⟩ := rfl
  ⟨hd, Registry.getData_slot_never_falls _ sampleCodec _ _ hd⟩

/-- `ADDR1` added with its own key and a value of slot `1` on connection `0`, and confirmed as
`42`. -/
def confirmedRun : List (Event SampleAddress Payload) :=
  [.subscribe, .resume 0 .completed, .resume 0 (.connected true),
   .addAccount ⟨.addr1, none, some ⟨1, .bytes []⟩, none⟩, .resume 1 (.sent true),
   .resume 0 (.received (some ⟨.int 42, .int 1, none⟩))]

/-- `confirmedRun`, then the oracle id `ADDR1-1` added with a value of slot `1`. -/
def plainAndOracleRun : List (Event SampleAddress Payload) :=
  confirmedRun ++ [.addAccount ⟨.addr1, none, some ⟨1, .bytes []⟩, some "ADDR1-1"⟩]

/-- After a notification of slot `5` for `42`, the plain key `ADDR1` has a decoder that
accepts the data, yet keeps its value of slot `1`: the notification reaches only the oracle
id. -/
theorem notification_skips_plain_key_beside_oracleId :
    (EventLoop.init rawDecoder).Ends sampleCodec
      (plainAndOracleRun ++ [.resume 0 (.received (some slotFiveNotification))]) fun l =>
      (l.decodeMap.get? "ADDR1").isSome ∧
      (l.dataMap.get? "ADDR1").join.map DataAndSlot.slot = some 1 ∧
      (l.dataMap.get? "ADDR1-1").join.map DataAndSlot.slot = some 5 := by
  decide

end DriftSubscriber

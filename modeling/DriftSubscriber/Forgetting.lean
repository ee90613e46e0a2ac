import DriftSubscriber.CachedData
import DriftSubscriber.Resubscribe

/-!
# A removed address stays forgotten

`remove_account(P)` with no oracle id drops `P`'s oracle ids, and, when `P` has a
subscription id, that id, `P`'s subscription and its plain key (lines 143-191).  What
could bring `P` back later without a new `add_account` is a request for `P` still in
flight (its confirmation rebinds `P`, lines 384-395), a coroutine suspended on `P`'s
behalf (a snapshot, a fetch or a batch that still names `P`), a key naming `P` left
in `data_map` (the next batch subscribes it), or a second subscription id routed to
`P`.  From a state with none of these, `P` stays forgotten along every run that adds
no feed for it: no key naming `P` gets a decoder or a value, `P` gets no oracle id, no
subscription and no request, and no subscribe frame for `P` is sent.
-/

namespace DriftSubscriber

namespace Registry

variable {Pubkey Record : Type}

/-- `reg'` has no entry that `reg` lacks, in any map an address can come back through. -/
structure Shrinks (reg reg' : Registry Pubkey Record) : Prop where
  decodeMap : ∀ k, k ∈ reg'.decodeMap → k ∈ reg.decodeMap
  dataMap : ∀ k, k ∈ reg'.dataMap → k ∈ reg.dataMap
  pubkeyToOracleIds : ∀ Q, Q ∈ reg'.pubkeyToOracleIds → Q ∈ reg.pubkeyToOracleIds
  pubkeyToSubscription : ∀ Q, Q ∈ reg'.pubkeyToSubscription → Q ∈ reg.pubkeyToSubscription
  subscriptionMap : ∀ s Q, reg'.subscriptionMap.get? s = some Q → reg.subscriptionMap.get? s = some Q
  inflightSubscribes : ∀ requestId request, reg'.inflightSubscribes.get? requestId = some request →
    reg.inflightSubscribes.get? requestId = some request

namespace Shrinks

variable {reg reg₁ reg₂ : Registry Pubkey Record}

theorem refl (reg : Registry Pubkey Record) : Shrinks reg reg :=
  ⟨fun _ => id, fun _ => id, fun _ => id, fun _ => id, fun _ _ => id, fun _ _ => id⟩

theorem trans (h₁ : Shrinks reg reg₁) (h₂ : Shrinks reg₁ reg₂) : Shrinks reg reg₂ :=
  ⟨fun k hk => h₁.decodeMap k (h₂.decodeMap k hk), fun k hk => h₁.dataMap k (h₂.dataMap k hk),
    fun Q hQ => h₁.pubkeyToOracleIds Q (h₂.pubkeyToOracleIds Q hQ),
    fun Q hQ => h₁.pubkeyToSubscription Q (h₂.pubkeyToSubscription Q hQ),
    fun s Q h => h₁.subscriptionMap s Q (h₂.subscriptionMap s Q h),
    fun r x h => h₁.inflightSubscribes r x (h₂.inflightSubscribes r x h)⟩

theorem retractRequest (reg : Registry Pubkey Record) (requestId : Int) :
    Shrinks reg (reg.retractRequest requestId) :=
  ⟨fun _ => id, fun _ => id, fun _ => id, fun _ => id, fun _ _ => id, fun r x h => by
    simp only [Registry.retractRequest, Dict.get?_erase] at h
    split at h
    · cases h
    · exact h⟩

theorem dropKey (reg : Registry Pubkey Record) (key : String) : Shrinks reg (reg.dropKey key) :=
  ⟨fun _ h => ((Dict.mem_erase _ _ _).mp h).2, fun _ h => ((Dict.mem_erase _ _ _).mp h).2,
    fun _ => id, fun _ => id, fun _ _ => id, fun _ _ => id⟩

theorem foldl_dropKey (reg : Registry Pubkey Record) (keys : List String) :
    Shrinks reg (keys.foldl Registry.dropKey reg) := by
  induction keys generalizing reg with
  | nil => exact refl reg
  | cons key keys ih => exact (dropKey reg key).trans (ih _)

variable [DecidableEq Pubkey]

theorem init (reg : Registry Pubkey Record) : Shrinks reg .init :=
  ⟨fun _ h => absurd h (Dict.not_mem_empty _), fun _ h => absurd h (Dict.not_mem_empty _),
    fun _ h => absurd h (Dict.not_mem_empty _), fun _ h => absurd h (Dict.not_mem_empty _),
    fun _ _ h => (by cases h), fun _ _ h => (by cases h)⟩

theorem clearConnection (reg : Registry Pubkey Record) : Shrinks reg reg.clearConnection :=
  ⟨fun _ => id, fun _ => id, fun _ => id, fun _ h => absurd h (Dict.not_mem_empty _),
    fun _ _ h => (by cases h), fun _ _ h => (by cases h)⟩

theorem dropOracleIds (reg : Registry Pubkey Record) (P : Pubkey) (oracleId : Option String) :
    Shrinks reg (reg.dropOracleIds P oracleId) := by
  unfold Registry.dropOracleIds
  cases oracleId <;> dsimp only <;> split
  · rename_i ids _
    have h := foldl_dropKey reg ids.keys
    exact { h with
      pubkeyToOracleIds := fun Q hQ => ((Dict.mem_erase _ _ _).mp hQ).2 }
  · exact refl reg
  · rename_i oracleId _ _ hids
    have h := dropKey reg oracleId
    refine { h with pubkeyToOracleIds := fun Q hQ => ?_ }
    rcases (Dict.mem_insert _ _ _ _).mp hQ with rfl | hQ
    · exact (Dict.mem_iff_get?_isSome _ _).mpr (by simp [hids])
    · exact hQ
  · exact refl reg

theorem dropSubscription {reg reg' : Registry Pubkey Record} {codec : PubkeyCodec Pubkey} {P : Pubkey}
    {subscriptionId : Int} (h : reg.dropSubscription codec P subscriptionId = some reg') : Shrinks reg reg' := by
  obtain rfl := Registry.dropSubscription_eq_some _ h
  refine ⟨fun _ h => ((Dict.mem_erase _ _ _).mp h).2, fun _ h => ((Dict.mem_erase _ _ _).mp h).2,
    fun _ => id, fun _ h => ((Dict.mem_erase _ _ _).mp h).2, fun s Q h => ?_, fun _ _ => id⟩
  simp only [Dict.get?_erase] at h
  split at h
  · cases h
  · exact h

theorem removeAccount (reg : Registry Pubkey Record) (codec : PubkeyCodec Pubkey) (P : Pubkey)
    (oracleId : Option String) : Shrinks reg (reg.removeAccount codec P oracleId).1 := by
  rcases reg.removeAccount_cases codec P oracleId with e | ⟨_, hsub⟩
  · exact e ▸ dropOracleIds reg P oracleId
  · exact (dropOracleIds reg P oracleId).trans (dropSubscription hsub)

end Shrinks

variable (codec : PubkeyCodec Pubkey)

/-- The registry has forgotten `P`: no key naming `P` has a decoder or a value, and `P` has
no oracle ids, no subscription, no subscription id routed to it and no request in flight. -/
structure Forgets (P : Pubkey) (reg : Registry Pubkey Record) : Prop where
  decoders : ∀ key, pubkeyOfKey codec key = some P → key ∉ reg.decodeMap
  values : ∀ key, pubkeyOfKey codec key = some P → key ∉ reg.dataMap
  oracleIds : P ∉ reg.pubkeyToOracleIds
  unsubscribed : P ∉ reg.pubkeyToSubscription
  unrouted : ∀ s, reg.subscriptionMap.get? s ≠ some P
  notInflight : ∀ requestId oracleId, reg.inflightSubscribes.get? requestId ≠ some (P, oracleId)

namespace Forgets

variable {codec} {P : Pubkey} {reg : Registry Pubkey Record} (h : Forgets codec P reg)
include h

theorem shrink {reg' : Registry Pubkey Record} (hs : Shrinks reg reg') : Forgets codec P reg' :=
  ⟨fun k hk hmem => h.decoders k hk (hs.decodeMap k hmem), fun k hk hmem => h.values k hk (hs.dataMap k hmem),
    fun hP => h.oracleIds (hs.pubkeyToOracleIds P hP), fun hP => h.unsubscribed (hs.pubkeyToSubscription P hP),
    fun s hs' => h.unrouted s (hs.subscriptionMap s P hs'),
    fun r oid hr => h.notInflight r oid (hs.inflightSubscribes r _ hr)⟩

/-- A new `data_map` that holds no key naming `P`. -/
theorem withDataMap {dataMap : Dict String (Option (DataAndSlot Record))}
    (hvalues : ∀ key, pubkeyOfKey codec key = some P → key ∉ dataMap) :
    Forgets codec P { reg with dataMap } :=
  { h with values := hvalues }

theorem insertData {key : String} (hkey : pubkeyOfKey codec key ≠ some P)
    (data : Option (DataAndSlot Record)) : Forgets codec P { reg with dataMap := reg.dataMap.insert key data } :=
  h.withDataMap fun k hk hmem =>
    ((Dict.mem_insert _ _ _ _).mp hmem).elim (fun e => hkey (e ▸ hk)) (h.values k hk)

theorem updateData {key : String} (hkey : pubkeyOfKey codec key ≠ some P)
    (data : Option (DataAndSlot Record)) : Forgets codec P (reg.updateData key data) :=
  h.withDataMap fun k hk hmem =>
    (mem_mergeInto hmem).elim (fun e => hkey (e ▸ hk)) (h.values k hk)

theorem mergeGathered {keys : List String} (hkeys : ∀ key ∈ keys, pubkeyOfKey codec key ≠ some P)
    (results : List (Except Unit (Option (DataAndSlot Record)))) :
    Forgets codec P (reg.mergeGathered keys results) := by
  induction keys generalizing reg results with
  | nil => cases results <;> exact h
  | cons key keys ih =>
      have hrest := fun k hk => hkeys k (List.mem_cons_of_mem key hk)
      rcases results with _ | ⟨_ | data, results⟩
      · exact h
      · exact ih h hrest results
      · exact ih (h.updateData (hkeys key (List.mem_cons_self _ _)) data) hrest results

theorem storeKey {key : String} (hkey : pubkeyOfKey codec key ≠ some P) (decodeFn : Decoder Record)
    (initialData : Option (DataAndSlot Record)) : Forgets codec P (reg.storeKey key decodeFn initialData) := by
  have hdecoders : ∀ k, pubkeyOfKey codec k = some P → k ∉ reg.decodeMap.insert key decodeFn :=
    fun k hk hmem => ((Dict.mem_insert _ _ _ _).mp hmem).elim (fun e => hkey (e ▸ hk)) (h.decoders k hk)
  unfold Registry.storeKey
  cases initialData with
  | none => exact { h with decoders := hdecoders }
  | some data => exact { h.insertData hkey (some data) with decoders := hdecoders }

theorem recordInflight {Q : Pubkey} (hQ : Q ≠ P) (oracleId : Option String) :
    Forgets codec P (reg.recordInflight Q oracleId).1 := by
  refine { h with notInflight := fun r oid hr => ?_ }
  simp only [recordInflight_fst, Dict.get?_insert] at hr
  split at hr
  · exact hQ (Prod.mk.inj (Option.some.inj hr)).1
  · exact h.notInflight r oid hr

variable [DecidableEq Pubkey]

theorem addOracleId {Q : Pubkey} (hQ : Q ≠ P) (oracleId : String) :
    Forgets codec P (reg.addOracleId Q oracleId) :=
  { h with oracleIds := fun hP => ((Dict.mem_insert _ _ _ _).mp hP).elim (fun e => hQ e.symm) h.oracleIds }

theorem joinSubscription {call : AddAccountCall Pubkey Record} (hP : call.pubkey ≠ P) {key : String}
    (hkey : pubkeyOfKey codec key ≠ some P) (decodeFn : Decoder Record) (subscriptionId : Int) :
    Forgets codec P (reg.joinSubscription call key decodeFn subscriptionId) := by
  unfold Registry.joinSubscription
  split
  · exact h
  · rename_i oracleId _
    have h' := (h.addOracleId hP oracleId).storeKey hkey decodeFn call.initialData
    exact { h' with }

theorem registerFresh {call : AddAccountCall Pubkey Record} (hP : call.pubkey ≠ P) {key : String}
    (hkey : pubkeyOfKey codec key ≠ some P) (decodeFn : Decoder Record) :
    Forgets codec P (reg.registerFresh call key decodeFn) := by
  unfold Registry.registerFresh
  split
  · exact (h.storeKey hkey decodeFn call.initialData).addOracleId hP _
  · exact h.storeKey hkey decodeFn call.initialData

/-- A notification only merges values under keys that have a decoder. -/
theorem fanOut (Q : Pubkey) (slot : Option Int) (data : Payload) :
    Forgets codec P (reg.fanOut codec Q slot data) := by
  have hmerged := reg.fanOut_merged slot data codec Q
  rw [hmerged.frame]
  refine h.withDataMap fun k hk hmem => h.values k hk ?_
  have hnone : reg.decodedAt slot data k = none := by
    unfold decodedAt
    rw [(Dict.get?_eq_none_iff _ _).mpr (h.decoders k hk)]
  rw [Dict.mem_iff_get?_isSome, hmerged.merged k, hnone] at hmem
  rw [Dict.mem_iff_get?_isSome]
  split at hmem <;> exact hmem

/-- With no pending subscriptions, a frame of the read loop binds only an address with a
request in flight, and merges only under keys with a decoder. -/
theorem bindSubscription {Q : Pubkey} (hQ : Q ≠ P) (subscriptionId : Int) :
    Forgets codec P (reg.bindSubscription subscriptionId Q) := by
  refine { h with unsubscribed := fun hmem => ?_, unrouted := fun s hs => ?_ }
  · exact ((Dict.mem_insert _ _ _ _).mp hmem).elim (fun e => hQ e.symm) h.unsubscribed
  · simp only [Registry.bindSubscription, Dict.get?_insert] at hs
    split at hs
    · exact hQ (Option.some.inj hs)
    · exact h.unrouted s hs

theorem handleMsg (hpending : reg.pendingSubscriptions = []) (msg : Msg) :
    Forgets codec P (reg.handleMsg codec msg) := by
  rcases reg.handleMsg_cases codec msg with e | ⟨_, e⟩ | ⟨n, _, Q, oracleId, hQ, e⟩ | ⟨_, _, _, _, _, e⟩ <;>
    rw [e]
  · exact h
  · rw [confirmFallback_of_pending_nil _ hpending]; exact h
  · exact (h.shrink (Shrinks.retractRequest reg n)).bindSubscription
      (fun e => h.notInflight n oracleId (e ▸ hQ)) _
  · exact h.fanOut _ _ _

end Forgets

variable [DecidableEq Pubkey]

/-- What `remove_account(P)` with no oracle id leaves of `P` before the subscription is
dropped: its oracle ids gone with their keys, everything else as it was. -/
theorem dropOracleIds_none (reg : Registry Pubkey Record) (P : Pubkey) :
    (∀ k, k ∈ (reg.dropOracleIds P none).decodeMap → k ∈ reg.decodeMap ∧ k ∉ reg.oracleIdsOf P) ∧
    (∀ k, k ∈ (reg.dropOracleIds P none).dataMap → k ∈ reg.dataMap ∧ k ∉ reg.oracleIdsOf P) ∧
    P ∉ (reg.dropOracleIds P none).pubkeyToOracleIds ∧
    (reg.dropOracleIds P none).pubkeyToSubscription = reg.pubkeyToSubscription ∧
    (reg.dropOracleIds P none).subscriptionMap = reg.subscriptionMap ∧
    (reg.dropOracleIds P none).inflightSubscribes = reg.inflightSubscribes := by
  simp only [dropOracleIds, oracleIdsOf]
  split
  · rename_i ids hids
    rw [foldl_dropKey, hids, Option.getD_some]
    refine ⟨fun k hk => ?_, fun k hk => ?_, by simp, rfl, rfl, rfl⟩ <;>
      exact ((Dict.mem_foldl_erase _ _ _).mp hk).symm
  · rename_i hnone
    rw [hnone, Option.getD_none]
    exact ⟨fun k hk => ⟨hk, Dict.not_mem_empty k⟩, fun k hk => ⟨hk, Dict.not_mem_empty k⟩,
      (Dict.get?_eq_none_iff _ _).mp hnone, rfl, rfl, rfl⟩

/-- `remove_account(P)` forgets `P` when `P`'s subscription is confirmed and the only id
routed to it, or `P` has neither a subscription nor a plain key; no request for `P` is in
flight; and every key naming `P` that has a decoder or a value is one of `P`'s own. -/
theorem forgets_removeAccount (reg : Registry Pubkey Record) (P : Pubkey)
    (hsub : (∃ sid, reg.pubkeyToSubscription.get? P = some sid ∧
        ∀ s, reg.subscriptionMap.get? s = some P ↔ s = sid) ∨
      (P ∉ reg.pubkeyToSubscription ∧ (∀ s, reg.subscriptionMap.get? s ≠ some P) ∧
        codec.str P ∉ reg.decodeMap ∧ codec.str P ∉ reg.dataMap))
    (hinflight : ∀ requestId oracleId, reg.inflightSubscribes.get? requestId ≠ some (P, oracleId))
    (hkeys : ∀ key, pubkeyOfKey codec key = some P → key ∈ reg.decodeMap ∨ key ∈ reg.dataMap →
      key = codec.str P ∨ key ∈ reg.oracleIdsOf P) :
    (reg.removeAccount codec P none).1.Forgets codec P := by
  obtain ⟨hdec, hdat, hp2o, hp2s, hsm, hinf⟩ := reg.dropOracleIds_none P
  have hplain : ∀ k, pubkeyOfKey codec k = some P →
      k ∈ (reg.dropOracleIds P none).decodeMap ∨ k ∈ (reg.dropOracleIds P none).dataMap → k = codec.str P := by
    rintro k hk (hmem | hmem)
    · exact (hkeys k hk (.inl (hdec k hmem).1)).resolve_right (hdec k hmem).2
    · exact (hkeys k hk (.inr (hdat k hmem).1)).resolve_right (hdat k hmem).2
  have hkeeps : (reg.dropOracleIds P none).keepsSubscription P none = false := rfl
  unfold removeAccount
  simp only [hkeeps, hp2s, Bool.false_eq_true, if_false]
  rcases hsub with ⟨sid, hsid, hroute⟩ | ⟨hnot, hunrouted, hdecP, hdatP⟩
  · have hmem : sid ∈ (reg.dropOracleIds P none).subscriptionMap :=
      (Dict.mem_iff_get?_isSome _ _).mpr (by simp [hsm, (hroute sid).mpr rfl])
    simp only [hsid, dropSubscription, if_pos hmem, Option.getD_some]
    refine ⟨fun k hk hmem' => ?_, fun k hk hmem' => ?_, hp2o, by simp, fun s hs => ?_,
      by simpa [hinf] using hinflight⟩
    · obtain ⟨hne, hk'⟩ := (Dict.mem_erase _ _ _).mp hmem'
      exact hne (hplain k hk (.inl hk'))
    · obtain ⟨hne, hk'⟩ := (Dict.mem_erase _ _ _).mp hmem'
      exact hne (hplain k hk (.inr hk'))
    · rw [Dict.get?_erase] at hs
      by_cases hs' : s = sid
      · rw [if_pos hs'] at hs; cases hs
      · rw [if_neg hs', hsm] at hs; exact hs' ((hroute s).mp hs)
  · simp only [(Dict.get?_eq_none_iff _ _).mpr hnot]
    exact ⟨fun k hk hmem => hdecP (hplain k hk (.inl hmem) ▸ (hdec k hmem).1),
      fun k hk hmem => hdatP (hplain k hk (.inr hmem) ▸ (hdat k hmem).1), hp2o, hp2s ▸ hnot,
      hsm ▸ hunrouted, hinf ▸ hinflight⟩

end Registry

variable {Pubkey Record : Type} (codec : PubkeyCodec Pubkey)

/-- The coroutine may still request or subscribe `P`, or write a fetched value under a key
naming `P`. -/
def Task.Touches (P : Pubkey) (task : Task Pubkey Record) : Prop :=
  P ∈ task.subscribing ∨ ∃ key ∈ task.fetchKeys codec, pubkeyOfKey codec key = some P

/-- An `add_account` call for `P`, or one whose key names `P`. -/
def Event.AddsFor (P : Pubkey) : Event Pubkey Record → Prop
  | .addAccount call => call.pubkey = P ∨ pubkeyOfKey codec (call.key codec) = some P
  | _ => False

namespace EventLoop

variable [DecidableEq Pubkey]

/-- `P` is forgotten by the registry and by every suspended coroutine. -/
structure Forgotten (P : Pubkey) (l : EventLoop Pubkey Record) : Prop where
  registry : l.toRegistry.Forgets codec P
  tasks : ∀ task ∈ l.tasks, ¬ task.Touches codec P

variable {codec} {P : Pubkey} {l : EventLoop Pubkey Record}

theorem FirstEffect.forgets {task : Task Pubkey Record} {reg : Registry Pubkey Record}
    (h : FirstEffect codec l task reg) (hl : l.toRegistry.Forgets codec P)
    (hpending : l.pendingSubscriptions = []) (htask : ¬ task.Touches codec P) : reg.Forgets codec P := by
  have hkeys : ∀ key ∈ task.fetchKeys codec, pubkeyOfKey codec key ≠ some P :=
    fun key hkey e => htask (.inr ⟨key, hkey, e⟩)
  cases h with
  | keep => exact hl
  | snapshot call data htask' =>
      subst htask'; exact hl.insertData (hkeys _ (List.mem_singleton_self _)) data
  | retract requestId => exact hl.shrink (.retractRequest _ requestId)
  | update P' key data htask' =>
      subst htask'; exact hl.updateData (hkeys key (List.mem_singleton_self _)) data
  | merge keys results htask' => subst htask'; exact hl.mergeGathered hkeys results
  | handle msg => exact hl.handleMsg hpending msg
  | clear => exact hl.shrink (.clearConnection _)
  | reset => exact hl.shrink (.init _)

theorem ResumeEffect.forgets {task : Task Pubkey Record} {reg : Registry Pubkey Record}
    (h : ResumeEffect codec l task reg) (hl : l.toRegistry.Forgets codec P)
    (hpending : l.pendingSubscriptions = []) (htask : ¬ task.Touches codec P) : reg.Forgets codec P := by
  cases h with
  | first h => exact h.forgets hl hpending htask
  | request Q oracleId h hQ =>
      have hne : Q ≠ P := by
        rintro rfl
        rcases hQ with hQ | ⟨key, hkey⟩
        · exact htask (.inl hQ)
        · obtain ⟨_, key', hmem, hname⟩ :=
            (mem_resubscribeBatch codec _ Q).mp (List.mem_map_of_mem Prod.fst hkey)
          exact hl.values key' hname hmem
      exact (h.forgets hl hpending htask).recordInflight hne oracleId

theorem StepEffect.forgets {e : Event Pubkey Record} {reg : Registry Pubkey Record}
    (h : StepEffect codec l e reg) (hl : Forgotten codec P l) (hpending : l.pendingSubscriptions = [])
    (he : ¬ e.AddsFor codec P) : reg.Forgets codec P := by
  cases h with
  | join call _ _ =>
      exact hl.registry.joinSubscription (fun e => he (.inl e)) (fun e => he (.inr e)) _ _
  | register call _ =>
      exact hl.registry.registerFresh (fun e => he (.inl e)) (fun e => he (.inr e)) _
  | registerRequest call _ =>
      exact (hl.registry.registerFresh (fun e => he (.inl e)) (fun e => he (.inr e)) _).recordInflight
        (fun e => he (.inl e)) _
  | remove Q oracleId => exact hl.registry.shrink (.removeAccount _ codec Q oracleId)
  | keep => exact hl.registry
  | reset => exact hl.registry.shrink (.init _)
  | resume index outcome htask heffect =>
      exact heffect.forgets hl.registry hpending (hl.tasks _ (List.getElem?_mem htask))

omit [DecidableEq Pubkey] in
theorem Task.not_touches {task : Task Pubkey Record} (hsub : task.subscribing = [])
    (hfetch : ∀ key ∈ task.fetchKeys codec, pubkeyOfKey codec key ≠ some P) : ¬ task.Touches codec P := by
  rintro (hP | ⟨key, hkey, hname⟩)
  · rw [hsub] at hP; cases hP
  · exact hfetch key hkey hname

omit [DecidableEq Pubkey] in
/-- The coroutine of an `add_account` call that adds nothing for `P` touches nothing of `P`. -/
theorem Task.addAccount_not_touches {call : AddAccountCall Pubkey Record}
    (he : ¬ (Event.addAccount call).AddsFor codec P) (pc : AddAccountPc) :
    ¬ (Task.addAccount call pc).Touches codec P := by
  rintro (hP | ⟨key, hkey, hname⟩)
  · exact he (.inl (List.mem_singleton.mp hP).symm)
  · cases pc
    · cases List.mem_singleton.mp hkey; exact he (.inr hname)
    · cases hkey

omit [DecidableEq Pubkey] in
/-- A call that spawns a coroutine touching nothing of `P` keeps `P` forgotten. -/
theorem Forgotten.spawn {p : EventLoop Pubkey Record × Task Pubkey Record}
    (hreg : p.1.toRegistry.Forgets codec P) (htasks : ∀ task ∈ p.1.tasks, ¬ task.Touches codec P)
    (htask : ¬ p.2.Touches codec P) : Forgotten codec P (spawn p) :=
  ⟨hreg, fun task hmem => (List.mem_append.mp hmem).elim (htasks task)
    fun hmem => (List.mem_singleton.mp hmem) ▸ htask⟩

/-- A resumed coroutine that touches nothing of `P` keeps `P` forgotten and sends no
subscribe frame for `P`. -/
theorem Forgotten.resume {index : Nat} {task : Task Pubkey Record} {outcome : Outcome Record}
    {p : EventLoop Pubkey Record × Task Pubkey Record} (hl : Forgotten codec P l)
    (hreg : p.1.toRegistry.Forgets codec P) (htask : l.tasks[index]? = some task)
    (hp : l.resumeTask codec task outcome = some p) :
    Forgotten codec P { p.1 with tasks := p.1.tasks.set index p.2 } ∧
      ∃ calls, p.1.wire = l.wire ++ calls ∧ ∀ conn requestId, .accountSubscribe conn requestId P ∉ calls := by
  have hres := resumeTask_resumed codec l hp
  have hnot := hl.tasks task (List.getElem?_mem htask)
  obtain ⟨calls, hwire, hcalls⟩ := hres.wire
  refine ⟨⟨hreg, fun task' hmem => ?_⟩, calls, hwire, fun conn requestId hmem =>
    hnot (.inl (hcalls conn requestId P hmem))⟩
  rcases List.mem_or_eq_of_mem_set hmem with hmem | rfl
  · exact hl.tasks task' (hres.tasks ▸ hmem)
  · rintro (hP | ⟨key, hkey, _⟩)
    · rcases hres.subscribing P hP with hP | ⟨key, hkey⟩
      · exact hnot (.inl hP)
      · obtain ⟨_, key', hmem', hname⟩ :=
          (mem_resubscribeBatch codec _ P).mp (List.mem_map_of_mem Prod.fst hkey)
        exact hl.registry.values key' hname hmem'
    · rw [hres.fetchKeys] at hkey; cases hkey

/-- A step that adds no feed for `P` keeps `P` forgotten and sends no subscribe frame for
`P`. -/
theorem Forgotten.step {e : Event Pubkey Record} {l' : EventLoop Pubkey Record}
    (hl : Forgotten codec P l) (hpending : l.pendingSubscriptions = []) (he : ¬ e.AddsFor codec P)
    (h : l.step codec e = some l') :
    Forgotten codec P l' ∧ ∃ calls, l'.wire = l.wire ++ calls ∧
      ∀ conn requestId, .accountSubscribe conn requestId P ∉ calls := by
  have hreg := (step_effect codec l h).forgets hl hpending he
  have hdecoded : ∀ key, key ∈ l.decodeMap → pubkeyOfKey codec key ≠ some P :=
    fun key hkey hname => hl.registry.decoders key hname hkey
  cases e with
  | addAccount call =>
      cases h
      obtain ⟨htasks, hwire, htask⟩ := addAccount_frame codec l call
      refine ⟨Forgotten.spawn hreg (htasks ▸ hl.tasks) ?_, [], by simp [EventLoop.spawn, hwire], by simp⟩
      rcases htask with htask | ⟨pc, htask⟩ <;> rw [htask]
      · exact Task.not_touches rfl (fun _ h => by cases h)
      · exact Task.addAccount_not_touches he pc
  | removeAccount Q oracleId =>
      cases h
      obtain ⟨htasks, calls, hwire, hcalls⟩ := removeAccount_frame codec l Q oracleId
      exact ⟨⟨hreg, htasks ▸ hl.tasks⟩, calls, hwire, fun conn requestId => hcalls conn requestId P⟩
  | fetch Q oracleId =>
      cases h
      obtain ⟨hsame, hsub, hfetch⟩ := fetch_frame codec l Q oracleId
      refine ⟨Forgotten.spawn hreg (by rw [hsame]; exact hl.tasks) (Task.not_touches hsub fun key hkey =>
        hdecoded key (hfetch key hkey)), [], by simp [EventLoop.spawn, hsame], by simp⟩
  | subscribe =>
      cases h
      obtain ⟨htasks, hwire, htask⟩ := subscribe_frame l
      refine ⟨Forgotten.spawn hreg (htasks ▸ hl.tasks) ?_, [], by simp [EventLoop.spawn, hwire], by simp⟩
      rcases htask with htask | htask <;> rw [htask] <;>
        exact Task.not_touches rfl (fun _ h => by cases h)
  | unsubscribe =>
      cases h
      obtain ⟨htasks, ⟨calls, hwire, hcalls⟩, hsub, hfetch⟩ := unsubscribe_frame codec l
      refine ⟨Forgotten.spawn hreg (fun task' hmem => ?_) (Task.not_touches hsub (by simp [hfetch])),
        calls, hwire, fun conn requestId => hcalls conn requestId P⟩
      obtain ⟨task, hmem, hsub', hfetch'⟩ := htasks task' hmem
      unfold Task.Touches; rw [hsub', hfetch']
      exact hl.tasks task hmem
  | resume index outcome =>
      obtain ⟨_, _, htask, hp, rfl⟩ := step_resume_eq_some codec l h
      exact hl.resume hreg htask hp

/-- Along any run that adds no feed for `P`, a forgotten `P` stays forgotten and no
subscribe frame for `P` is sent. -/
theorem Forgotten.run {events : List (Event Pubkey Record)} {l' : EventLoop Pubkey Record}
    (hreach : Reachable codec l) (hl : Forgotten codec P l) (hevents : ∀ e ∈ events, ¬ e.AddsFor codec P)
    (hrun : l.run codec events = some l') :
    Forgotten codec P l' ∧ ∃ calls, l'.wire = l.wire ++ calls ∧
      ∀ conn requestId, .accountSubscribe conn requestId P ∉ calls := by
  induction events generalizing l with
  | nil => cases hrun; exact ⟨hl, [], by simp, by simp⟩
  | cons e events ih =>
      obtain ⟨l₁, hstep, hrest⟩ := Option.bind_eq_some.mp hrun
      obtain ⟨hl₁, calls₁, hwire₁, hcalls₁⟩ :=
        hl.step (hreach.pendingSubscriptions_eq_nil codec) (hevents e (List.mem_cons_self _ _)) hstep
      obtain ⟨hl', calls, hwire, hcalls⟩ := ih (.step e hreach hstep) hl₁
        (fun e' he' => hevents e' (List.mem_cons_of_mem _ he')) hrest
      refine ⟨hl', calls₁ ++ calls, by rw [hwire, hwire₁, List.append_assoc], fun conn requestId hmem => ?_⟩
      rcases List.mem_append.mp hmem with hmem | hmem
      · exact hcalls₁ conn requestId hmem
      · exact hcalls conn requestId hmem

/-- From a reachable state in which `P`'s subscription is confirmed and the only id routed to
`P` (or `P` has neither a subscription nor a plain key), no request for `P` is in flight, no
suspended coroutine touches `P`, and every key naming `P` with a decoder or a value is one
of `P`'s own: after `remove_account(P)`, along any run that adds no feed for `P`, no key
naming `P` has a decoder or a value, `P` has no oracle id, no subscription, no subscription
id routed to it and no request, and no subscribe frame for `P` is sent. -/
theorem removeAccount_keeps_address_forgotten (hreach : Reachable codec l) (P : Pubkey)
    (hsub : (∃ sid, l.pubkeyToSubscription.get? P = some sid ∧
        ∀ s, l.subscriptionMap.get? s = some P ↔ s = sid) ∨
      (P ∉ l.pubkeyToSubscription ∧ (∀ s, l.subscriptionMap.get? s ≠ some P) ∧
        codec.str P ∉ l.decodeMap ∧ codec.str P ∉ l.dataMap))
    (hinflight : ∀ requestId oracleId, l.inflightSubscribes.get? requestId ≠ some (P, oracleId))
    (htasks : ∀ task ∈ l.tasks, ¬ task.Touches codec P)
    (hkeys : ∀ key, pubkeyOfKey codec key = some P → key ∈ l.decodeMap ∨ key ∈ l.dataMap →
      key = codec.str P ∨ key ∈ l.oracleIdsOf P)
    {events : List (Event Pubkey Record)} (hevents : ∀ e ∈ events, ¬ e.AddsFor codec P)
    {l' : EventLoop Pubkey Record} (hrun : (l.removeAccount codec P none).run codec events = some l') :
    l'.toRegistry.Forgets codec P ∧ ∃ calls, l'.wire = (l.removeAccount codec P none).wire ++ calls ∧
      ∀ conn requestId, .accountSubscribe conn requestId P ∉ calls := by
  have hremoved : Forgotten codec P (l.removeAccount codec P none) :=
    ⟨by rw [removeAccount_toRegistry]; exact Registry.forgets_removeAccount codec _ P hsub hinflight hkeys,
      (removeAccount_frame codec l P none).1 ▸ htasks⟩
  obtain ⟨hl', hwire⟩ := hremoved.run (.step (.removeAccount P none) hreach rfl) hevents hrun
  exact ⟨hl'.registry, hwire⟩

end EventLoop

/-- `remove_account(ADDR1)` while the request of `ADDR1` is in flight, then its confirmation. -/
def removedInflightRun : List (Event SampleAddress Payload) :=
  [.subscribe, .resume 0 .completed, .resume 0 (.connected true),
   .addAccount ⟨.addr1, none, some ⟨1, .bytes []⟩, none⟩, .resume 1 (.sent true),
   .removeAccount .addr1 none,
   .resume 0 (.received (some ⟨.int 42, .int 1, none⟩))]

/-- The removal returns at lines 170-171 with the plain key's decoder and value in place, and the
confirmation binds `42` to `ADDR1` again (lines 388-389). -/
theorem inflight_confirmation_rebinds_removed_address :
    (EventLoop.init rawDecoder).Ends sampleCodec removedInflightRun fun l =>
      l.pubkeyToSubscription.get? .addr1 = some 42 ∧ l.subscriptionMap.get? 42 = some .addr1 ∧
        "ADDR1" ∈ l.decodeMap ∧ "ADDR1" ∈ l.dataMap := by
  decide

end DriftSubscriber

import DriftSubscriber.AddAccount
import DriftSubscriber.Forgetting

/-!
# Which address a key belongs to

`add_account` stores a key without asking whether another address already uses it
(lines 64-92): two addresses given the same `oracle_id` share that key, and an `oracle_id`
equal to another address's text is that address's plain key, so a notification for one
of them updates the other's value.  The comments at lines 225 and 589 give oracle ids the
form `pubkey-source_num`, which the resubscribe batch and `fetch()` read the address back
from.  Along every run whose calls follow that form, every key with a decoder belongs to
exactly one address, the one its text reads back as: the oracle ids of two addresses are
disjoint, no oracle id is another address's plain key, and a notification for one address
leaves the keys of every other address as they were.
-/

namespace DriftSubscriber

/-- A call follows the form of lines 225 and 589: its `oracle_id`, if any, reads back as its
own address. -/
def Event.namesOwnAddress {Pubkey Record : Type} [DecidableEq Pubkey] (codec : PubkeyCodec Pubkey) :
    Event Pubkey Record → Bool
  | .addAccount call =>
      call.oracleId.all fun oracleId => decide (pubkeyOfKey codec oracleId = some call.pubkey)
  | _ => true

namespace Registry

variable {Pubkey Record : Type} [DecidableEq Pubkey] (codec : PubkeyCodec Pubkey)

/-- `key` is registered for `P`: it is `P`'s plain key or one of `P`'s oracle ids. -/
def RegisteredFor (reg : Registry Pubkey Record) (key : String) (P : Pubkey) : Prop :=
  key = codec.str P ∨ key ∈ reg.oracleIdsOf P

/-- Every oracle id reads back as its own address, and every key with a decoder is
registered for an address. -/
structure KeysOwned (reg : Registry Pubkey Record) : Prop where
  named : ∀ P oracleId, oracleId ∈ reg.oracleIdsOf P → pubkeyOfKey codec oracleId = some P
  registered : ∀ key, key ∈ reg.decodeMap → ∃ P, reg.RegisteredFor codec key P

variable (reg : Registry Pubkey Record)

theorem mem_oracleIdsOf_addOracleId_iff (P Q : Pubkey) (oracleId key : String) :
    key ∈ (reg.addOracleId P oracleId).oracleIdsOf Q ↔ Q = P ∧ key = oracleId ∨ key ∈ reg.oracleIdsOf Q := by
  by_cases hQ : Q = P
  · subst hQ; simp [addOracleId, oracleIdsOf]
  · simp [addOracleId, oracleIdsOf, hQ]

/-- Lines 143-167 with an `oracle_id`: the address loses that id and keeps its others. -/
theorem mem_oracleIdsOf_discard {P : Pubkey} {ids : PySet String} (hids : reg.pubkeyToOracleIds.get? P = some ids)
    (oracleId key : String) (Q : Pubkey) :
    key ∈ ({ reg.dropKey oracleId with
        pubkeyToOracleIds := reg.pubkeyToOracleIds.insert P (ids.discard oracleId) } :
        Registry Pubkey Record).oracleIdsOf Q ↔ key ∈ reg.oracleIdsOf Q ∧ (Q = P → key ≠ oracleId) := by
  by_cases hQ : Q = P
  · subst hQ; simp [oracleIdsOf, hids, and_comm]
  · simp [oracleIdsOf, hQ]

/-- Lines 143-167 without an `oracle_id`: the address loses all its ids. -/
theorem mem_oracleIdsOf_erase (P : Pubkey) (keys : List String) (key : String) (Q : Pubkey) :
    key ∈ ({ keys.foldl dropKey reg with pubkeyToOracleIds := reg.pubkeyToOracleIds.erase P } :
        Registry Pubkey Record).oracleIdsOf Q ↔ Q ≠ P ∧ key ∈ reg.oracleIdsOf Q := by
  by_cases hQ : Q = P
  · subst hQ; simp [oracleIdsOf]
  · simp [oracleIdsOf, hQ]

/-- A notification and a confirmation leave the decoders and the oracle ids as they were. -/
theorem handleMsg_keys (msg : Msg) :
    (reg.handleMsg codec msg).decodeMap = reg.decodeMap ∧
      (reg.handleMsg codec msg).pubkeyToOracleIds = reg.pubkeyToOracleIds := by
  rcases reg.handleMsg_cases codec msg with e | ⟨_, e⟩ | ⟨_, _, _, _, _, e⟩ | ⟨_, _, _, _, _, e⟩ <;> rw [e]
  · exact ⟨rfl, rfl⟩
  · unfold confirmFallback; split <;> exact ⟨rfl, rfl⟩
  · exact ⟨rfl, rfl⟩
  · rw [(reg.fanOut_merged _ _ codec _).frame]; exact ⟨rfl, rfl⟩

namespace KeysOwned

variable {codec} {reg} {reg' : Registry Pubkey Record}

theorem init : KeysOwned codec (.init : Registry Pubkey Record) :=
  ⟨fun _ _ h => absurd h (Dict.not_mem_empty _), fun _ h => absurd h (Dict.not_mem_empty _)⟩

/-- A registry with no new decoder and the same oracle ids keeps its keys owned. -/
theorem of_sub (h : KeysOwned codec reg) (hdecode : ∀ key, key ∈ reg'.decodeMap → key ∈ reg.decodeMap)
    (hids : reg'.pubkeyToOracleIds = reg.pubkeyToOracleIds) : KeysOwned codec reg' := by
  have hof : reg'.oracleIdsOf = reg.oracleIdsOf := by unfold oracleIdsOf; rw [hids]
  have hreg : reg'.RegisteredFor codec = reg.RegisteredFor codec := by unfold RegisteredFor; rw [hof]
  refine ⟨fun P oracleId hmem => h.named P oracleId (hof ▸ hmem), fun key hkey => ?_⟩
  rw [hreg]
  exact h.registered key (hdecode key hkey)

theorem of_eq (h : KeysOwned codec reg) (hdecode : reg'.decodeMap = reg.decodeMap)
    (hids : reg'.pubkeyToOracleIds = reg.pubkeyToOracleIds) : KeysOwned codec reg' :=
  h.of_sub (fun _ hkey => hdecode ▸ hkey) hids

/-- A named oracle id added to its address, and its decoder stored, as lines 69-78 and
82-92 do. -/
theorem addOracleId_storeKey (h : KeysOwned codec reg) {P : Pubkey} {oracleId : String}
    (hname : pubkeyOfKey codec oracleId = some P) (decodeFn : Decoder Record)
    (initialData : Option (DataAndSlot Record)) :
    KeysOwned codec ((reg.addOracleId P oracleId).storeKey oracleId decodeFn initialData) := by
  have hmem := fun Q key => mem_oracleIdsOf_addOracleId_iff reg P Q oracleId key
  refine ⟨fun Q key hkey => ?_, fun key hkey => ?_⟩
  · rcases (hmem Q key).mp hkey with ⟨rfl, rfl⟩ | hkey
    · exact hname
    · exact h.named Q key hkey
  · rcases (Dict.mem_insert _ _ _ _).mp hkey with rfl | hkey
    · exact ⟨P, .inr ((hmem P key).mpr (.inl ⟨rfl, rfl⟩))⟩
    · obtain ⟨Q, hQ | hQ⟩ := h.registered key hkey
      · exact ⟨Q, .inl hQ⟩
      · exact ⟨Q, .inr ((hmem Q key).mpr (.inr hQ))⟩

theorem storeKey (h : KeysOwned codec reg) {key : String} (hkey : ∃ P, reg.RegisteredFor codec key P)
    (decodeFn : Decoder Record) (initialData : Option (DataAndSlot Record)) :
    KeysOwned codec (reg.storeKey key decodeFn initialData) := by
  refine ⟨h.named, fun k hk => ?_⟩
  rcases (Dict.mem_insert _ _ _ _).mp hk with rfl | hk
  · exact hkey
  · exact h.registered k hk

variable {call : AddAccountCall Pubkey Record}
  (hname : ∀ oracleId, call.oracleId = some oracleId → pubkeyOfKey codec oracleId = some call.pubkey)
include hname

theorem registerFresh (h : KeysOwned codec reg) (decodeFn : Decoder Record) :
    KeysOwned codec (reg.registerFresh call (call.key codec) decodeFn) := by
  unfold Registry.registerFresh AddAccountCall.key
  cases hoid : call.oracleId with
  | none => exact h.storeKey ⟨call.pubkey, .inl rfl⟩ _ _
  | some oracleId =>
      exact (h.addOracleId_storeKey (hname oracleId hoid) decodeFn call.initialData).of_eq rfl rfl

theorem joinSubscription (h : KeysOwned codec reg) (decodeFn : Decoder Record) (subscriptionId : Int) :
    KeysOwned codec (reg.joinSubscription call (call.key codec) decodeFn subscriptionId) := by
  unfold Registry.joinSubscription AddAccountCall.key
  cases hoid : call.oracleId with
  | none => exact h
  | some oracleId =>
      exact (h.addOracleId_storeKey (hname oracleId hoid) decodeFn call.initialData).of_eq rfl rfl

omit hname

theorem dropOracleIds (h : KeysOwned codec reg) (P : Pubkey) (oracleId : Option String) :
    KeysOwned codec (reg.dropOracleIds P oracleId) := by
  unfold Registry.dropOracleIds
  cases oracleId <;> dsimp only <;> split
  · rename_i ids hids
    have hmem := mem_oracleIdsOf_erase reg P ids.keys
    refine ⟨fun Q key hkey => h.named Q key ((hmem key Q).mp hkey).2, fun key hkey => ?_⟩
    rw [foldl_dropKey, Dict.mem_foldl_erase] at hkey
    obtain ⟨Q, hQ | hQ⟩ := h.registered key hkey.2
    · exact ⟨Q, .inl hQ⟩
    · refine ⟨Q, .inr ((hmem key Q).mpr ⟨fun hQP => hkey.1 ?_, hQ⟩)⟩
      subst hQP
      simpa [oracleIdsOf, hids] using hQ
  · exact h
  · rename_i oracleId _ ids hids
    have hmem := mem_oracleIdsOf_discard reg hids oracleId
    refine ⟨fun Q key hkey => h.named Q key ((hmem key Q).mp hkey).1, fun key hkey => ?_⟩
    obtain ⟨hne, hkey⟩ := (Dict.mem_erase _ _ _).mp hkey
    obtain ⟨Q, hQ | hQ⟩ := h.registered key hkey
    · exact ⟨Q, .inl hQ⟩
    · exact ⟨Q, .inr ((hmem key Q).mpr ⟨hQ, fun _ => hne⟩)⟩
  · exact h

theorem removeAccount (h : KeysOwned codec reg) (P : Pubkey) (oracleId : Option String) :
    KeysOwned codec (reg.removeAccount codec P oracleId).1 := by
  rcases reg.removeAccount_cases codec P oracleId with e | ⟨_, hsub⟩
  · exact e ▸ h.dropOracleIds P oracleId
  · rw [dropSubscription_eq_some _ hsub]
    exact (h.dropOracleIds P oracleId).of_sub (fun _ hkey => ((Dict.mem_erase _ _ _).mp hkey).2) rfl

/-- A key registered for `P` reads back as `P`. -/
theorem pubkeyOfKey_of_registered (h : KeysOwned codec reg) {key : String} {P : Pubkey}
    (hkey : reg.RegisteredFor codec key P) : pubkeyOfKey codec key = some P := by
  rcases hkey with rfl | hkey
  · exact pubkeyOfKey_str codec P
  · exact h.named P key hkey

theorem registeredFor_unique (h : KeysOwned codec reg) {key : String} {P Q : Pubkey}
    (hP : reg.RegisteredFor codec key P) (hQ : reg.RegisteredFor codec key Q) : P = Q :=
  Option.some.inj ((h.pubkeyOfKey_of_registered hP).symm.trans (h.pubkeyOfKey_of_registered hQ))

/-- A notification for `P` leaves the value and the decoder of every key of another
address. -/
theorem fanOut_other (h : KeysOwned codec reg) {P Q : Pubkey} (hPQ : P ≠ Q) {key : String}
    (hkey : reg.RegisteredFor codec key Q) (slot : Option Int) (data : Payload) :
    (reg.fanOut codec P slot data).dataMap.get? key = reg.dataMap.get? key ∧
      (reg.fanOut codec P slot data).decodeMap.get? key = reg.decodeMap.get? key := by
  have hmerged := reg.fanOut_merged slot data codec P
  have hout : key ∉ reg.fanOutKeys codec P := fun hin => hPQ <| h.registeredFor_unique (by
    unfold fanOutKeys at hin
    split at hin
    · exact .inl (List.mem_singleton.mp hin)
    · exact .inr hin) hkey
  refine ⟨by rw [hmerged.merged, if_neg hout], ?_⟩
  rw [hmerged.frame]

end KeysOwned

end Registry

namespace EventLoop

variable {Pubkey Record : Type} [DecidableEq Pubkey] (codec : PubkeyCodec Pubkey)
  {l : EventLoop Pubkey Record}

theorem FirstEffect.keysOwned {task : Task Pubkey Record} {reg : Registry Pubkey Record}
    (h : FirstEffect codec l task reg) (hl : l.KeysOwned codec) : reg.KeysOwned codec := by
  cases h with
  | merge keys results =>
      obtain ⟨dataMap, e⟩ := l.toRegistry.mergeGathered_frame keys results
      exact e ▸ hl.of_eq rfl rfl
  | handle msg =>
      exact hl.of_eq (l.toRegistry.handleMsg_keys codec msg).1 (l.toRegistry.handleMsg_keys codec msg).2
  | reset => exact .init
  | _ => exact hl.of_eq rfl rfl

/-- One step keeps the keys owned when the call it makes names its own address. -/
theorem StepEffect.keysOwned {e : Event Pubkey Record} {reg : Registry Pubkey Record}
    (h : StepEffect codec l e reg) (hl : l.KeysOwned codec) (he : e.namesOwnAddress codec = true) :
    reg.KeysOwned codec := by
  have hname : ∀ {call : AddAccountCall Pubkey Record}, e = .addAccount call →
      ∀ oracleId, call.oracleId = some oracleId → pubkeyOfKey codec oracleId = some call.pubkey := by
    rintro call rfl oracleId hoid
    simpa [Event.namesOwnAddress, hoid] using he
  cases h with
  | join call _ _ => exact hl.joinSubscription (hname rfl) _ _
  | register call _ => exact hl.registerFresh (hname rfl) _
  | registerRequest call _ => exact (hl.registerFresh (hname rfl) _).of_eq rfl rfl
  | remove P oracleId => exact hl.removeAccount P oracleId
  | keep => exact hl
  | reset => exact .init
  | resume _ _ _ heffect =>
      cases heffect with
      | first h => exact h.keysOwned codec hl
      | request _ _ h _ => exact (h.keysOwned codec hl).of_eq rfl rfl

theorem keysOwned_run {events : List (Event Pubkey Record)} {l' : EventLoop Pubkey Record}
    (hl : l.KeysOwned codec) (hnamed : ∀ e ∈ events, e.namesOwnAddress codec = true)
    (hrun : l.run codec events = some l') : l'.KeysOwned codec := by
  induction events generalizing l with
  | nil => cases hrun; exact hl
  | cons e events ih =>
      rw [run_cons] at hrun
      obtain ⟨l₁, hstep, hrest⟩ := Option.bind_eq_some.mp hrun
      exact ih ((step_effect codec l hstep).keysOwned codec hl (hnamed e (List.mem_cons_self _ _)))
        (fun e' he' => hnamed e' (List.mem_cons_of_mem _ he')) hrest

/-- Along every run from `__init__` whose oracle ids read back as their own addresses, every
key with a decoder is registered for exactly one address, the oracle ids of two addresses
are disjoint and never another address's plain key, and a notification for one address
leaves the value and the decoder of every other address's keys as they were. -/
theorem keys_owned_along_named_runs (programDecode : Decoder Record)
    {events : List (Event Pubkey Record)} {l : EventLoop Pubkey Record}
    (hnamed : ∀ e ∈ events, e.namesOwnAddress codec = true)
    (hrun : (EventLoop.init programDecode).run codec events = some l) :
    (∀ key ∈ l.decodeMap, ∃ P, l.RegisteredFor codec key P) ∧
      (∀ key P Q, l.RegisteredFor codec key P → l.RegisteredFor codec key Q → P = Q) ∧
      (∀ P Q, P ≠ Q → ∀ oracleId ∈ l.oracleIdsOf P, oracleId ∉ l.oracleIdsOf Q) ∧
      (∀ P Q, P ≠ Q → codec.str Q ∉ l.oracleIdsOf P) ∧
      (∀ P Q, P ≠ Q → ∀ key, l.RegisteredFor codec key Q → ∀ slot data,
        (l.fanOut codec P slot data).dataMap.get? key = l.dataMap.get? key ∧
          (l.fanOut codec P slot data).decodeMap.get? key = l.decodeMap.get? key) := by
  have hinit : (EventLoop.init programDecode : EventLoop Pubkey Record).KeysOwned codec := .init
  have h := keysOwned_run codec hinit hnamed hrun
  refine ⟨h.registered, fun _ _ _ => h.registeredFor_unique, fun P Q hPQ oracleId hP hQ => ?_,
    fun P Q hPQ hQ => ?_, fun P Q hPQ _ hkey slot data => h.fanOut_other hPQ hkey slot data⟩
  · exact hPQ (h.registeredFor_unique (.inr hP) (.inr hQ))
  · exact hPQ (h.registeredFor_unique (.inr hQ) (.inl rfl))

end EventLoop

/-- From `__init__`, `add_account(ADDR1, oracle_id="ADDR1-1")`, an id that reads back as
`ADDR1`. -/
theorem keys_owned_along_named_runs_sample :
    ∃ l, (EventLoop.init rawDecoder).run sampleCodec [.addAccount oracleFeedCall] = some l ∧
      ∀ key P Q, l.RegisteredFor sampleCodec key P → l.RegisteredFor sampleCodec key Q → P = Q := by
  obtain ⟨l, hrun⟩ : ∃ l, (EventLoop.init rawDecoder).run sampleCodec [.addAccount oracleFeedCall] =
      some l := ⟨_, rfl⟩
  exact ⟨l, hrun, (EventLoop.keys_owned_along_named_runs sampleCodec rawDecoder (by decide) hrun).2.1⟩

/-- `ADDR1` subscribed with the oracle id `X` and confirmed as subscription `42`, then
`ADDR2` added with the same oracle id `X` and a value of slot `1`. -/
def sharedOracleIdRun : List (Event SampleAddress Payload) :=
  [.subscribe, .resume 0 .completed, .resume 0 (.connected true),
   .addAccount ⟨.addr1, none, some ⟨1, .bytes []⟩, some "X"⟩, .resume 1 (.sent true),
   .resume 0 (.received (some ⟨.int 42, .int 1, none⟩)),
   .addAccount ⟨.addr2, none, some ⟨1, .bytes []⟩, some "X"⟩]

/-- `X` is an oracle id of both addresses, and a notification for `ADDR1` (subscription
`42`, slot `100`) replaces the value `ADDR2` holds under it. -/
theorem shared_oracleId_crosses_addresses :
    (EventLoop.init rawDecoder).Ends sampleCodec sharedOracleIdRun fun l =>
      "X" ∈ l.oracleIdsOf .addr1 ∧ "X" ∈ l.oracleIdsOf .addr2 ∧
      (l.dataMap.get? "X").join.map DataAndSlot.slot = some 1 ∧
      l.Ends sampleCodec [.resume 0 (.received (some ⟨.account (.ofSlot 100) (.bytes []),
        .null, some (.int 42)⟩))] fun l' =>
        (l'.dataMap.get? "X").join.map DataAndSlot.slot = some 100 := by
  decide

end DriftSubscriber

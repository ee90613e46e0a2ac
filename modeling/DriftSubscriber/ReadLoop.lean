import DriftSubscriber.Registration

/-!
# The read loop on the registry

What `_subscribe_ws` does to the registry once a socket is open: the resubscribe
batch (lines 219-271), a subscription confirmation (lines 369-412), and a
notification routed through `subscription_map` and fanned out to the logical keys
of its address (lines 414-460).  Each runs under `_lock` or with no await inside,
so each is one function of the registry.
-/

namespace DriftSubscriber

variable {Pubkey Record : Type} [DecidableEq Pubkey] (codec : PubkeyCodec Pubkey)

/-- Lines 222-241 on the keys not yet read: the pairs `(pubkey, key)` of `initial_accounts`,
one per address, skipping keys that do not parse and addresses already subscribed;
`seen` is `seen_pubkeys`. -/
def batchFrom (subscribed : Dict Pubkey Int) : List String → List Pubkey → List (Pubkey × String)
  | [], _ => []
  | key :: keys, seen =>
      match pubkeyOfKey codec key with
      | none => batchFrom subscribed keys seen
      | some P =>
          if P ∉ seen ∧ P ∉ subscribed then (P, key) :: batchFrom subscribed keys (P :: seen)
          else batchFrom subscribed keys seen

/-- Lines 440 and 453: `int(result.context.slot)`; `none` when it raises. -/
def contextSlot (context : Context) : Option Int := context.slot.bind Json.toInt?

namespace Registry

variable (reg : Registry Pubkey Record)

/-- Lines 219-241: `initial_accounts`, read from the keys of `data_map` in order. -/
def resubscribeBatch : List (Pubkey × String) :=
  batchFrom codec reg.pubkeyToSubscription reg.dataMap.keys []

/-- Lines 246-251: the request the batch records for `(pubkey, key)`, with the key as
oracle id unless it is the address's own text. -/
def reserveBatchRequest (P : Pubkey) (key : String) : Registry Pubkey Record × Int :=
  reg.recordInflight P (if key ≠ codec.str P then some key else none)

/-! ## Confirmations -/

/-- Lines 373-382: the request id read from `msg.id`; a string goes through `int()`, and
one that `int()` refuses becomes `None`. -/
def requestIdOf : Json → Json
  | .str s =>
      match intOfString? s with
      | some n => .int n
      | none => .null
  | id => id

/-- Lines 389-395: the subscription id recorded both ways, and for every oracle id of the
address. -/
def bindSubscription (subscriptionId : Int) (P : Pubkey) : Registry Pubkey Record :=
  { reg with
    subscriptionMap := reg.subscriptionMap.insert subscriptionId P
    pubkeyToSubscription := reg.pubkeyToSubscription.insert P subscriptionId
    oracleIdToSubscription :=
      match reg.pubkeyToOracleIds.get? P with
      | some ids => ids.keys.foldl (fun m oracleId => m.insert oracleId subscriptionId)
          reg.oracleIdToSubscription
      | none => reg.oracleIdToSubscription }

/-- Lines 399-411: without a matching request, the oldest pending address is bound. -/
def confirmFallback (subscriptionId : Int) : Registry Pubkey Record :=
  match reg.pendingSubscriptions with
  | P :: rest =>
      { reg with
        pendingSubscriptions := rest
        subscriptionMap := reg.subscriptionMap.insert subscriptionId P
        pubkeyToSubscription := reg.pubkeyToSubscription.insert P subscriptionId }
  | [] => reg

/-- Lines 369-412: a confirmation of subscription id `subscriptionId` carrying `msg.id`.
An unhashable id makes the `in` test raise, and the message is dropped (line 461). -/
def confirm (subscriptionId : Int) (id : Json) : Registry Pubkey Record :=
  match requestIdOf id with
  | .null => reg.confirmFallback subscriptionId
  | requestId =>
      match requestId.intKey with
      | .key n =>
          match reg.inflightSubscribes.get? n with
          | some (P, _) =>
              { reg with inflightSubscribes := reg.inflightSubscribes.erase n }.bindSubscription
                subscriptionId P
          | none => reg.confirmFallback subscriptionId
      | .absent => reg.confirmFallback subscriptionId
      | .unhashable => reg

/-! ## Notifications -/

/-- Lines 437-446 and 450-460 for one key: its decoder applied to the data and the result
merged by `_update_data`; the key is left when it has no decoder, when the slot is not an
integer, or when the decoder raises. -/
def deliver (slot : Option Int) (data : Payload) (key : String) : Registry Pubkey Record :=
  match reg.decodeMap.get? key with
  | none => reg
  | some decodeFn =>
      match slot, decodeFn data with
      | some slot, some record => reg.updateData key (some ⟨slot, record⟩)
      | _, _ => reg

/-- Lines 432-434: the keys a notification for the address goes to, its oracle ids when it
has any, else its own text. -/
def fanOutKeys (P : Pubkey) : List String :=
  if (reg.oracleIdsOf P).isEmpty then [codec.str P] else (reg.oracleIdsOf P).keys

/-- Lines 429-460: every key of the address delivered in turn. -/
def fanOut (P : Pubkey) (slot : Option Int) (data : Payload) : Registry Pubkey Record :=
  (reg.fanOutKeys codec P).foldl (fun reg key => reg.deliver slot data key) reg

/-- Lines 414-460: a notification for the subscription id in `msg.subscription`, dropped
when that id is `None`, unhashable or not in `subscription_map`. -/
def notify (subscription : Option Json) (context : Context) (data : Payload) :
    Registry Pubkey Record :=
  match subscription with
  | none => reg
  | some .null => reg
  | some subscriptionId =>
      match subscriptionId.intKey with
      | .key n =>
          match reg.subscriptionMap.get? n with
          | some P => reg.fanOut codec P (contextSlot context) data
          | none => reg
      | _ => reg

/-- Lines 367-460: one message of the read loop. -/
def handleMsg (msg : Msg) : Registry Pubkey Record :=
  match msg.result with
  | .int subscriptionId => reg.confirm subscriptionId msg.id
  | .account context data => reg.notify codec msg.subscription context data
  | .other => reg

/-- What one message can do to the registry: nothing, bind the oldest pending address,
bind the address of an in-flight request, or fan a notification out to an address with a
subscription. -/
theorem handleMsg_cases (msg : Msg) :
    reg.handleMsg codec msg = reg ∨
    (∃ subscriptionId, reg.handleMsg codec msg = reg.confirmFallback subscriptionId) ∨
    (∃ requestId subscriptionId P oracleId, reg.inflightSubscribes.get? requestId = some (P, oracleId) ∧
      reg.handleMsg codec msg = (reg.retractRequest requestId).bindSubscription subscriptionId P) ∨
    (∃ P subscriptionId slot data, reg.subscriptionMap.get? subscriptionId = some P ∧
      reg.handleMsg codec msg = reg.fanOut codec P slot data) := by
  unfold handleMsg
  split
  · unfold confirm
    split
    · exact .inr (.inl ⟨_, rfl⟩)
    · split
      · split
        · exact .inr (.inr (.inl ⟨_, _, _, _, ‹_›, rfl⟩))
        · exact .inr (.inl ⟨_, rfl⟩)
      · exact .inr (.inl ⟨_, rfl⟩)
      · exact .inl rfl
  · unfold notify
    split
    · exact .inl rfl
    · exact .inl rfl
    · split
      · split
        · exact .inr (.inr (.inr ⟨_, _, _, _, ‹_›, rfl⟩))
        · exact .inl rfl
      · exact .inl rfl
  · exact .inl rfl

theorem confirmFallback_of_pending_nil (h : reg.pendingSubscriptions = []) (subscriptionId : Int) :
    reg.confirmFallback subscriptionId = reg := by
  simp [confirmFallback, h]

/-- The frames the read loop must ignore: a confirmation whose request id names no
in-flight request (missing, not an integer, or not a key of `inflight_subscribes`), and a
notification whose subscription id is not a key of `subscription_map`. -/
def StaleFrame (msg : Msg) : Prop :=
  (∃ subscriptionId, msg.result = .int subscriptionId ∧
    ∀ n, (requestIdOf msg.id).intKey = .key n → n ∉ reg.inflightSubscribes) ∨
  (∃ context data, msg.result = .account context data ∧
    ∀ subscriptionId n, msg.subscription = some subscriptionId → subscriptionId.intKey = .key n →
      n ∉ reg.subscriptionMap)

/-- Without a pending address, the fallback binds nothing, and a stale frame leaves the
registry as it was. -/
theorem handleMsg_stale (hpending : reg.pendingSubscriptions = []) {msg : Msg}
    (hstale : reg.StaleFrame msg) : reg.handleMsg codec msg = reg := by
  rcases hstale with ⟨subscriptionId, hresult, hrequest⟩ | ⟨context, data, hresult, hsubscription⟩
  · simp only [handleMsg, hresult, confirm]
    split
    · exact confirmFallback_of_pending_nil reg hpending _
    · split
      · rename_i n hn
        rw [(Dict.get?_eq_none_iff _ _).mpr (hrequest n hn)]
        exact confirmFallback_of_pending_nil reg hpending _
      · exact confirmFallback_of_pending_nil reg hpending _
      · rfl
  · simp only [handleMsg, hresult, notify]
    split
    · rfl
    · rfl
    · split
      · rename_i hsome _ n hn
        rw [(Dict.get?_eq_none_iff _ _).mpr (hsubscription _ n hsome hn)]
      · rfl

end Registry

end DriftSubscriber

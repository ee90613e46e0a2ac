import DriftSubscriber.FanOut

/-!
# Parsing a frame: `FakeMsg` and `FakeResult`

The read loop decodes each text frame with `json.loads` and wraps the value in the
`FakeMsg` and `FakeResult` classes of lines 285-329; any exception on the way drops the
frame (lines 330-332).  `base64.b64decode` is library code and stays a parameter,
`b64decode`, which is `none` where it raises.

Three things follow for the frames of the account-subscription protocol.  A frame is
taken as a confirmation exactly when its own `result` is an `int` or a `bool`, so no
notification and no error reply is ever one.  An `accountNotification` frame for a
routed subscription id reaches the registry as the merge of its decoded bytes into the
address's fan-out, after which `get_data` returns the decoded bytes at the notification's
slot unless the cached value is newer.  A JSON-RPC error reply parses and changes nothing:
the request it answers stays in `inflight_subscribes`.

The attributes of `FakeResult.context` come from `type('Context', (), d)()`: a context
whose special names make `type()` or the call raise drops its frame, and one that
defines `__getattribute__` gives no slot (`makesContext`, `Context.slot`).
-/

namespace DriftSubscriber

namespace Json

/-- Python's truth value of a decoded value, as `if result_data:` (line 315) tests it. -/
def truthy : Json → Bool
  | .null => false
  | .bool b => b
  | .int n => n != 0
  | .float (some 0) true => false
  | .float _ _ => true
  | .str s => !s.isEmpty
  | .array items => !items.isEmpty
  | .object fields => !fields.isEmpty

/-- `isinstance(x, int)` (line 310) with the value of `x`: an `int`, or a `bool`. -/
def asInt? : Json → Option Int
  | .bool b => some (if b then 1 else 0)
  | .int n => some n
  | _ => none

end Json

section Parse

variable (b64decode : String → Option (List UInt8))

/-- Lines 292-302: the `data` of a `FakeResult`.  The first item of a non-empty list, or
a string, goes through `b64decode`, which raises on anything but a string; any other
value is kept as it is. -/
def fakeData : Json → Option Payload
  | .array (.str s :: _) => (b64decode s).map .bytes
  | .array (_ :: _) => none
  | .str s => (b64decode s).map .bytes
  | data => some (.raw data)

/-- Line 290: `type('Context', (), result_data.get("context", {}))()`; `type()` raises on
anything but a dict, and on a dict it does not make a class of (`makesContext`). -/
def contextOf? : Option Json → Option Context
  | none => some ⟨[], rfl⟩
  | some (.object context) => if h : makesContext context = true then some ⟨context, h⟩ else none
  | some _ => none

/-- Lines 291-293: `result_data.get("value", {})`, whose `.get` raises unless it is a
dict. -/
def valueOf? : Option Json → Option (List (String × Json))
  | none => some []
  | some (.object value) => some value
  | some _ => none

/-- Lines 287-305: what the read loop tests of `FakeResult(result_data)`.  An object
gives its context and the data of its value; anything else gives a `value` of `None`. -/
def fakeResult : Json → Option MsgResult
  | .object fields =>
      (contextOf? (fields.lookup "context")).bind fun context =>
        (valueOf? (fields.lookup "value")).bind fun value =>
          (fakeData b64decode (dictGet value "data")).map (.account context)
  | _ => some .other

/-- Lines 323-327: the `subscription` of a frame that is neither a confirmation nor a
notification, from its `params` when it has them. -/
def fallbackSubscription : Option Json → Option Json
  | none => some .null
  | some (.object params) => some (dictGet params "subscription")
  | some _ => none

/-- Lines 307-329: `FakeMsg(data)`; `none` when it raises.  On anything but an object,
the `in` tests, the subscripts or `data.get` raise. -/
def fakeMsg : Json → Option Msg
  | .object data =>
      match (data.lookup "result").bind Json.asInt? with
      | some n => some ⟨.int n, dictGet data "id", none⟩
      | none =>
          if (data.lookup "method").isSome ∧ (data.lookup "params").isSome then
            match dictGet data "params" with
            | .object params =>
                let resultData := dictGet params "result"
                (if resultData.truthy then fakeResult b64decode resultData else some .other).map
                  fun result => ⟨result, dictGet data "id", some (dictGet params "subscription")⟩
            | _ => none
          else
            (fakeResult b64decode (dictGet data "result")).bind fun result =>
              (fallbackSubscription (data.lookup "params")).map fun subscription =>
                ⟨result, dictGet data "id", some subscription⟩
  | _ => none

/-- A `FakeResult` is never an `int`: it is a notification's result or has no value. -/
theorem fakeResult_ne_int {resultData : Json} {result : MsgResult}
    (h : fakeResult b64decode resultData = some result) (n : Int) : result ≠ .int n := by
  cases resultData
  case object fields =>
    simp only [fakeResult, Option.bind_eq_some, Option.map_eq_some'] at h
    obtain ⟨_, -, _, -, _, -, rfl⟩ := h
    exact MsgResult.noConfusion
  all_goals cases h; exact MsgResult.noConfusion

/-- The read loop takes a frame as the confirmation of subscription id `n` carrying
`id` exactly when the frame is an object whose own `result` is an `int` or a `bool` of
value `n`, and whose `id` is `id`: a notification, an error reply or any other frame is
never one, whatever its `params` hold. -/
theorem fakeMsg_confirmation_iff (frame : Json) (n : Int) (id : Json) :
    (∃ subscription, fakeMsg b64decode frame = some ⟨.int n, id, subscription⟩) ↔
      ∃ data, frame = .object data ∧ (data.lookup "result").bind Json.asInt? = some n ∧
        dictGet data "id" = id := by
  refine ⟨?_, fun ⟨data, hframe, hresult, hid⟩ => ⟨none, by simp only [hframe, fakeMsg, hresult, hid]⟩⟩
  rintro ⟨subscription, h⟩
  cases frame
  case object data =>
    refine ⟨data, rfl, ?_⟩
    unfold fakeMsg at h
    cases hresult : (data.lookup "result").bind Json.asInt? with
    | some m =>
        simp only [hresult, Option.some.injEq, Msg.mk.injEq, MsgResult.int.injEq] at h
        exact ⟨congrArg some h.1, h.2.1⟩
    | none =>
        -- the notification and fallback branches give a `FakeResult` or a result without value
        simp only [hresult] at h
        split_ifs at h
        · split at h
          · obtain ⟨result, hparse, ⟨⟩⟩ := Option.map_eq_some'.mp h
            split_ifs at hparse
            exacts [(fakeResult_ne_int b64decode hparse n rfl).elim, nomatch hparse]
          · cases h
        · obtain ⟨result, hparse, hmsg⟩ := Option.bind_eq_some.mp h
          obtain ⟨_, -, ⟨⟩⟩ := Option.map_eq_some'.mp hmsg
          exact (fakeResult_ne_int b64decode hparse n rfl).elim
  all_goals cases h

/-- The `accountNotification` frame of the Solana pubsub API for subscription id
`subscription`: the result's `context` has the fields `context`, and its `value` holds
the account's data as `[text, "base64"]` beside the account's other fields `accountFields`
(`lamports`, `owner`, ...). -/
def accountNotification (subscription : Int) (context accountFields : List (String × Json))
    (text : String) : Json :=
  .object [("jsonrpc", .str "2.0"), ("method", .str "accountNotification"),
    ("params", .object
      [("result", .object [("context", .object context),
        ("value", .object (("data", .array [.str text, .str "base64"]) :: accountFields))]),
       ("subscription", .int subscription)])]

/-- An `accountNotification` frame parses to a notification of its context and the
decoded bytes for its subscription id; it is dropped when `type()` makes no object of its
context or its data is not base64. -/
theorem fakeMsg_accountNotification (subscription : Int) (context accountFields : List (String × Json))
    (text : String) :
    fakeMsg b64decode (accountNotification subscription context accountFields text) =
      (contextOf? (some (.object context))).bind fun c => (b64decode text).map fun bytes =>
        ⟨.account c (.bytes bytes), .null, some (.int subscription)⟩ := by
  show Option.map _ ((contextOf? (some (.object context))).bind fun c =>
    (Option.map Payload.bytes (b64decode text)).map (MsgResult.account c)) = _
  cases contextOf? (some (.object context)) with
  | none => rfl
  | some c => simp only [Option.some_bind, Option.map_map]; rfl

theorem contextOf?_object {context : List (String × Json)} (h : makesContext context = true) :
    contextOf? (some (.object context)) = some ⟨context, h⟩ := dif_pos h

theorem contextOf?_object_eq_none {context : List (String × Json)} (h : makesContext context = false) :
    contextOf? (some (.object context)) = none := dif_neg (by rw [h]; exact Bool.false_ne_true)

variable {Pubkey Record : Type} [DecidableEq Pubkey] (codec : PubkeyCodec Pubkey)

/-- The message of an `accountNotification` frame for a subscription id routed to `P` is
delivered to the fan-out of `P`. -/
theorem handleMsg_accountNotification (reg : Registry Pubkey Record) {subscription : Int}
    {P : Pubkey} (hroute : reg.subscriptionMap.get? subscription = some P) (context : Context)
    (bytes : List UInt8) :
    reg.handleMsg codec ⟨.account context (.bytes bytes), .null, some (.int subscription)⟩ =
      reg.fanOut codec P (contextSlot context) (.bytes bytes) := by
  simp only [Registry.handleMsg, Registry.notify, Json.intKey, hroute]

/-- End to end, from the text of the frame: an `accountNotification` whose subscription
id `subscription_map` routes to `P` and whose data is base64 is dropped when `type()` makes
no object of its context; otherwise it is merged into the fan-out of `P`, with the slot read
from that object and the decoded bytes, and changes nothing else. -/
theorem accountNotification_merges_fanOut (reg : Registry Pubkey Record) {subscription : Int}
    {P : Pubkey} (hroute : reg.subscriptionMap.get? subscription = some P)
    (context accountFields : List (String × Json)) {text : String} {bytes : List UInt8}
    (hbytes : b64decode text = some bytes) :
    (makesContext context = false →
        fakeMsg b64decode (accountNotification subscription context accountFields text) = none) ∧
      ∀ h : makesContext context = true,
        ∃ msg, fakeMsg b64decode (accountNotification subscription context accountFields text) = some msg ∧
          reg.NotificationMerged codec (reg.handleMsg codec msg) P (contextSlot ⟨context, h⟩)
            (.bytes bytes) := by
  refine ⟨fun h => by rw [fakeMsg_accountNotification, contextOf?_object_eq_none h]; rfl, fun h => ?_⟩
  refine ⟨_, by rw [fakeMsg_accountNotification, contextOf?_object h, hbytes]; rfl, ?_⟩
  rw [handleMsg_accountNotification codec reg hroute]
  exact reg.fanOut_merged _ _ codec P

/-- End to end, from the text of the frame to `get_data`: once an `accountNotification` for a
routed subscription id, with base64 data and a context that `type()` makes an object of, whose
slot `int()` reads as `n`, has been read,
`get_data(P)` returns the bytes as the decoder of one of `P`'s fan-out keys decodes them, at slot
`n`, provided each key of the fan-out has a decoder that accepts them and no value of a higher
slot. -/
theorem getData_after_accountNotification (reg : Registry Pubkey Record) {subscription : Int}
    {P : Pubkey} (hroute : reg.subscriptionMap.get? subscription = some P)
    (context accountFields : List (String × Json)) {text : String} {bytes : List UInt8}
    (hbytes : b64decode text = some bytes) (hcontext : makesContext context = true) {n : Int}
    (hslot : contextSlot ⟨context, hcontext⟩ = some n)
    (hfresh : ∀ k ∈ reg.fanOutKeys codec P,
      (∃ decodeFn record, reg.decodeMap.get? k = some decodeFn ∧ decodeFn (.bytes bytes) = some record) ∧
        ∀ d, (reg.dataMap.get? k).join = some d → d.slot ≤ n) :
    ∃ msg, fakeMsg b64decode (accountNotification subscription context accountFields text) = some msg ∧
      ∃ k ∈ reg.fanOutKeys codec P, ∃ decodeFn record, reg.decodeMap.get? k = some decodeFn ∧
        decodeFn (.bytes bytes) = some record ∧
        (reg.handleMsg codec msg).getData codec (.inl P) = some ⟨n, record⟩ := by
  refine ⟨_, by rw [fakeMsg_accountNotification, contextOf?_object hcontext, hbytes]; rfl, ?_⟩
  rw [handleMsg_accountNotification codec reg hroute, hslot]
  obtain ⟨frame, merged, -⟩ := reg.fanOut_merged (some n) (.bytes bytes) codec P
  obtain ⟨k, hk, hread⟩ := reg.getData_inl_reads codec P
  obtain ⟨⟨decodeFn, record, hdecoder, hrecord⟩, hnewer⟩ := hfresh k hk
  refine ⟨k, hk, decodeFn, record, hdecoder, hrecord, ?_⟩
  have hdecoded : reg.decodedAt (some n) (.bytes bytes) k = some ⟨n, record⟩ := by
    simp only [Registry.decodedAt, hdecoder, hrecord]
  rw [hread _ (by rw [frame]), merged, if_pos hk, hdecoded, mergeEntry]
  cases hcurrent : (reg.dataMap.get? k).join with
  | none => rfl
  | some current => simp [hnewer current hcurrent]

/-- A JSON-RPC error reply, or any frame with neither `result` nor `params`, parses into
a message the read loop ignores: the registry is left as it was, and the request the
reply answers stays in `inflight_subscribes`. -/
theorem errorReply_leaves_registry (reg : Registry Pubkey Record) (data : List (String × Json))
    (hresult : data.lookup "result" = none) (hparams : data.lookup "params" = none) :
    (fakeMsg b64decode (.object data)).map (reg.handleMsg codec) = some reg := by
  simp only [fakeMsg, hresult, hparams, Option.none_bind, Option.isSome_none, Bool.false_eq_true,
    and_false, if_false, dictGet, Option.getD_none, fakeResult, fallbackSubscription,
    Option.some_bind, Option.map_some']
  rfl

end Parse

/-- Subscription id `42` routed to `ADDR1`, and nothing else. -/
def routedRegistry : Registry SampleAddress Payload :=
  { Registry.init with subscriptionMap := Dict.empty.insert 42 .addr1 }

/-- A notification for subscription `42` whose data decodes to the byte `7`. -/
theorem accountNotification_merges_fanOut_sample :
    routedRegistry.subscriptionMap.get? 42 = some .addr1 ∧
      (fun _ => some [7] : String → Option (List UInt8)) "Bw==" = some [7] ∧
      (makesContext [("slot", .int 9)] = false →
        fakeMsg (fun _ => some [7]) (accountNotification 42 [("slot", .int 9)] [] "Bw==") = none) ∧
      ∀ h : makesContext [("slot", .int 9)] = true,
        ∃ msg, fakeMsg (fun _ => some [7]) (accountNotification 42 [("slot", .int 9)] [] "Bw==") =
            some msg ∧
          routedRegistry.NotificationMerged sampleCodec (routedRegistry.handleMsg sampleCodec msg)
            .addr1 (contextSlot ⟨[("slot", .int 9)], h⟩) (.bytes [7]) :=
  ⟨rfl, rfl, accountNotification_merges_fanOut (fun _ => some [7]) sampleCodec routedRegistry
    (rfl : routedRegistry.subscriptionMap.get? 42 = some .addr1) [("slot", .int 9)] [] rfl⟩

/-- A context naming `__init__` makes the call of line 290 raise, and the frame is dropped. -/
example : (fakeMsg (fun _ => some [7])
    (accountNotification 42 [("slot", .int 9), ("__init__", .null)] [] "Bw==")).isNone = true := rfl

/-- A notification of slot `9` for subscription `42` replaces the value of slot `3` that
`get_data(ADDR1)` returns. -/
theorem getData_after_accountNotification_sample :
    decodingRegistry.subscriptionMap.get? 42 = some .addr1 ∧
      (fun _ => some [7] : String → Option (List UInt8)) "Bw==" = some [7] ∧
      makesContext [("slot", .int 9)] = true ∧ contextSlot (.ofSlot 9) = some 9 ∧
      (∀ k ∈ decodingRegistry.fanOutKeys sampleCodec .addr1,
        (∃ decodeFn record, decodingRegistry.decodeMap.get? k = some decodeFn ∧
          decodeFn (.bytes [7]) = some record) ∧
          ∀ d, (decodingRegistry.dataMap.get? k).join = some d → d.slot ≤ 9) ∧
      ∃ msg, fakeMsg (fun _ => some [7]) (accountNotification 42 [("slot", .int 9)] [] "Bw==") = some msg ∧
        ∃ k ∈ decodingRegistry.fanOutKeys sampleCodec .addr1, ∃ decodeFn record,
          decodingRegistry.decodeMap.get? k = some decodeFn ∧ decodeFn (.bytes [7]) = some record ∧
          (decodingRegistry.handleMsg sampleCodec msg).getData sampleCodec (.inl .addr1) = some ⟨9, record⟩ :=
  have hcached : (decodingRegistry.dataMap.get? "ADDR1").join = some ⟨3, .bytes []⟩ := rfl
  have hfresh : ∀ k ∈ decodingRegistry.fanOutKeys sampleCodec .addr1,
      (∃ decodeFn record, decodingRegistry.decodeMap.get? k = some decodeFn ∧
        decodeFn (.bytes [7]) = some record) ∧
        ∀ d, (decodingRegistry.dataMap.get? k).join = some d → d.slot ≤ 9 := fun k hk => by
    obtain rfl : k = "ADDR1" := List.mem_singleton.mp (hk : k ∈ ["ADDR1"])
    exact ⟨⟨rawDecoder, .bytes [7], rfl, rfl⟩, fun d hd => by cases hcached.symm.trans hd; decide⟩
  ⟨rfl, rfl, rfl, rfl, hfresh, getData_after_accountNotification (fun _ => some [7]) sampleCodec
    decodingRegistry (rfl : decodingRegistry.subscriptionMap.get? 42 = some .addr1) [("slot", .int 9)] []
    rfl rfl rfl hfresh⟩

end DriftSubscriber

import DriftSubscriber.Registry

/-!
# Registering and removing feeds

The parts of `add_account` (lines 50-139) and `remove_account` (lines 141-191)
that run under `_lock`, as functions of the registry.  `add_account` stores a key
next to an address that already has a subscription (lines 67-79) or afresh
(lines 81-92), later records an in-flight request (lines 109-119), and retracts
it when the send fails (lines 137-139).  `remove_account` drops oracle ids, and
the subscription with the plain key unless the address keeps other oracle ids.
-/

namespace DriftSubscriber

/-- The arguments of one `add_account` call. -/
structure AddAccountCall (Pubkey Record : Type) where
  pubkey : Pubkey
  decode : Option (Decoder Record)
  initialData : Option (DataAndSlot Record)
  oracleId : Option String

namespace AddAccountCall

variable {Pubkey Record : Type} (call : AddAccountCall Pubkey Record)

/-- Line 57: the decoder the call stores, the program's account decoder by default. -/
def decodeFn (programDecode : Decoder Record) : Decoder Record := call.decode.getD programDecode

/-- Lines 60-63: the logical key, `oracle_id` or `str(pubkey)`. -/
def key (codec : PubkeyCodec Pubkey) : String := call.oracleId.getD (codec.str call.pubkey)

end AddAccountCall

namespace Registry

variable {Pubkey Record : Type} [DecidableEq Pubkey] (reg : Registry Pubkey Record)

/-! ## `add_account` -/

/-- Lines 70-72 and 90-92: `pubkey_to_oracle_ids[pubkey].add(oracle_id)`, the set
created first when the address has none. -/
def addOracleId (P : Pubkey) (oracleId : String) : Registry Pubkey Record :=
  { reg with
    pubkeyToOracleIds := reg.pubkeyToOracleIds.insert P ((reg.oracleIdsOf P).add oracleId) }

/-- Lines 76-78 and 82-84: the decoder and any initial value stored under the key. -/
def storeKey (key : String) (decodeFn : Decoder Record)
    (initialData : Option (DataAndSlot Record)) : Registry Pubkey Record :=
  { reg with
    decodeMap := reg.decodeMap.insert key decodeFn
    dataMap :=
      match initialData with
      | some data => reg.dataMap.insert key (some data)
      | none => reg.dataMap }

/-- Lines 69-78: an `oracle_id` joins the confirmed subscription `subscriptionId` of its
address; a call without `oracle_id` changes nothing. -/
def joinSubscription (call : AddAccountCall Pubkey Record) (key : String)
    (decodeFn : Decoder Record) (subscriptionId : Int) : Registry Pubkey Record :=
  match call.oracleId with
  | none => reg
  | some oracleId =>
      { (reg.addOracleId call.pubkey oracleId).storeKey key decodeFn call.initialData with
        oracleIdToSubscription := reg.oracleIdToSubscription.insert oracleId subscriptionId }

/-- Lines 82-92: the key stored, and its oracle id recorded for the address. -/
def registerFresh (call : AddAccountCall Pubkey Record) (key : String)
    (decodeFn : Decoder Record) : Registry Pubkey Record :=
  let reg := reg.storeKey key decodeFn call.initialData
  match call.oracleId with
  | some oracleId => reg.addOracleId call.pubkey oracleId
  | none => reg

section RegisterFresh

variable (call : AddAccountCall Pubkey Record) (key : String) (decodeFn : Decoder Record)

@[simp] theorem registerFresh_subscriptionMap :
    (reg.registerFresh call key decodeFn).subscriptionMap = reg.subscriptionMap := by
  unfold registerFresh; split <;> rfl

@[simp] theorem registerFresh_pubkeyToSubscription :
    (reg.registerFresh call key decodeFn).pubkeyToSubscription = reg.pubkeyToSubscription := by
  unfold registerFresh; split <;> rfl

@[simp] theorem registerFresh_oracleIdToSubscription :
    (reg.registerFresh call key decodeFn).oracleIdToSubscription = reg.oracleIdToSubscription := by
  unfold registerFresh; split <;> rfl

@[simp] theorem registerFresh_requestIdCounter :
    (reg.registerFresh call key decodeFn).requestIdCounter = reg.requestIdCounter := by
  unfold registerFresh; split <;> rfl

@[simp] theorem registerFresh_inflightSubscribes :
    (reg.registerFresh call key decodeFn).inflightSubscribes = reg.inflightSubscribes := by
  unfold registerFresh; split <;> rfl

@[simp] theorem registerFresh_pendingSubscriptions :
    (reg.registerFresh call key decodeFn).pendingSubscriptions = reg.pendingSubscriptions := by
  unfold registerFresh; split <;> rfl

@[simp] theorem registerFresh_decodeMap :
    (reg.registerFresh call key decodeFn).decodeMap = reg.decodeMap.insert key decodeFn := by
  unfold registerFresh; split <;> rfl

end RegisterFresh

/-- Lines 83-86 and 95: the call fetches a snapshot when it was given no initial value
and none is cached under the key. -/
def snapshotNeeded (call : AddAccountCall Pubkey Record) (key : String) : Bool :=
  call.initialData.isNone && (reg.dataMap.get? key).join.isNone

/-- Lines 115-119 and 248-251: the next request id, recorded in flight for the address. -/
def recordInflight (P : Pubkey) (oracleId : Option String) : Registry Pubkey Record × Int :=
  let requestId := reg.requestIdCounter + 1
  ({ reg with
      requestIdCounter := requestId
      inflightSubscribes := reg.inflightSubscribes.insert requestId (P, oracleId) },
    requestId)

omit [DecidableEq Pubkey] in
@[simp] theorem recordInflight_fst (P : Pubkey) (oracleId : Option String) :
    (reg.recordInflight P oracleId).1 =
      { reg with
        requestIdCounter := reg.requestIdCounter + 1
        inflightSubscribes := reg.inflightSubscribes.insert (reg.requestIdCounter + 1) (P, oracleId) } :=
  rfl

/-- Lines 109-119 of `add_account`: nothing when the address has a subscription by now
(line 111), a recorded request otherwise. -/
def reserveRequest (P : Pubkey) (oracleId : Option String) :
    Option (Registry Pubkey Record × Int) :=
  if P ∈ reg.pubkeyToSubscription then none else some (reg.recordInflight P oracleId)

/-- Lines 137-139 and 269-271: the request of a frame that could not be sent. -/
def retractRequest (requestId : Int) : Registry Pubkey Record :=
  { reg with inflightSubscribes := reg.inflightSubscribes.erase requestId }

/-! ## `remove_account` -/

/-- Lines 147-152 and 161-166: the entries of one oracle id. -/
def dropKey (key : String) : Registry Pubkey Record :=
  { reg with
    oracleIdToSubscription := reg.oracleIdToSubscription.erase key
    decodeMap := reg.decodeMap.erase key
    dataMap := reg.dataMap.erase key }

/-- Lines 143-167: one oracle id of the address, or all of them. -/
def dropOracleIds (P : Pubkey) : Option String → Registry Pubkey Record
  | some oracleId =>
      match reg.pubkeyToOracleIds.get? P with
      | some ids =>
          { reg.dropKey oracleId with
            pubkeyToOracleIds := reg.pubkeyToOracleIds.insert P (ids.discard oracleId) }
      | none => reg
  | none =>
      match reg.pubkeyToOracleIds.get? P with
      | some ids =>
          { ids.keys.foldl dropKey reg with
            pubkeyToOracleIds := reg.pubkeyToOracleIds.erase P }
      | none => reg

/-- Line 155: with an `oracle_id`, `remove_account` returns while the address has oracle
ids left. -/
def keepsSubscription (P : Pubkey) (oracleId : Option String) : Bool :=
  oracleId.isSome &&
    match reg.pubkeyToOracleIds.get? P with
    | some ids => !ids.isEmpty
    | none => false

/-- Lines 181-191: the subscription `subscriptionId` of the address and its plain key
dropped; `none` when `subscription_map` lacks the id and line 181 raises `KeyError`. -/
def dropSubscription (codec : PubkeyCodec Pubkey) (P : Pubkey) (subscriptionId : Int) :
    Option (Registry Pubkey Record) :=
  if subscriptionId ∈ reg.subscriptionMap then
    let key := codec.str P
    some { reg with
      subscriptionMap := reg.subscriptionMap.erase subscriptionId
      pubkeyToSubscription := reg.pubkeyToSubscription.erase P
      decodeMap := reg.decodeMap.erase key
      dataMap := reg.dataMap.erase key
      initialDataMap := reg.initialDataMap.erase key }
  else none

theorem dropSubscription_eq_some {codec : PubkeyCodec Pubkey} {P : Pubkey} {subscriptionId : Int}
    {reg' : Registry Pubkey Record} (h : reg.dropSubscription codec P subscriptionId = some reg') :
    reg' = { reg with
      subscriptionMap := reg.subscriptionMap.erase subscriptionId
      pubkeyToSubscription := reg.pubkeyToSubscription.erase P
      decodeMap := reg.decodeMap.erase (codec.str P)
      dataMap := reg.dataMap.erase (codec.str P)
      initialDataMap := reg.initialDataMap.erase (codec.str P) } := by
  unfold dropSubscription at h
  split at h
  · exact (Option.some.inj h).symm
  · cases h

/-- Lines 142-191 on the registry: the registry left (where line 181 raises, the one
before it), and the subscription id of line 173 when the call reaches it. -/
def removeAccount (codec : PubkeyCodec Pubkey) (P : Pubkey) (oracleId : Option String) :
    Registry Pubkey Record × Option Int :=
  let reg := reg.dropOracleIds P oracleId
  if reg.keepsSubscription P oracleId then (reg, none)
  else
    match reg.pubkeyToSubscription.get? P with
    | none => (reg, none)
    | some subscriptionId => ((reg.dropSubscription codec P subscriptionId).getD reg, some subscriptionId)

/-- What `remove_account` leaves: the oracle ids dropped, and then possibly the subscription. -/
theorem removeAccount_cases (codec : PubkeyCodec Pubkey) (P : Pubkey) (oracleId : Option String) :
    (reg.removeAccount codec P oracleId).1 = reg.dropOracleIds P oracleId ∨
      ∃ subscriptionId, (reg.dropOracleIds P oracleId).dropSubscription codec P subscriptionId =
        some (reg.removeAccount codec P oracleId).1 := by
  unfold removeAccount; dsimp only
  split
  · exact .inl rfl
  · split
    · exact .inl rfl
    · cases hsub : (reg.dropOracleIds P oracleId).dropSubscription codec P ‹_› with
      | none => exact .inl rfl
      | some reg' => exact .inr ⟨_, hsub⟩

end Registry

end DriftSubscriber

import DriftSubscriber.Dict
import DriftSubscriber.Frame
import DriftSubscriber.Keys

/-!
# The subscriber's registry

The maps that `WebsocketMultiAccountSubscriber.__init__` creates (lines 31-45) and
that every method reads and writes under `_lock`: the connection-scoped maps of
subscription ids and in-flight requests, the request counter, and the maps of
logical keys to decoders, cached values and oracle ids.  `_update_data` (lines
548-554) is the merge rule of cached values; the clears are what a lost
connection and `unsubscribe()` discard.
-/

namespace DriftSubscriber

/-- `DataAndSlot` of `driftpy.accounts`: a record and the slot it was read at. -/
structure DataAndSlot (Record : Type) where
  slot : Int
  data : Record

/-- A decoder of raw account data; `none` when it raises. -/
abbrev Decoder (Record : Type) := Payload → Option Record

/-- The decoder that keeps the raw data, the `identity` of the spec's scenario; the
concrete runs of the later modules decode with it. -/
def rawDecoder : Decoder Payload := some

/-- The maps of lines 31-45 and the request counter. -/
structure Registry (Pubkey Record : Type) where
  subscriptionMap : Dict Int Pubkey
  pubkeyToSubscription : Dict Pubkey Int
  decodeMap : Dict String (Decoder Record)
  dataMap : Dict String (Option (DataAndSlot Record))
  initialDataMap : Dict String (Option (DataAndSlot Record))
  pendingSubscriptions : List Pubkey
  pubkeyToOracleIds : Dict Pubkey (PySet String)
  oracleIdToSubscription : Dict String Int
  requestIdCounter : Int
  inflightSubscribes : Dict Int (Pubkey × Option String)

variable {Pubkey Record : Type}

/-- The entry that `_update_data` leaves under its key, from the entry there before:
a value of no lower slot replaces the cached one, `None` changes nothing. -/
def mergeEntry (entry : Option (Option (DataAndSlot Record))) :
    Option (DataAndSlot Record) → Option (Option (DataAndSlot Record))
  | none => entry
  | some newData =>
      match entry.join with
      | some current => if newData.slot ≥ current.slot then some (some newData) else entry
      | none => some (some newData)

/-- The body of `_update_data` (lines 548-554) on `data_map`. -/
def mergeInto (dataMap : Dict String (Option (DataAndSlot Record))) (key : String) :
    Option (DataAndSlot Record) → Dict String (Option (DataAndSlot Record))
  | none => dataMap
  | some newData =>
      match (dataMap.get? key).join with
      | some current =>
          if newData.slot ≥ current.slot then dataMap.insert key (some newData) else dataMap
      | none => dataMap.insert key (some newData)

theorem mergeInto_get? (dataMap : Dict String (Option (DataAndSlot Record))) (key k : String)
    (newData : Option (DataAndSlot Record)) :
    (mergeInto dataMap key newData).get? k =
      if k = key then mergeEntry (dataMap.get? key) newData else dataMap.get? k := by
  cases newData with
  | none => by_cases hk : k = key <;> simp [mergeInto, mergeEntry, hk]
  | some newData =>
      unfold mergeInto mergeEntry
      cases (dataMap.get? key).join with
      | none => simp
      | some current =>
          by_cases hslot : newData.slot ≥ current.slot
          · simp [hslot]
          · by_cases hk : k = key <;> simp [hslot, hk]

namespace Registry

/-- The registry of `__init__`, and the one the final clear of `unsubscribe()` (lines
662-673) leaves: every map empty, the counter at `0`. -/
def init : Registry Pubkey Record :=
  ⟨.empty, .empty, .empty, .empty, .empty, [], .empty, .empty, 0, .empty⟩

variable (reg : Registry Pubkey Record)

/-- `_update_data` (lines 548-554). -/
def updateData (key : String) (newData : Option (DataAndSlot Record)) : Registry Pubkey Record :=
  { reg with dataMap := mergeInto reg.dataMap key newData }

/-- What a lost connection discards (lines 472-474, 485-487, 507-509, 522-524, 543-545). -/
def clearConnection : Registry Pubkey Record :=
  { reg with
    subscriptionMap := .empty
    pubkeyToSubscription := .empty
    inflightSubscribes := .empty }

@[simp] theorem clearConnection_clearConnection :
    reg.clearConnection.clearConnection = reg.clearConnection := rfl

variable [DecidableEq Pubkey]

/-- The oracle ids of an address: `pubkey_to_oracle_ids.get(pubkey, set())`. -/
def oracleIdsOf (P : Pubkey) : PySet String := (reg.pubkeyToOracleIds.get? P).getD .empty

/-- `get_data` (lines 556-571): by logical key, or by address through its oracle ids,
`list(oracle_ids)[0]` when there are several.  The model lists a set in insertion order,
where CPython lists it in the order of its hash table. -/
def getData (codec : PubkeyCodec Pubkey) : Pubkey ⊕ String → Option (DataAndSlot Record)
  | .inr key => (reg.dataMap.get? key).join
  | .inl P =>
      match (reg.oracleIdsOf P).keys with
      | [] => (reg.dataMap.get? (codec.str P)).join
      | key :: _ => (reg.dataMap.get? key).join

end Registry

end DriftSubscriber

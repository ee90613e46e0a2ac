import DriftSubscriber.Frame
import DriftSubscriber.Keys

/-!
# Decoding the order books of the DLOB server

`decode_l2_orderbook` and `decode_l3_orderbook` of `dlob/dlob_subscriber.py` (lines 164-207)
read the body of an `/l2` or `/l3` reply after `json.loads`: one level per item of `asks`
and of `bids`, each built from the item's fields as they are, and the `slot` when there is
one.  Any exception is the caller's.

A side that is not a list decodes only when it is empty:
the loop over `data["asks"]` then runs over the characters of a string or the keys of a
dict, and any of them makes the subscript raise.
-/

namespace DriftSubscriber.OrderBook

/-- `for item in value`: what a decoded value yields, `none` when it is not iterable.  A dict
yields its keys, a string its characters. -/
def iterItems : Json → Option (List Json)
  | .array items => some items
  | .object fields => some (fields.map fun field => .str field.1)
  | .str s => some (s.data.map fun c => .str (String.singleton c))
  | _ => none

/-- The levels of one side (lines 166-171 and 188-205): `decode` on each item of
`data[side]`, in order. -/
def decodeLevels {α : Type} (decode : Json → Option α) (data : Json) (side : String) : Option (List α) :=
  ((data.field? side).bind iterItems).bind fun items => items.mapM decode

/-- `L2Level(price, size, sources)`, its fields as `json.loads` gives them. -/
structure L2Level where
  price : Json
  size : Json
  sources : Json

/-- `L2OrderBook(asks, bids, slot)`. -/
structure L2OrderBook where
  asks : List L2Level
  bids : List L2Level
  slot : Json

/-- Lines 167-169: `L2Level(ask["price"], ask["size"], ask["sources"])`. -/
def l2Level (level : Json) : Option L2Level :=
  (level.field? "price").bind fun price => (level.field? "size").bind fun size =>
    (level.field? "sources").map fun sources => ⟨price, size, sources⟩

/-- `decode_l2_orderbook` (lines 164-173) on the value `json.loads` made of the body. -/
def decodeL2Orderbook (data : Json) : Option L2OrderBook :=
  (decodeLevels l2Level data "asks").bind fun asks => (decodeLevels l2Level data "bids").map fun bids =>
    ⟨asks, bids, (data.field? "slot").getD .null⟩

variable {Pubkey : Type} (codec : PubkeyCodec Pubkey)

/-- `L3Level(price, size, maker, order_id)`. -/
structure L3Level (Pubkey : Type) where
  price : Json
  size : Json
  maker : Pubkey
  orderId : Json

/-- `L3OrderBook(asks, bids, slot)`. -/
structure L3OrderBook (Pubkey : Type) where
  asks : List (L3Level Pubkey)
  bids : List (L3Level Pubkey)
  slot : Json

/-- `Pubkey.from_string(x)`, which raises on a text that is no address and on anything but a
text. -/
def pubkeyFromJson : Json → Option Pubkey
  | .str s => codec.fromString s
  | _ => none

/-- Lines 189-194: `L3Level(ask["price"], ask["size"], Pubkey.from_string(ask["maker"]),
ask["orderId"])`. -/
def l3Level (level : Json) : Option (L3Level Pubkey) :=
  (level.field? "price").bind fun price => (level.field? "size").bind fun size =>
    ((level.field? "maker").bind (pubkeyFromJson codec)).bind fun maker =>
      (level.field? "orderId").map fun orderId => ⟨price, size, maker, orderId⟩

/-- `decode_l3_orderbook` (lines 186-207) on the value `json.loads` made of the body. -/
def decodeL3Orderbook (data : Json) : Option (L3OrderBook Pubkey) :=
  (decodeLevels (l3Level codec) data "asks").bind fun asks =>
    (decodeLevels (l3Level codec) data "bids").map fun bids =>
      ⟨asks, bids, (data.field? "slot").getD .null⟩

/-- A side decodes only from a list, or from an empty text or dict, which gives no level:
the items of a text or a dict are texts, which `decode` refuses. -/
theorem decodeLevels_eq_some {α : Type} {decode : Json → Option α} (hdecode : ∀ s, decode (.str s) = none)
    {data : Json} {side : String} {levels : List α} (h : decodeLevels decode data side = some levels) :
    (∃ items, data.field? side = some (.array items)) ∨
      levels = [] ∧ (data.field? side = some (.str "") ∨ data.field? side = some (.object [])) := by
  obtain ⟨items, hitems, hlevels⟩ := Option.bind_eq_some.mp h
  obtain ⟨value, hvalue, hiter⟩ := Option.bind_eq_some.mp hitems
  rw [hvalue]
  cases value with
  | array items => exact .inl ⟨items, rfl⟩
  | object fields =>
      cases hiter
      cases fields with
      | nil => cases hlevels; exact .inr ⟨rfl, .inr rfl⟩
      | cons field fields => rw [List.map_cons, List.mapM_cons, hdecode] at hlevels; cases hlevels
  | str text =>
      cases hiter
      obtain ⟨_ | ⟨c, cs⟩⟩ := text
      · cases hlevels; exact .inr ⟨rfl, .inl rfl⟩
      · rw [List.map_cons, List.mapM_cons, hdecode] at hlevels; cases hlevels
  | _ => cases hiter

/-- A book whose asks are written as an empty text decodes with no ask. -/
theorem decodeLevels_eq_some_sample :
    (∀ s, l2Level (.str s) = none) ∧
      decodeLevels l2Level (.object [("asks", .str ""), ("bids", .array [])]) "asks" = some [] ∧
      ((∃ items, (Json.object [("asks", .str ""), ("bids", .array [])]).field? "asks" = some (.array items)) ∨
        ([] : List L2Level) = [] ∧
          ((Json.object [("asks", .str ""), ("bids", .array [])]).field? "asks" = some (.str "") ∨
            (Json.object [("asks", .str ""), ("bids", .array [])]).field? "asks" = some (.object []))) :=
  have hdecode : ∀ s, l2Level (.str s) = none := fun _ => rfl
  have h : decodeLevels l2Level (.object [("asks", .str ""), ("bids", .array [])]) "asks" = some [] := rfl
  ⟨hdecode, h, decodeLevels_eq_some hdecode h⟩

end DriftSubscriber.OrderBook

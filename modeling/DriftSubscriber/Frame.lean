import DriftSubscriber.Unicode

/-!
# Frames of the account-subscription protocol

`json.loads` turns a text frame into Python values, and the `FakeMsg` and
`FakeResult` classes of `_subscribe_ws` (lines 285-329) wrap them into the three
attributes the read loop reads: `result`, `id` and `subscription`.  This module
keeps the values as the subscriber observes them: what `int()` makes of them, how they
meet the `int` keys of `inflight_subscribes` and `subscription_map`, and when
`type('Context', (), d)()` makes an object of a notification's context.
-/

namespace DriftSubscriber

/-- A value produced by `json.loads`.  A float is kept as what the subscriber observes
of it: its integer part (`none` for an infinity or NaN, which `int()` refuses) and
whether it is a whole number, which decides whether it equals an `int` key.  An
object holds one entry per key, as the `dict` that `json.loads` builds. -/
inductive Json
  | null
  | bool (b : Bool)
  | int (n : Int)
  | float (truncated : Option Int) (whole : Bool)
  | str (s : String)
  | array (items : List Json)
  | object (fields : List (String × Json))

/-- `sys.get_int_max_str_digits()` as Python 3.11 starts: `int()` refuses a text of more
digits. -/
def intMaxStrDigits : Nat := 4300

/-- The digits of Python's `int(s)` after the sign, once in ASCII: digits with single
underscores between two of them, at most `intMaxStrDigits` of them. -/
def digitsValue? (ds : List Char) : Option Nat :=
  if (ds.filter (· != '_')).length ≤ intMaxStrDigits then run ds else none
where
  run : List Char → Option Nat
    | [] => none
    | c :: cs => if c.isDigit then go (c.toNat - '0'.toNat) cs else none
  go (acc : Nat) : List Char → Option Nat
    | [] => some acc
    | '_' :: c :: cs => if c.isDigit then go (acc * 10 + (c.toNat - '0'.toNat)) cs else none
    | c :: cs => if c.isDigit then go (acc * 10 + (c.toNat - '0'.toNat)) cs else none

/-- The text without the blanks `int()` skips at either end. -/
def stripBlanks (cs : List Char) : List Char :=
  ((cs.dropWhile isIntBlank).reverse.dropWhile isIntBlank).reverse

/-- Python's `int(s)` for a text (`PyLong_FromUnicodeObject`): each character goes to ASCII
(`transformDecimalAndSpace`), then blanks around an optional sign and the digits. -/
def intOfString? (s : String) : Option Int :=
  match stripBlanks (s.data.map transformDecimalAndSpace) with
  | '-' :: ds => (digitsValue? ds).map fun n => -(n : Int)
  | '+' :: ds => (digitsValue? ds).map Int.ofNat
  | ds => (digitsValue? ds).map Int.ofNat

/-- A form feed before `5` and the Arabic-Indic five both read as `5`; a doubled underscore
is refused. -/
example : intOfString? "\x0c5" = some 5 ∧ intOfString? "\u0665" = some 5 ∧
    intOfString? " -1_000 " = some (-1000) ∧ intOfString? "1__0" = none := by
  decide

namespace Json

/-- Python's `int(x)`; `none` when it raises. -/
def toInt? : Json → Option Int
  | .bool b => some (if b then 1 else 0)
  | .int n => some n
  | .float truncated _ => truncated
  | .str s => intOfString? s
  | _ => none

/-- How a value meets the `int` keys of a dictionary in `x in d`, `d[x]` and `d.pop(x)`. -/
inductive IntKey
  /-- equal to, and hashed like, the `int` key `n` -/
  | key (n : Int)
  /-- hashable and equal to no `int` -/
  | absent
  /-- a list or a dict: the lookup raises `TypeError` -/
  | unhashable

def intKey : Json → IntKey
  | .bool b => .key (if b then 1 else 0)
  | .int n => .key n
  | .float (some n) true => .key n
  | .array _ => .unhashable
  | .object _ => .unhashable
  | _ => .absent

/-- The field `name` of an object, as attribute access on `FakeResult.context` and `d[name]`
on a dict read it; `none` where they raise. -/
def field? : Json → String → Option Json
  | .object fields, name => fields.lookup name
  | _, _ => none

/-- An item of `__slots__` as `type()` takes it: a text, `none` for anything else, on which
it raises. -/
def str? : Json → Option String
  | .str s => some s
  | _ => none

end Json

/-- `d.get(name)` on a dict: `None` for a missing key. -/
def dictGet (fields : List (String × Json)) (name : String) : Json :=
  (fields.lookup name).getD .null

/-! ## The class `type('Context', (), d)` -/

/-- The names `type()` reads from `__slots__`: a text is one name, a list gives its items and
a dict its keys; `none` where it raises, on a value that is not iterable or an item that is
not a text. -/
def slotNames? : Json → Option (List String)
  | .str name => some [name]
  | .array items => items.mapM Json.str?
  | .object fields => some (fields.map Prod.fst)
  | _ => none

/-- `_Py_Mangle` in the class `Context`: a name with two leading underscores and not two
trailing ones is made private. -/
def mangle (name : String) : String :=
  if name.startsWith "__" && !name.endsWith "__" then "_Context" ++ name else name

/-- The slot names `type()` accepts for the dict `d`: identifiers, `__dict__` and
`__weakref__` at most once each, and no other name that, mangled, is a key of `d`, except
`__qualname__` and `__classcell__`, which `type()` takes out of the dict. -/
def slotsAccepted (d : List (String × Json)) (names : List String) : Bool :=
  names.all isIdentifier && decide (names.count "__dict__" ≤ 1) &&
    decide (names.count "__weakref__" ≤ 1) &&
    names.all fun name =>
      name == "__dict__" || name == "__weakref__" || mangle name == "__qualname__" ||
        mangle name == "__classcell__" || (d.lookup (mangle name)).isNone

/-- The slots of the class, none without `__slots__`. -/
def slotsOf (d : List (String × Json)) : List String :=
  ((d.lookup "__slots__").bind slotNames?).getD []

/-- Whether the class made from `d` has the attribute `name` of its own: a key of `d` or a
slot. -/
def hasOwnAttr (d : List (String × Json)) (name : String) : Bool :=
  (d.lookup name).isSome || (slotsOf d).contains name

/-- Whether `type('Context', (), d)()` (line 290) returns.  `type()` raises on a
`__classcell__`, on a `__qualname__` that is not a text, and on a `__slots__` it cannot read
or accept; the call then raises when `__init__` or `__new__` is an attribute of the class,
since no decoded value is callable and an unset slot has no value. -/
def makesContext (d : List (String × Json)) : Bool :=
  (d.lookup "__classcell__").isNone &&
    (match d.lookup "__qualname__" with
     | some (.str _) | none => true
     | some _ => false) &&
    (match d.lookup "__slots__" with
     | none => true
     | some slots => (slotNames? slots).any (slotsAccepted d)) &&
    !hasOwnAttr d "__init__" && !hasOwnAttr d "__new__"

/-- The instance `type('Context', (), d)()` that `FakeResult` builds (line 290), kept as the
dict `d`, which it was made from. -/
structure Context where
  dict : List (String × Json)
  makesContext_dict : makesContext dict = true

/-- The context of a notification as the Solana pubsub API sends it: the one key `slot`. -/
def Context.ofSlot (n : Int) : Context := ⟨[("slot", .int n)], rfl⟩

/-- `result.context.slot` (lines 440 and 453): the value of the key `slot`; `none` where the
read raises, when there is no such key or when `__getattribute__` is an attribute of the
class, which the read calls. -/
def Context.slot (context : Context) : Option Json :=
  if hasOwnAttr context.dict "__getattribute__" then none else context.dict.lookup "slot"

/-- The account data handed to the decoders: the bytes of `base64.b64decode` (lines
294-300), or the `data` field itself when it is neither a list nor a string (line 302). -/
inductive Payload
  | bytes (b : List UInt8)
  | raw (value : Json)

/-- What the read loop tests of `msg[0].result`. -/
inductive MsgResult
  /-- an `int` (a `bool` included): the result of a subscription confirmation -/
  | int (n : Int)
  /-- a `FakeResult` built from an object: its `context` and the data of its `value` -/
  | account (context : Context) (data : Payload)
  /-- anything whose `value` is missing or `None` -/
  | other

/-- The `FakeMsg` the read loop handles: `result`, `id = data.get("id")`, and
`subscription`, which is `none` when `FakeMsg` sets no such attribute. -/
structure Msg where
  result : MsgResult
  id : Json
  subscription : Option Json

end DriftSubscriber

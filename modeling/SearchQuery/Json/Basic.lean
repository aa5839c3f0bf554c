import SearchQuery.Dictionary
import SearchQuery.Decimal.Binary64
import SearchQuery.Word

/-!
# JSON values

A number is a whole number or a binary floating-point number, and the two are never mixed up: `1`
and `1.0` are different values.  An object is a list of members.  `Json.object` builds it in the
order of the names with one member a name, and so does the reader of JSON text; only the text of a
record is made from members in another order.
-/

namespace SearchQuery

inductive Number where
  | integer (value : Int)
  | float (value : Float)
  deriving DecidableEq

inductive Json where
  | null
  | boolean (value : Bool)
  | number (value : Number)
  | string (value : String)
  | array (items : List Json)
  | object (members : List (String × Json))
  deriving Inhabited

namespace Json

/-- The object with these members, in the order of their names.  Of several members with one name
the last stays. -/
def ofMembers (members : List (String × Json)) : Json :=
  .object (Entries.ofList members)

def ofDictionary (d : Dictionary Json) : Json :=
  .object d.entries

def ofInt (n : Int) : Json :=
  .number (.integer n)

def ofWord (n : UInt64) : Json :=
  .number (.integer n.toNat)

/-- A floating-point number.  JSON has no infinities and no value that is no number: they are
`null`. -/
def ofFloat (x : Float) : Json :=
  match Decimal.Binary64.ofFloat x with
  | .finite .. => .number (.float x)
  | _ => .null

def ofStrings (texts : List String) : Json :=
  .array (texts.map .string)

def ofOption {α : Type} (f : α → Json) : Option α → Json
  | none => .null
  | some a => f a

def member? (name : String) : Json → Option Json
  | .object members => Entries.find? name members
  | _ => none

def isNull : Json → Bool
  | .null => true
  | _ => false

def asString? : Json → Option String
  | .string s => some s
  | _ => none

def asBoolean? : Json → Option Bool
  | .boolean b => some b
  | _ => none

def asArray? : Json → Option (List Json)
  | .array items => some items
  | _ => none

def asWord? : Json → Option UInt64
  | .number (.integer n) => word? n
  | _ => none

def asInt64? : Json → Option Int64
  | .number (.integer n) => signedWord? n
  | _ => none

def asFloat? : Json → Option Float
  | .number (.integer n) => some (Float.ofInt n)
  | .number (.float x) => some x
  | _ => none

end Json

end SearchQuery

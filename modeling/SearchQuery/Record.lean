import SearchQuery.Json.Printer
import SearchQuery.Query
import SearchQuery.Text.Separated
import SearchQuery.Timestamp

/-!
# Records

A record declares in a `Schema` where it is found and how its attributes are filled; `Record` is
what a type of records has to offer.
-/

namespace SearchQuery

inductive Cast where
  | boolean
  | dateTime
  | other
  deriving DecidableEq, Repr

def Text.holds (part : List Char) : List Char → Bool
  | [] => part.isEmpty
  | c :: rest => part.isPrefixOf (c :: rest) || holds part rest

namespace Cast

/-- The cast of that name.  A date and time may be declared with a format behind the name. -/
def ofName (declared : String) : Cast :=
  let name := Text.asciiLowercase (Text.trim declared)
  if Text.holds "datetime".toList name.toList then .dateTime
  else if name == "boolean" || name == "bool" then .boolean
  else .other

def name : Cast → String
  | .boolean => "Boolean"
  | .dateTime => "DateTime"
  | .other => "Other"

end Cast

inductive AttributeValue where
  | json (value : Json)
  | timestamp (value : Timestamp)

/-- Whether the value says nothing: `null`, or a text of blank space. -/
def Json.isBlank : Json → Bool
  | .null => true
  | .string s => Text.isBlankText s
  | _ => false

namespace AttributeValue

def isBlank : AttributeValue → Bool
  | .json v => v.isBlank
  | .timestamp _ => false

def toJson : AttributeValue → Json
  | .json v => v
  | .timestamp t => .string t.withOffset

/-- The value as a member of a record. -/
def inRecord : AttributeValue → Json
  | .json v => v
  | .timestamp t => .string t.withZone

end AttributeValue

structure Schema where
  indexes : List String := []
  primaryKey : String := "id"
  fillable : List String := []
  overrides : List (String × String) := []
  casts : List (String × Cast) := []
  deriving DecidableEq, Repr, Inhabited

structure Normalized where
  attributes : Dictionary AttributeValue := .empty
  highlight : Option Json := none
  deriving Inhabited

class Record (α : Type) where
  schema : α → Schema
  /-- Takes over the attributes and the highlight of a hit. -/
  fill : α → Normalized → α
  setPersisted : Bool → α → α
  /-- The members of the record in the order of its text. -/
  members : α → List (String × Json)

/-- How relations are loaded for records.  It is not asked without relations or without records. -/
class Related (κ α : Type) where
  loadRelations : α → List (EagerLoad κ) → List α → Except Error (List α) :=
    fun _ _ records => .ok records

namespace Record

variable {α : Type} [Record α]

/-- The record as a JSON value.  Of two members with one name the later stays. -/
def toJson (r : α) : Json :=
  .ofMembers (members r)

def inOrder (r : α) : Json :=
  .object (members r)

end Record

end SearchQuery

import SearchQuery.Json.Basic

/-!
# Values with fixed members

The stored form of a value with a fixed list of fields is an object, in which other members are
ignored, or an array of the fields in their order.  `fields?` finds the stored value of each field
in either form; a field may be left out where that has a meaning.  A choice without content is
stored as its name, or as an object that holds `null` under the name.
-/

namespace SearchQuery.Json

/-- Where a field may be left out. -/
inductive Presence where
  | required
  /-- It may be left out of an object. -/
  | optional
  /-- It may be left out of an object, and of the end of an array. -/
  | defaulted
  deriving DecidableEq, Repr

/-- The fields of an array in their order.  There are no more items than fields. -/
def positional? : List Presence → List Json → Option (List (Option Json))
  | [], [] => some []
  | [], _ :: _ => none
  | presence :: rest, [] =>
    if presence = .defaulted then (positional? rest []).map (none :: ·) else none
  | _ :: rest, v :: items => (positional? rest items).map (some v :: ·)

def named? (members : List (String × Json)) :
    List (String × Presence) → Option (List (Option Json))
  | [] => some []
  | (name, presence) :: rest =>
    match Entries.find? name members with
    | some v => (named? members rest).map (some v :: ·)
    | none => if presence = .required then none else (named? members rest).map (none :: ·)

/-- The stored value of each field, `none` for a field that is left out. -/
def fields? (fields : List (String × Presence)) : Json → Option (List (Option Json))
  | .object members => named? members fields
  | .array items => positional? (fields.map (·.2)) items
  | _ => none

/-- The name of a choice without content. -/
def choice? : Json → Option String
  | .string name => some name
  | .object [(name, .null)] => some name
  | _ => none

/-- A field that may be left out, and then has a value of its own. -/
def orDefault {α : Type} (default : α) (read : Json → Option α) : Option Json → Option α
  | none => some default
  | some v => read v

/-- A field that may be left out or `null`, which mean the same. -/
def nullable {α : Type} (read : Json → Option α) : Option Json → Option (Option α)
  | none => some none
  | some .null => some none
  | some v => (read v).map some

def listOf? {α : Type} (read : Json → Option α) : Json → Option (List α)
  | .array items => items.mapM read
  | _ => none

def dictionaryOf? {α : Type} (read : Json → Option α) : Json → Option (Dictionary α)
  | .object members =>
    (members.mapM fun m => (read m.2).map fun a => (m.1, a)).map Dictionary.ofList
  | _ => none

end SearchQuery.Json

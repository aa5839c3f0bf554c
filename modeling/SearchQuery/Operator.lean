import SearchQuery.Text.Blank

/-!
# Operators

The comparisons by which a field is tested, and the bounds of ranges among them.
-/

namespace SearchQuery

inductive Bound where
  | above
  | atLeast
  | below
  | atMost
  deriving DecidableEq, Repr

namespace Bound

def key : Bound → String
  | .above => "gt"
  | .atLeast => "gte"
  | .below => "lt"
  | .atMost => "lte"

def ofKey? : String → Option Bound
  | "gt" => some .above
  | "gte" => some .atLeast
  | "lt" => some .below
  | "lte" => some .atMost
  | _ => none

/-- The bound that holds exactly where this one does not. -/
def complement : Bound → Bound
  | .above => .atMost
  | .atLeast => .below
  | .below => .atLeast
  | .atMost => .above

def sign : Bound → String
  | .above => ">"
  | .atLeast => ">="
  | .below => "<"
  | .atMost => "<="

def name : Bound → String
  | .above => "Gt"
  | .atLeast => "Gte"
  | .below => "Lt"
  | .atMost => "Lte"

theorem ofKey?_key (b : Bound) : ofKey? b.key = some b := by
  cases b <;> rfl

end Bound

inductive Operator where
  | equal
  | notEqual
  | bound (bound : Bound)
  | among
  | notAmong
  | between
  | near
  deriving DecidableEq, Repr

namespace Operator

def all : List Operator :=
  [.equal, .notEqual, .bound .above, .bound .atLeast, .bound .below, .bound .atMost, .among,
    .notAmong, .between, .near]

def name : Operator → String
  | .equal => "Eq"
  | .notEqual => "Neq"
  | .bound b => b.name
  | .among => "In"
  | .notAmong => "NotIn"
  | .between => "Between"
  | .near => "GeoDistance"

def ofName? (name : String) : Option Operator :=
  all.find? fun op => op.name == name

def ofSign? (sign : String) : Option Operator :=
  match Text.trim sign with
  | "=" | "==" => some .equal
  | "!=" | "<>" => some .notEqual
  | ">" => some (.bound .above)
  | ">=" => some (.bound .atLeast)
  | "<" => some (.bound .below)
  | "<=" => some (.bound .atMost)
  | _ => none

/-- The bound that the operator sets, if it is one of the four that set one. -/
def bound? : Operator → Option Bound
  | .bound b => some b
  | _ => none

end Operator

end SearchQuery

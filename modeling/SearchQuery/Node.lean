import SearchQuery.FullText
import SearchQuery.Predicate

/-!
# Query trees

The conditions of a search body.  A group holds where all its `must` members do, some of its
`should` members does unless there are none, and none of its `mustNot` members does.
-/

namespace SearchQuery

/-- Three lists of conditions: those that must hold, those of which one should, and those that must
not. -/
structure Clauses (α : Type) where
  must : List α := []
  should : List α := []
  mustNot : List α := []
  deriving DecidableEq

def Clauses.isEmpty {α : Type} (c : Clauses α) : Bool :=
  c.must.isEmpty && c.should.isEmpty && c.mustNot.isEmpty

inductive Node where
  | equals (field : String) (value : Scalar)
  | among (field : String) (values : List Scalar)
  | range (field : String) (bounds : List (Bound × Scalar))
  | near (place : Vicinity)
  | fullText (clause : FullText)
  | group (must should mustNot : List Node)

namespace Node

def ofOperand (field : String) : Operand → Node
  | .scalar v => .equals field v
  | .list vs => .among field vs
  | .range bounds => .range field bounds
  | .vicinity place => .near place

/-- The condition for an operator and an operand of any shape: an operator that names no bound gets
`fallback`, and a pair of which no condition is known gets `other`. -/
def ofParts (fallback : Bound) (other : Operator → Operand → Node) (field : String) (op : Operator)
    (operand : Operand) : Node :=
  match op, operand with
  | .equal, .scalar v => .equals field v
  | .bound b, .scalar v => .range field [((Operator.bound b).bound?.getD fallback, v)]
  | .among, .list vs => .among field vs
  | .between, .range bounds => .range field bounds
  | .near, .vicinity place => .near place
  | op, operand => other op operand

/-- The positive condition of a predicate.  Its negation is left to where the node is put.  Neither
the lower bound nor the operand alone is ever needed, since predicates have pairs that fit. -/
def ofPredicate (p : Predicate) : Node :=
  ofParts .atLeast (fun _ => ofOperand p.field) p.field p.operator p.operand

theorem ofPredicate_eq (p : Predicate) :
    ofPredicate p = match p.criterion with
      | .equals v => .equals p.field v
      | .bounded b v => .range p.field [(b, v)]
      | .among vs => .among p.field vs
      | .between first second => .range p.field [first, second]
      | .near place => .near place := by
  rw [ofPredicate, Predicate.operator, Predicate.operand]
  cases p.criterion <;> rfl

def wrapped (name field : String) (value : Json) : Json :=
  .object [(name, .object [(field, value)])]

/-- The bounds of a range under their names.  Of two bounds with one name the later stays. -/
def boundsJson (bounds : List (Bound × Scalar)) : Json :=
  .ofMembers (bounds.map fun b => (b.1.key, b.2.toJson))

def groupJson (must should mustNot : List Json) : Json :=
  .ofMembers ([("must", must), ("should", should), ("must_not", mustNot)].filterMap
    fun (name, nodes) => if nodes.isEmpty then none else some (name, .array nodes))

def vicinityJson (v : Vicinity) : Json :=
  .object [("geo_distance", .ofMembers [
    ("location_anchor", .object [("lat", .ofFloat v.latitude), ("lon", .ofFloat v.longitude)]),
    ("location_source", .string v.source),
    ("distance_type", .string "adaptive"),
    ("distance", .string (Decimal.plain.text v.distance ++ " m"))])]

mutual

def toJson : Node → Json
  | .equals field v => wrapped "equals" field v.toJson
  | .among field vs => wrapped "in" field (.array (vs.map Scalar.toJson))
  | .range field bs => wrapped "range" field (boundsJson bs)
  | .near place => vicinityJson place
  | .fullText clause => wrapped "match" clause.field (.string clause.keywords)
  | .group must should mustNot =>
    .object [("bool", groupJson (listJson must) (listJson should) (listJson mustNot))]

def listJson : List Node → List Json
  | [] => []
  | n :: rest => n.toJson :: listJson rest

end

end Node

def Clauses.toJson (c : Clauses Node) : Json :=
  Node.groupJson (Node.listJson c.must) (Node.listJson c.should) (Node.listJson c.mustNot)

end SearchQuery

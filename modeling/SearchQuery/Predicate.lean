import SearchQuery.Error
import SearchQuery.Text.Separated

/-!
# Predicates

A predicate tests one field.  What it asks is a `Criterion`, which has an operand of the right shape
for each operator, and the opposite question is a flag: `!=` is a negated `=`, and `NOT IN` a
negated `IN`.  The field of a predicate has a name.

`Predicate.make` checks an operator and an operand of any shape; the other constructors go through
it.
-/

namespace SearchQuery

/-- What a predicate asks of its field. -/
inductive Criterion where
  | equals (value : Scalar)
  | bounded (bound : Bound) (value : Scalar)
  | among (values : List Scalar)
  | between (first second : Bound × Scalar)
  | near (place : Vicinity)
  deriving DecidableEq

namespace Criterion

def operator : Criterion → Operator
  | .equals _ => .equal
  | .bounded b _ => .bound b
  | .among _ => .among
  | .between _ _ => .between
  | .near _ => .near

def operand : Criterion → Operand
  | .equals v => .scalar v
  | .bounded _ v => .scalar v
  | .among vs => .list vs
  | .between first second => .range [first, second]
  | .near place => .vicinity place

/-- The question that an operator asks about an operand, and whether its answer is turned round. -/
def of (op : Operator) (operand : Operand) : Except OperandFault (Criterion × Bool) :=
  match op, operand with
  | .equal, .scalar v => .ok (.equals v, false)
  | .notEqual, .scalar v => .ok (.equals v, true)
  | .bound b, .scalar v => .ok (.bounded b v, false)
  | .among, .list vs => .ok (.among vs, false)
  | .notAmong, .list vs => .ok (.among vs, true)
  | .between, .range [first, second] => .ok (.between first second, false)
  | .between, .range _ => .error .boundCount
  | .near, .vicinity place => .ok (.near place, false)
  | .notEqual, operand => .error (.mismatch .equal operand)
  | .notAmong, operand => .error (.mismatch .among operand)
  | op, operand => .error (.mismatch op operand)

end Criterion

structure Predicate where
  field : String
  criterion : Criterion
  negated : Bool
  named : Text.isBlankText field = false

namespace Predicate

def operator (p : Predicate) : Operator :=
  p.criterion.operator

def operand (p : Predicate) : Operand :=
  p.criterion.operand

def negate (p : Predicate) : Predicate :=
  { p with negated := !p.negated }

/-- The predicate that tests a field by an operator and an operand.  A field without a name is
refused before anything else. -/
def make (field : String) (op : Operator) (operand : Operand) : Except Error Predicate :=
  if named : Text.isBlankText field = false then
    match Criterion.of op operand with
    | .ok (criterion, negated) => .ok { field, criterion, negated, named }
    | .error fault => .error (.invalidOperand field fault)
  else .error (.invalidOperand field .unnamedField)

def compare (field sign : String) (value : Scalar) : Except Error Predicate :=
  match Operator.ofSign? sign with
  | some op => make field op (.scalar value)
  | none => .error (.unsupportedOperator sign)

def isIn (field : String) (values : List Scalar) : Except Error Predicate :=
  make field .among (.list values)

def between (field : String) (low high : Scalar) : Except Error Predicate :=
  make field .between (.range [(.atLeast, low), (.atMost, high)])

end Predicate

namespace Vicinity

/-- The two fields that a source names: two parts with a comma between them. -/
def fieldsOf? (source : String) : Option (String × String) :=
  match (Text.separated ',' source).map Text.trim with
  | [latitude, longitude] =>
    if latitude.isEmpty || longitude.isEmpty then none else some (latitude, longitude)
  | _ => none

/-- The vicinity of a point on the earth, at a distance that is a number and not negative. -/
def make (source : String) (latitude longitude distance : Float) : Except Error Vicinity :=
  match fieldsOf? source with
  | none => .error (.invalidOperand source .sourceFields)
  | some (latitudeField, longitudeField) =>
    if !(-90.0 ≤ latitude && latitude ≤ 90.0 && -180.0 ≤ longitude && longitude ≤ 180.0) then
      .error (.invalidOperand source .anchorOutOfRange)
    else if !distance.isFinite || distance < 0.0 then
      .error (.invalidOperand source .badDistance)
    else .ok { latitudeField, longitudeField, latitude, longitude, distance }

end Vicinity

/-- The point in the two fields of the source is nearer to the anchor than the distance. -/
def Predicate.near (source : String) (latitude longitude distance : Float) :
    Except Error Predicate := do
  let place ← Vicinity.make source latitude longitude distance
  make source .near (.vicinity place)

end SearchQuery

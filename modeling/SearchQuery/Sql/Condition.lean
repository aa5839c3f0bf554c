import SearchQuery.Node
import SearchQuery.Sql.Literal

/-!
# Conditions of a statement

A `Condition` is what stands behind `WHERE`, before it becomes text: tests on fields joined by `AND`
and `OR`, with the parentheses that the text has.  A query tree becomes a condition in either
polarity (`Node.condition`), and a negated test is a test of the complement rather than a `NOT`, as
far as there is one.

`Condition.holds` says what a condition means once it is known which tests hold.
-/

namespace SearchQuery.Sql

/-- A test on a document, in its positive form. -/
inductive Test where
  | equals (field : String) (value : Scalar)
  | bounded (field : String) (bound : Bound) (value : Scalar)
  | among (field : String) (values : List Scalar)
  | near (place : Vicinity)
  | fullText (clause : FullText)
  deriving DecidableEq

/-- The keywords that a document has to match, behind the field they are looked for in. -/
def fullTextCall (clause : FullText) : String :=
  "MATCH('@" ++ escape clause.field ++ " " ++ escape clause.keywords ++ "')"

def distanceCall (place : Vicinity) : String :=
  "GEODIST(" ++ commaSeparated [
    identifier place.latitudeField, identifier place.longitudeField,
    Decimal.plain.text place.latitude, Decimal.plain.text place.longitude,
    "\x7bin=degrees, out=meters\x7d"] ++ ")"

/-- The text of a test, or of the test that holds exactly where it does not. -/
def Test.text (negated : Bool) : Test → String
  | .equals field v => identifier field ++ (if negated then " <> " else " = ") ++ literal v
  | .bounded field b v =>
    let sign := if negated then b.complement.sign else b.sign
    identifier field ++ " " ++ sign ++ " " ++ literal v
  | .among field vs =>
    identifier field ++ (if negated then " NOT IN (" else " IN (")
      ++ commaSeparated (vs.map literal) ++ ")"
  | .near place =>
    distanceCall place ++ (if negated then " >= " else " < ") ++ Decimal.plain.text place.distance
  | .fullText clause => if negated then "NOT " ++ fullTextCall clause else fullTextCall clause

inductive Condition where
  /-- A condition that always or never holds. -/
  | constant (value : Bool)
  | test (negated : Bool) (test : Test)
  | all (conditions : List Condition)
  | any (conditions : List Condition)
  | parens (condition : Condition)
  | not (condition : Condition)

namespace Condition

mutual

def text : Condition → String
  | .constant b => if b then "1 = 1" else "1 = 0"
  | .test negated t => t.text negated
  | .all cs => String.intercalate " AND " (texts cs)
  | .any cs => String.intercalate " OR " (texts cs)
  | .parens c => "(" ++ c.text ++ ")"
  | .not c => "NOT " ++ c.text

def texts : List Condition → List String
  | [] => []
  | c :: rest => c.text :: texts rest

end

mutual

def holds (w : Test → Bool) : Condition → Bool
  | .constant b => b
  | .test negated t => w t != negated
  | .all cs => allHold w cs
  | .any cs => anyHolds w cs
  | .parens c => c.holds w
  | .not c => !c.holds w

def allHold (w : Test → Bool) : List Condition → Bool
  | [] => true
  | c :: rest => c.holds w && allHold w rest

def anyHolds (w : Test → Bool) : List Condition → Bool
  | [] => false
  | c :: rest => c.holds w || anyHolds w rest

end

/-- The condition of a group: its full-text tests, the conditions that must hold, those of which one
should, and those that must not, which come already negated.  A group without any has none. -/
def join (matching must should mustNot : List Condition) : Option Condition :=
  let grouped := fun (joined : List Condition → Condition) (cs : List Condition) =>
    if cs.isEmpty then [] else [Condition.parens (joined cs)]
  let mustNot := if mustNot.isEmpty then [] else [Condition.all mustNot]
  match matching ++ grouped .all must ++ grouped .any should ++ mustNot with
  | [] => none
  | cs => some (.all cs)

/-- The condition that a value is within bounds, or, negated, that it is outside one of them. -/
def ofRange (negated : Bool) (field : String) (bounds : List (Bound × Scalar)) : Condition :=
  match bounds.map fun b => Condition.test negated (.bounded field b.1 b.2) with
  | [] => .constant !negated
  | [c] => c
  | cs => if negated then .parens (.any cs) else .all cs

/-- The condition of a group within another, or its negation.  A group without members always
holds. -/
def ofGroup (negated : Bool) : Option Condition → Condition
  | none => .constant !negated
  | some body => if negated then .not (.parens body) else .parens body

end Condition

end SearchQuery.Sql

namespace SearchQuery

namespace Node

mutual

/-- The condition that the node puts on documents, or its negation. -/
def condition (negated : Bool) : Node → Sql.Condition
  | .equals field v => .test negated (.equals field v)
  | .among field vs =>
    if vs.isEmpty then .constant negated else .test negated (.among field vs)
  | .range field bs => .ofRange negated field bs
  | .near place => .test negated (.near place)
  | .fullText clause => .test negated (.fullText clause)
  | .group must should mustNot =>
    .ofGroup negated
      (Sql.Condition.join [] (conditions false must) (conditions false should)
        (conditions true mustNot))

def conditions (negated : Bool) : List Node → List Sql.Condition
  | [] => []
  | n :: rest => n.condition negated :: conditions negated rest

end

end Node

def Predicate.condition (negated : Bool) (p : Predicate) : Sql.Condition :=
  (Node.ofPredicate p).condition (negated != p.negated)

def Clauses.condition (c : Clauses Node) : Option Sql.Condition :=
  Sql.Condition.join [] (c.must.map (Node.condition false)) (c.should.map (Node.condition false))
    (c.mustNot.map (Node.condition true))

def Clauses.whereCondition (matching : List FullText) (c : Clauses Predicate) :
    Option Sql.Condition :=
  Sql.Condition.join (matching.map fun m => .test false (.fullText m))
    (c.must.map (Predicate.condition false)) (c.should.map (Predicate.condition false))
    (c.mustNot.map (Predicate.condition true))

def Sql.conditionText : Option Sql.Condition → String
  | none => ""
  | some c => c.text

end SearchQuery

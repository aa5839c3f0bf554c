import SearchQuery.Decimal.Notation
import SearchQuery.Decimal.Reading
import SearchQuery.Json.Basic
import SearchQuery.Text.Quoted

/-!
# Scalars

The values that a field is compared with.
-/

namespace SearchQuery

inductive Scalar where
  | boolean (value : Bool)
  | integer (value : Int64)
  | float (value : Float)
  | text (value : String)
  deriving DecidableEq

namespace Scalar

/-- Whether the value stands in a statement without quotes: truth values and whole numbers do, so do
finite numbers, and so does a text that is a numeral. -/
def isNumeric : Scalar → Bool
  | .boolean _ => true
  | .integer _ => true
  | .float x => x.isFinite
  | .text s => Decimal.isNumeral s

def kind : Scalar → String
  | .boolean _ => "Boolean"
  | .integer _ => "Integer"
  | .float _ => "Float"
  | .text _ => "Text"

def toJson : Scalar → Json
  | .boolean b => .boolean b
  | .integer n => .ofInt n.toInt
  | .float x => .ofFloat x
  | .text s => .string s

/-- Reads a scalar: a truth value, a number or a string.  A whole number that does not fit 64 bits
with sign becomes a floating-point number. -/
def ofJson? : Json → Option Scalar
  | .boolean b => some (.boolean b)
  | .string s => some (.text s)
  | v =>
    match v.asInt64? with
    | some n => some (.integer n)
    | none => v.asFloat?.map .float

def shown (v : Scalar) : String :=
  let content := match v with
    | .boolean b => if b then "true" else "false"
    | .integer n => toString n.toInt
    | .float x => Decimal.shown.text x
    | .text s => Text.quoted s
  v.kind ++ "(" ++ content ++ ")"

end Scalar

end SearchQuery

import SearchQuery.Operator
import SearchQuery.Scalar
import SearchQuery.Vicinity

/-!
# Operands

What a caller hands to an operator.
-/

namespace SearchQuery

inductive Operand where
  | scalar (value : Scalar)
  | list (values : List Scalar)
  | range (bounds : List (Bound × Scalar))
  | vicinity (place : Vicinity)
  deriving DecidableEq

def Operand.shown : Operand → String
  | .scalar v => "Scalar(" ++ v.shown ++ ")"
  | .list vs => "List([" ++ String.intercalate ", " (vs.map Scalar.shown) ++ "])"
  | .range bs =>
    let pair := fun (b : Bound × Scalar) => "(" ++ b.1.name ++ ", " ++ b.2.shown ++ ")"
    "Range([" ++ String.intercalate ", " (bs.map pair) ++ "])"
  | .vicinity v => "Geo(" ++ v.shown ++ ")"

end SearchQuery

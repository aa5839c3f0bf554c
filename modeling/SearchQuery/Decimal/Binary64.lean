/-!
# Binary floating-point numbers taken apart

A `Float` as sign, mantissa and exponent, so that its decimal text can be found with whole numbers.
-/

namespace SearchQuery.Decimal

/-- What the 64 bits of a number stand for: `± mantissa · 2 ^ exponent`, or one of the values that
are no number. -/
inductive Binary64 where
  | notANumber
  | infinite (negative : Bool)
  | finite (negative : Bool) (mantissa : Nat) (exponent : Int)
  deriving DecidableEq, Repr

def Binary64.fractions : Nat := 4503599627370496

/-- Splits the bits into sign, exponent field and fraction field. -/
def Binary64.ofFloat (x : Float) : Binary64 :=
  let bits := x.toBits.toNat
  let negative := bits / (2048 * fractions) == 1
  let field : Nat := bits / fractions % 2048
  let fraction : Nat := bits % fractions
  if field == 2047 then
    if fraction == 0 then .infinite negative else .notANumber
  else if field == 0 then .finite negative fraction (-1074)
  else .finite negative (fraction + fractions) ((field : Int) - 1075)

end SearchQuery.Decimal

import SearchQuery.Decimal.Binary64

/-!
# The fewest digits that read back

`shortest` finds, for a positive `mantissa · 2 ^ exponent`, the decimal with the fewest digits among
those that round to it, and of these the nearest.  It tries the grids of 1, 2, … 17 digits and tests
the two neighbours of the value on each, in whole numbers throughout.
-/

namespace SearchQuery.Decimal

inductive Tie where
  | toEven
  | up
  deriving DecidableEq, Repr

/-- The number `0.d₁d₂… · 10 ^ point`. -/
structure Digits where
  digits : List Char
  point : Int
  deriving DecidableEq, Repr

def digitCount (n : Nat) : Nat :=
  (Nat.toDigits 10 n).length

/-- The value and the two ends of the interval of reals that round to it, as numerators over one
denominator.  The ends belong to the interval when the mantissa is even. -/
structure Rounding where
  value : Nat
  low : Nat
  high : Nat
  denominator : Nat
  closed : Bool

/-- The half way marks towards the neighbours; below a power of two the neighbour is half as far. -/
def Rounding.of (mantissa : Nat) (exponent : Int) : Rounding :=
  let scale := 1 <<< (exponent - 2).toNat
  let below := if mantissa == Binary64.fractions && exponent > -1074 then 1 else 2
  { value := 4 * mantissa * scale
    low := (4 * mantissa - below) * scale
    high := (4 * mantissa + 2) * scale
    denominator := 1 <<< (2 - exponent).toNat
    closed := mantissa % 2 == 0 }

/-- The `point` of the value: the power of ten that it is below, and not below the one before. -/
def Rounding.point (r : Rounding) : Int :=
  let guess : Int := digitCount r.value - digitCount r.denominator
  if r.value * Nat.pow 10 (-guess).toNat < r.denominator * Nat.pow 10 guess.toNat then guess
  else guess + 1

/-- Whether `n / scale` rounds to the value, where the interval is multiplied by `up`. -/
def Rounding.holds (r : Rounding) (n up down : Nat) : Bool :=
  if r.closed then r.low * up ≤ n * down && n * down ≤ r.high * up
  else r.low * up < n * down && n * down < r.high * up

/-- The nearest decimal of `size` digits that rounds to the value, if there is one. -/
def Rounding.onGrid (r : Rounding) (tie : Tie) (size : Nat) : Option Nat :=
  let shift : Int := size - r.point
  let up := Nat.pow 10 shift.toNat
  let down := r.denominator * Nat.pow 10 (-shift).toNat
  let lower := r.value * up / down
  let upper := lower + 1
  match r.holds lower up down, r.holds upper up down with
  | false, false => none
  | true, false => some lower
  | false, true => some upper
  | true, true =>
    let toLower := r.value * up - lower * down
    let toUpper := upper * down - r.value * up
    if toLower < toUpper then some lower
    else if toUpper < toLower then some upper
    else match tie with
      | .toEven => some (if lower % 2 == 0 then lower else upper)
      | .up => some upper

/-- The digits of `n` on a grid of `size` digits, without the zeros at their end.  One digit more
than the grid has moves the point. -/
def Digits.ofGrid (n size : Nat) (point : Int) : Digits :=
  let ds := Nat.toDigits 10 n
  { digits := (ds.reverse.dropWhile (· == '0')).reverse
    point := point + (ds.length - size : Int) }

/-- The fewest digits that read back as `mantissa · 2 ^ exponent`, a positive number. -/
def shortest (tie : Tie) (mantissa : Nat) (exponent : Int) : Digits :=
  let r := Rounding.of mantissa exponent
  let found := (List.range 17).findSome? fun i =>
    (r.onGrid tie (i + 1)).map fun n => Digits.ofGrid n (i + 1) r.point
  found.getD { digits := ['0'], point := 1 }

end SearchQuery.Decimal

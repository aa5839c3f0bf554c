import SearchQuery.Text.Blank

/-!
# Reading numbers

The grammar of numerals, `[+-]? (digits [. digits*] | . digits) ([eE] [+-]? digits)?`, and the
number that a numeral stands for.  `readFloat?` rounds exactly; `scaled?` is the quicker rule of
JSON bodies, which scales a 64-bit significand by one power of ten.
-/

namespace SearchQuery.Decimal

def digitsValue (ds : List Char) : Nat :=
  ds.foldl (fun n d => 10 * n + (d.toNat - '0'.toNat)) 0

/-- A sign at the front, if there is one, and the rest: `true` stands for minus. -/
def takeSign : List Char → Bool × List Char
  | '+' :: rest => (false, rest)
  | '-' :: rest => (true, rest)
  | rest => (false, rest)

structure Numeral where
  negative : Bool
  whole : List Char
  fraction : List Char
  exponent : Int
  deriving DecidableEq, Repr

def readExponent? : List Char → Option Int
  | [] => some 0
  | c :: rest =>
    if c == 'e' || c == 'E' then
      let (negative, digits) := takeSign rest
      if !digits.isEmpty && digits.all Char.isDigit then
        some (if negative then -digitsValue digits else digitsValue digits)
      else none
    else none

def takeFraction : List Char → List Char × List Char
  | '.' :: rest => rest.span Char.isDigit
  | rest => ([], rest)

def readNumeral? (cs : List Char) : Option Numeral :=
  let (negative, unsigned) := takeSign cs
  let (whole, afterWhole) := unsigned.span Char.isDigit
  let (fraction, afterFraction) := takeFraction afterWhole
  if whole.isEmpty && fraction.isEmpty then none
  else (readExponent? afterFraction).map fun exponent => { negative, whole, fraction, exponent }

def isNumeral (text : String) : Bool :=
  (readNumeral? text.toList).isSome

/-- The nearest number.  The powers of ten that lie beyond all numbers are not computed. -/
def Numeral.toFloat (n : Numeral) : Float :=
  let significand := digitsValue (n.whole ++ n.fraction)
  let exponent := n.exponent - n.fraction.length
  let size := exponent + (Nat.toDigits 10 significand).length
  let magnitude :=
    if significand == 0 || size < -400 then 0.0
    else if size > 400 then Float.ofScientific 1 false 400
    else if exponent < 0 then Float.ofScientific significand true (-exponent).toNat
    else Float.ofScientific significand false exponent.toNat
  if n.negative then -magnitude else magnitude

/-- Reads a number: a numeral, or a signed `inf`, `infinity` or `nan` in any case. -/
def readFloat? (text : String) : Option Float :=
  match readNumeral? text.toList with
  | some n => some n.toFloat
  | none =>
    let (negative, name) := takeSign text.toList
    let magnitude := match String.ofList (name.map Char.toLower) with
      | "inf" | "infinity" => some (1.0 / 0.0)
      | "nan" => some (0.0 / 0.0)
      | _ => none
    magnitude.map fun x => if negative then -x else x

def powerOfTen (n : Nat) : Float :=
  Float.ofScientific 1 false n

/-- Scales a number by a power of ten, in two steps where one power would be too small to divide by.
There is no answer when the result is too large. -/
def scaled? (significand : UInt64) (exponent : Int) : Option Float :=
  let x := significand.toFloat
  if exponent ≥ 0 then
    if exponent ≤ 308 then
      let y := x * powerOfTen exponent.toNat
      if y.isInf then none else some y
    else if significand == 0 then some x else none
  else if exponent ≥ -308 then some (x / powerOfTen (-exponent).toNat)
  else if exponent ≥ -616 then some (x / powerOfTen 308 / powerOfTen (-exponent - 308).toNat)
  else some 0.0

/-- The natural number that a text of digits stands for, if it is below the bound.  A plus sign may
stand in front. -/
def readNatural? (bound : Nat) (text : String) : Option Nat :=
  let digits := match text.toList with
    | '+' :: rest => rest
    | cs => cs
  if !digits.isEmpty && digits.all Char.isDigit && digitsValue digits < bound then
    some (digitsValue digits)
  else none

end SearchQuery.Decimal

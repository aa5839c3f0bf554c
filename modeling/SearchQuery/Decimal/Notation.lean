import SearchQuery.Decimal.Shortest

/-!
# Number texts

A `Layout` says how the shortest digits of a number are laid out: where positional notation ends,
whether a whole number keeps its fraction, and how the exponent is written.
-/

namespace SearchQuery.Decimal

structure Layout where
  /-- Whether a number whose first digit counts `10 ^ e` is written without an exponent. -/
  positional : Int → Bool
  /-- Whether a whole number ends in `.0`. -/
  keepsFraction : Bool
  /-- Whether a positive exponent has a sign. -/
  signsExponent : Bool
  /-- Which of two equally near texts is taken. -/
  tie : Tie

def Layout.positionalText (layout : Layout) (d : Digits) : List Char :=
  if d.point ≤ 0 then
    ['0', '.'] ++ List.replicate (-d.point).toNat '0' ++ d.digits
  else
    let whole := d.point.toNat
    if d.digits.length ≤ whole then
      d.digits ++ List.replicate (whole - d.digits.length) '0'
        ++ (if layout.keepsFraction then ['.', '0'] else [])
    else d.digits.take whole ++ '.' :: d.digits.drop whole

def Layout.exponentText (layout : Layout) (d : Digits) : List Char :=
  let e := d.point - 1
  let fraction := match d.digits.drop 1 with
    | [] => []
    | rest => '.' :: rest
  let sign := if e < 0 then ['-'] else if layout.signsExponent then ['+'] else []
  d.digits.take 1 ++ fraction ++ 'e' :: sign ++ Nat.toDigits 10 e.natAbs

def Layout.magnitude (layout : Layout) (mantissa : Nat) (exponent : Int) : List Char :=
  let d := if mantissa == 0 then { digits := ['0'], point := 1 }
    else shortest layout.tie mantissa exponent
  if layout.positional (d.point - 1) then layout.positionalText d else layout.exponentText d

def Layout.text (layout : Layout) (x : Float) : String :=
  match Binary64.ofFloat x with
  | .notANumber => "NaN"
  | .infinite negative => if negative then "-inf" else "inf"
  | .finite negative mantissa exponent =>
    let magnitude := layout.magnitude mantissa exponent
    String.ofList (if negative then '-' :: magnitude else magnitude)

/-- Numbers in statements: never an exponent, and no fraction where there is none. -/
def plain : Layout where
  positional := fun _ => true
  keepsFraction := false
  signsExponent := false
  tie := .up

/-- Numbers in messages: a fraction at all times, and an exponent below `0.0001` and from
`10 ^ 16`. -/
def shown : Layout where
  positional := fun e => -4 ≤ e && e < 16
  keepsFraction := true
  signsExponent := false
  tie := .up

/-- Numbers in JSON text: a fraction at all times, and a signed exponent below `0.00001` and from
`10 ^ 16`. -/
def json : Layout where
  positional := fun e => -5 ≤ e && e < 16
  keepsFraction := true
  signsExponent := true
  tie := .toEven

end SearchQuery.Decimal

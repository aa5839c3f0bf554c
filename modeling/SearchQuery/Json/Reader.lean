import SearchQuery.Decimal.Reading
import SearchQuery.Json.Basic

/-!
# Reading JSON text

The grammar is strict: nothing may stand before or behind the value but blanks, tabs and line ends,
numbers have no superfluous zeros, strings hold no control characters, an escaped surrogate needs
its partner, and arrays and objects may be nested no deeper than a limit.  A number with neither a
fraction nor an exponent is a whole number if it fits 64 bits, with or without sign; `-0` is a
floating-point number.
-/

namespace SearchQuery.Json

def isSpace (c : Char) : Bool :=
  c == ' ' || c == '\t' || c == '\n' || c == '\r'

def skipSpaces (cs : List Char) : List Char :=
  cs.dropWhile isSpace

/-- The digits taken into a 64-bit significand, their count, and the number of digits left over once
the significand is full. -/
structure Significand where
  value : Nat
  left : Nat
  taken : Nat

/-- Takes one more digit, as long as there is room for it and none has been left over. -/
def Significand.push (s : Significand) (digit : Char) : Significand :=
  let value := 10 * s.value + (digit.toNat - '0'.toNat)
  if s.left == 0 && value < UInt64.size then { s with value := value, taken := s.taken + 1 }
  else { s with left := s.left + 1 }

def Significand.ofDigits (start : Nat) (digits : List Char) : Significand :=
  digits.foldl Significand.push { value := start, left := 0, taken := 0 }

/-- A floating-point number from its digits and exponent.  Digits beyond the 64 bits of the
significand only move the point, or, behind it, count for nothing. -/
def floatOf? (negative : Bool) (whole fraction : List Char) (exponent : Int) : Option Number :=
  let w := Significand.ofDigits 0 whole
  let f := Significand.ofDigits w.value fraction
  let x := Decimal.scaled? (UInt64.ofNat f.value) (exponent + w.left - f.taken)
  x.map fun x => .float (if negative then -x else x)

/-- A whole number, or the float that is meant where it has no place in 64 bits. -/
def wholeOf? (negative : Bool) (digits : List Char) : Option Number :=
  let n := Decimal.digitsValue digits
  let fits := if negative then n != 0 && (signedWord? (-n)).isSome else (word? n).isSome
  if fits then some (.integer (if negative then -n else n)) else floatOf? negative digits [] 0

def readExponent? : List Char → Option (Option Int × List Char)
  | c :: rest =>
    if c == 'e' || c == 'E' then
      let (negative, unsigned) := Decimal.takeSign rest
      let (digits, after) := unsigned.span Char.isDigit
      if digits.isEmpty then none
      else
        let n : Int := Decimal.digitsValue digits
        some (some (if negative then -n else n), after)
    else some (none, c :: rest)
  | [] => some (none, [])

def readFraction? : List Char → Option (Option (List Char) × List Char)
  | '.' :: rest =>
    let (digits, after) := rest.span Char.isDigit
    if digits.isEmpty then none else some (some digits, after)
  | cs => some (none, cs)

def readNumber? (negative : Bool) (cs : List Char) : Option (Number × List Char) := do
  let (whole, afterWhole) := cs.span Char.isDigit
  if whole.isEmpty || (whole.length > 1 && whole.head? == some '0') then none
  let (fraction, afterFraction) ← readFraction? afterWhole
  let (exponent, after) ← readExponent? afterFraction
  let number ← match fraction, exponent with
    | none, none => wholeOf? negative whole
    | _, _ => floatOf? negative whole (fraction.getD []) (exponent.getD 0)
  return (number, after)

def hexValue? (c : Char) : Option Nat :=
  if c.isDigit then some (c.toNat - '0'.toNat)
  else if 'a' ≤ c ∧ c ≤ 'f' then some (c.toNat - 'a'.toNat + 10)
  else if 'A' ≤ c ∧ c ≤ 'F' then some (c.toNat - 'A'.toNat + 10)
  else none

def readUnit? : List Char → Option (Nat × List Char)
  | a :: b :: c :: d :: rest => do
    let a ← hexValue? a
    let b ← hexValue? b
    let c ← hexValue? c
    let d ← hexValue? d
    return (((a * 16 + b) * 16 + c) * 16 + d, rest)
  | _ => none

/-- Reads what follows `\u`: one unit, or two that make a pair of surrogates. -/
def readCodePoint? (cs : List Char) : Option (Char × List Char) := do
  let (unit, rest) ← readUnit? cs
  if 0xDC00 ≤ unit ∧ unit < 0xE000 then none
  else if 0xD800 ≤ unit ∧ unit < 0xDC00 then
    match rest with
    | '\\' :: 'u' :: rest =>
      let (second, rest) ← readUnit? rest
      if 0xDC00 ≤ second ∧ second < 0xE000 then
        some (Char.ofNat (0x10000 + (unit - 0xD800) * 0x400 + (second - 0xDC00)), rest)
      else none
    | _ => none
  else some (Char.ofNat unit, rest)

def unescaped? : Char → Option Char
  | '"' => some '"'
  | '\\' => some '\\'
  | '/' => some '/'
  | 'b' => some '\x08'
  | 'f' => some '\x0C'
  | 'n' => some '\n'
  | 'r' => some '\r'
  | 't' => some '\t'
  | _ => none

/-- Reads a string behind its opening quote, in at most `fuel` characters. -/
def readString? (fuel : Nat) (cs : List Char) : Option (List Char × List Char) :=
  match fuel, cs with
  | 0, _ => none
  | _, [] => none
  | fuel + 1, c :: rest =>
    if c == '"' then some ([], rest)
    else if c == '\\' then
      match rest with
      | 'u' :: rest => do
        let (c, rest) ← readCodePoint? rest
        let (cs, rest) ← readString? fuel rest
        return (c :: cs, rest)
      | e :: rest => do
        let c ← unescaped? e
        let (cs, rest) ← readString? fuel rest
        return (c :: cs, rest)
      | [] => none
    else if c.toNat < 32 then none
    else do
      let (cs, rest) ← readString? fuel rest
      return (c :: cs, rest)

def readQuoted? : List Char → Option (String × List Char)
  | '"' :: rest =>
    (readString? (rest.length + 1) rest).map fun (cs, rest) => (String.ofList cs, rest)
  | _ => none

mutual

/-- Reads a value, in which arrays and objects are nested no deeper than `depth`. -/
def readValue? (fuel depth : Nat) (cs : List Char) : Option (Json × List Char) :=
  match fuel with
  | 0 => none
  | fuel + 1 =>
    match skipSpaces cs with
    | 'n' :: 'u' :: 'l' :: 'l' :: rest => some (.null, rest)
    | 't' :: 'r' :: 'u' :: 'e' :: rest => some (.boolean true, rest)
    | 'f' :: 'a' :: 'l' :: 's' :: 'e' :: rest => some (.boolean false, rest)
    | '"' :: rest => (readQuoted? ('"' :: rest)).map fun (s, rest) => (.string s, rest)
    | '[' :: rest =>
      match depth with
      | 0 => none
      | depth + 1 =>
        match skipSpaces rest with
        | ']' :: rest => some (.array [], rest)
        | rest => (readItems? fuel depth rest).map fun (items, rest) => (.array items, rest)
    | '{' :: rest =>
      match depth with
      | 0 => none
      | depth + 1 =>
        match skipSpaces rest with
        | '}' :: rest => some (.object [], rest)
        | rest =>
          (readMembers? fuel depth rest).map fun (members, rest) => (.ofMembers members, rest)
    | '-' :: rest => (readNumber? true rest).map fun (n, rest) => (.number n, rest)
    | rest => (readNumber? false rest).map fun (n, rest) => (.number n, rest)

def readItems? (fuel depth : Nat) (cs : List Char) : Option (List Json × List Char) :=
  match fuel with
  | 0 => none
  | fuel + 1 => do
    let (item, rest) ← readValue? fuel depth cs
    match skipSpaces rest with
    | ',' :: rest =>
      let (items, rest) ← readItems? fuel depth rest
      return (item :: items, rest)
    | ']' :: rest => return ([item], rest)
    | _ => none

def readMembers? (fuel depth : Nat) (cs : List Char) : Option (List (String × Json) × List Char) :=
  match fuel with
  | 0 => none
  | fuel + 1 => do
    let (name, rest) ← readQuoted? (skipSpaces cs)
    match skipSpaces rest with
    | ':' :: rest =>
      let (value, rest) ← readValue? fuel depth rest
      match skipSpaces rest with
      | ',' :: rest =>
        let (members, rest) ← readMembers? fuel depth rest
        return ((name, value) :: members, rest)
      | '}' :: rest => return ([(name, value)], rest)
      | _ => none
    | _ => none

end

/-- How deep arrays and objects may be nested in a body. -/
def depthLimit : Nat := 127

/-- Reads a whole text as one value.  Each step of the reading takes at least one character or is
followed by one that does, so that twice the length is fuel enough. -/
def read? (depth : Nat) (cs : List Char) : Option Json := do
  let (value, rest) ← readValue? (2 * cs.length + 2) depth cs
  if (skipSpaces rest).isEmpty then some value else none

end SearchQuery.Json

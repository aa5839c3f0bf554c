/-!
# Timestamps

Points in time by whole seconds, and their texts: year, month and day of the civil calendar, hour,
minute and second.
-/

namespace SearchQuery

/-- A second counted from the start of 1970.  The range is that of calendars whose years fit 18 bits
with sign. -/
structure Timestamp where
  second : Int
  inRange : -8334601228800 ≤ second ∧ second ≤ 8210266876799
  deriving DecidableEq

namespace Timestamp

def ofSecond? (second : Int) : Option Timestamp :=
  if inRange : -8334601228800 ≤ second ∧ second ≤ 8210266876799 then some { second, inRange }
  else none

/-- Year, month and day of a day counted from the start of 1970.  The count is moved to a year that
begins in March, so that the leap day is its last, in an era of 400 years. -/
def civil (day : Int) : Int × Nat × Nat :=
  let shifted := day + 719468
  let era := shifted.fdiv 146097
  let dayOfEra := (shifted.fmod 146097).toNat
  let yearOfEra :=
    (dayOfEra - dayOfEra / 1460 + dayOfEra / 36524 - dayOfEra / 146096) / 365
  let dayOfYear := dayOfEra - (365 * yearOfEra + yearOfEra / 4 - yearOfEra / 100)
  let month := (5 * dayOfYear + 2) / 153
  let dayOfMonth := dayOfYear - (153 * month + 2) / 5 + 1
  let year : Int := yearOfEra + era * 400
  if month < 10 then (year, month + 3, dayOfMonth) else (year + 1, month - 9, dayOfMonth)

def padded (width n : Nat) : String :=
  let ds := Nat.toDigits 10 n
  String.ofList (List.replicate (width - ds.length) '0' ++ ds)

/-- A year in four digits, with a sign if it is negative or needs more. -/
def yearText (year : Int) : String :=
  let sign := if year < 0 then "-" else if year > 9999 then "+" else ""
  sign ++ padded 4 year.natAbs

def dateTime (t : Timestamp) : String :=
  let (year, month, day) := civil (t.second.fdiv 86400)
  let second := (t.second.fmod 86400).toNat
  yearText year ++ "-" ++ padded 2 month ++ "-" ++ padded 2 day ++ "T" ++ padded 2 (second / 3600)
    ++ ":" ++ padded 2 (second / 60 % 60) ++ ":" ++ padded 2 (second % 60)

def withOffset (t : Timestamp) : String :=
  t.dateTime ++ "+00:00"

def withZone (t : Timestamp) : String :=
  t.dateTime ++ "Z"

end Timestamp

end SearchQuery

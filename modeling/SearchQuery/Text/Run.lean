/-!
# Runs of code points

A character property is kept as a list of runs: the code points `first`, `first + step`, … up to
`last`.  A step of two holds the many alphabets in which upper and lower case alternate.
-/

namespace SearchQuery.Text

/-- The code points `first`, `first + step`, … up to `last`. -/
structure Run where
  first : Nat
  last : Nat
  step : Nat

def Run.contains (run : Run) (code : Nat) : Bool :=
  run.first ≤ code && code ≤ run.last && (code - run.first) % run.step == 0

def inRuns (runs : List Run) (c : Char) : Bool :=
  runs.any fun run => run.contains c.toNat

end SearchQuery.Text

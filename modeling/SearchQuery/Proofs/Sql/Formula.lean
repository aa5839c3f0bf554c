import SearchQuery.Decimal.Reading
import SearchQuery.Proofs.Sql.Token

/-!
# Conditions as they are read

A `Formula` is what a reader of a statement makes of the text behind `WHERE`, by the usual rules:
`NOT` binds tighter than `AND`, and `AND` tighter than `OR`.  So a condition falls into alternatives
at its outermost `OR`s, an alternative into factors at its outermost `AND`s, and a factor is a `NOT`
with a factor, a condition in parentheses, or a comparison.

`Formula.holds` says what a formula means once it is known which atoms hold.  An atom is what a
comparison says in its positive form: `<>` denies `=`, `>=` denies `<`, `<=` denies `>`, and
`NOT IN` denies `IN`.
-/

namespace SearchQuery.Sql

/-! ### Formulas -/

/-- A value as a comparison shows it. -/
inductive Operand where
  | numeral (text : String)
  | literal (text : String)
  deriving DecidableEq, Repr

/-- What is compared with a value: a field, or the distance in metres of the point in two fields
from an anchor in degrees. -/
inductive Quantity where
  | field (name : String)
  | distance (latitudeField longitudeField latitude longitude : String)
  deriving DecidableEq, Repr

inductive Relation where
  | equal
  | below
  | above
  deriving DecidableEq, Repr

inductive Atom where
  | compares (quantity : Quantity) (relation : Relation) (value : Operand)
  | among (field : String) (values : List Operand)
  | fullText (query : String)
  deriving DecidableEq, Repr

inductive Formula where
  | constant (value : Bool)
  | atom (atom : Atom)
  | not (formula : Formula)
  | all (formulas : List Formula)
  | any (formulas : List Formula)

namespace Formula

mutual

def holds (w : Atom → Bool) : Formula → Bool
  | .constant b => b
  | .atom a => w a
  | .not f => !f.holds w
  | .all fs => allHold w fs
  | .any fs => anyHolds w fs

def allHold (w : Atom → Bool) : List Formula → Bool
  | [] => true
  | f :: rest => f.holds w && allHold w rest

def anyHolds (w : Atom → Bool) : List Formula → Bool
  | [] => false
  | f :: rest => f.holds w || anyHolds w rest

end

def ofAtom (denied : Bool) (a : Atom) : Formula :=
  if denied then .not (.atom a) else .atom a

end Formula

/-! ### Groups -/

/-- A token, or all that stands between two parentheses. -/
inductive Item where
  | token (token : Token)
  | group (items : List Item)

namespace Item

abbrev word (text : String) : Item :=
  .token (.word text)

def token? : Item → Option Token
  | .token t => some t
  | .group _ => none

/-- Puts together the tokens between parentheses: `items` is what has been read of the group under
way, and `outer` of the groups around it.  There is no answer if the parentheses do not pair up. -/
def ofTokensFrom (outer : List (List Item)) (items : List Item) : List Token → Option (List Item)
  | [] => if outer.isEmpty then some items else none
  | t :: rest =>
    if t = .mark '(' then ofTokensFrom (items :: outer) [] rest
    else if t = .mark ')' then
      match outer with
      | [] => none
      | above :: outer => ofTokensFrom outer (above ++ [.group items]) rest
    else ofTokensFrom outer (items ++ [.token t]) rest

def ofTokens? (ts : List Token) : Option (List Item) :=
  ofTokensFrom [] [] ts

end Item

/-! ### Comparisons -/

def Relation.ofSign? : String → Option (Relation × Bool)
  | "=" => some (.equal, false)
  | "<>" => some (.equal, true)
  | "<" => some (.below, false)
  | ">=" => some (.below, true)
  | ">" => some (.above, false)
  | "<=" => some (.above, true)
  | _ => none

namespace Operand

def ofToken? : Token → Option Operand
  | .literal text => some (.literal text)
  | .word text => if Decimal.isNumeral text then some (.numeral text) else none
  | _ => none

def ofTokens? : List Token → Option (List Operand)
  | [] => none
  | [t] => (ofToken? t).map fun v => [v]
  | t :: comma :: rest => do
    let v ← ofToken? t
    let vs ← ofTokens? rest
    if comma = .mark ',' then some (v :: vs) else none

end Operand

/-- The units of a distance: degrees for the anchor, and metres. -/
def distanceUnits : List Token :=
  [.mark '{', .word "in", .word "=", .word "degrees", .mark ',', .word "out", .word "=",
    .word "meters", .mark '}']

def Quantity.ofCall? (call : String) (arguments : List Token) : Option Quantity :=
  match arguments with
  | .name latitudeField :: .mark ',' :: .name longitudeField :: .mark ','
      :: .word latitude :: .mark ',' :: .word longitude :: .mark ',' :: units =>
    if call = "GEODIST" ∧ Decimal.isNumeral latitude ∧ Decimal.isNumeral longitude
        ∧ units = distanceUnits then
      some (.distance latitudeField longitudeField latitude longitude)
    else none
  | _ => none

def wholeNumber? (word : String) : Option Nat :=
  if !word.isEmpty && word.toList.all Char.isDigit then some (Decimal.digitsValue word.toList)
  else none

namespace Formula

/-- Two whole numbers with a sign between them: always, or never. -/
def ofNumbers? (a sign b : String) : Option Formula := do
  let m ← wholeNumber? a
  let n ← wholeNumber? b
  if sign = "=" then some (.constant (m = n)) else none

def ofComparison? (quantity : Quantity) (sign : String) (value : Token) : Option Formula := do
  let (relation, denied) ← Relation.ofSign? sign
  let v ← Operand.ofToken? value
  some (ofAtom denied (.compares quantity relation v))

def ofMembership? (denied : Bool) (field : String) (values : List Item) : Option Formula := do
  let ts ← values.mapM Item.token?
  let vs ← Operand.ofTokens? ts
  some (ofAtom denied (.among field vs))

def ofTest? : List Item → Option Formula
  | [.token (.word a), .token (.word sign), .token (.word b)] => ofNumbers? a sign b
  | [.token (.name field), .token (.word sign), .token value] =>
    ofComparison? (.field field) sign value
  | [.token (.name field), .token (.word "IN"), .group values] => ofMembership? false field values
  | [.token (.name field), .token (.word "NOT"), .token (.word "IN"), .group values] =>
    ofMembership? true field values
  | [.token (.word "MATCH"), .group [.token (.literal query)]] => some (.atom (.fullText query))
  | [.token (.word call), .group arguments, .token (.word sign), .token value] => do
    let ts ← arguments.mapM Item.token?
    let quantity ← Quantity.ofCall? call ts
    ofComparison? quantity sign value
  | _ => none

/-! ### Joints -/

/-- An item with the formula that it is read as, if it is a condition in parentheses. -/
abbrev Phrase := Item × Option Formula

def isWord (text : String) : Phrase → Bool
  | (.token (.word w), _) => w == text
  | _ => false

/-- A `NOT` with a factor, a condition in parentheses, or a test. -/
def ofFactor? : List Phrase → Option Formula
  | (.token (.word "NOT"), _) :: rest => (ofFactor? rest).map .not
  | [(.group _, f?)] => f?
  | ps => ofTest? (ps.map (·.1))

/-- Factors with `AND`s between them. -/
def ofAlternative? (ps : List Phrase) : Option Formula :=
  ((ps.splitOnP (isWord "AND")).mapM ofFactor?).map .all

/-- Alternatives with `OR`s between them. -/
def ofPhrases? (ps : List Phrase) : Option Formula :=
  ((ps.splitOnP (isWord "OR")).mapM ofAlternative?).map .any

mutual

def ofItem? : Item → Option Formula
  | .token _ => none
  | .group items => ofPhrases? (phrases items)

def phrases : List Item → List Phrase
  | [] => []
  | i :: rest => (i, ofItem? i) :: phrases rest

end

/-- The formula that a text is read as, if it is a condition from its beginning to its end. -/
def ofText? (text : String) : Option Formula := do
  let ts ← Token.ofText? text
  let items ← Item.ofTokens? ts
  ofPhrases? (phrases items)

example : ofText? "`a` = 1 OR NOT (`b` < 'x') AND `c` <> 2"
    = some (.any [
        .all [.atom (.compares (.field "a") .equal (.numeral "1"))],
        .all [.not (.any [.all [.atom (.compares (.field "b") .below (.literal "x"))]]),
          .not (.atom (.compares (.field "c") .equal (.numeral "2")))]]) := by
  cbv

example : ofText? "`a` = 1 AND" = none := by
  cbv

end Formula

end SearchQuery.Sql

import SearchQuery.Text.Letter

/-!
# Spellings

An attribute may be spelled in other ways than it is declared: in lower case, with its words joined
by underscores, or with nothing but its letters and digits.
-/

namespace SearchQuery

/-- Writes a name in lower case with its words joined by underscores.  A word starts at a capital
behind a small letter or a digit, and at the last of several capitals if a small letter follows it;
a space or a hyphen becomes an underscore, but neither at the start nor beside another.  `last` is
the last character written and `previous` the last one read. -/
def snakeCaseFrom (last previous : Option Char) : List Char → List Char
  | [] => []
  | c :: rest =>
    if Text.isUppercase c then
      let starts := match previous with
        | none => false
        | some p =>
          Text.isLowercase p || p.isDigit
            || (Text.isUppercase p && rest.head?.any Text.isLowercase)
      let joint := if starts && last != some '_' then ['_'] else []
      let lower := Text.lowerChar c
      joint ++ lower ++ snakeCaseFrom lower.getLast? (some c) rest
    else if c == ' ' || c == '-' then
      if last.isSome && last != some '_' then '_' :: snakeCaseFrom (some '_') (some c) rest
      else snakeCaseFrom last (some c) rest
    else c :: snakeCaseFrom (some c) (some c) rest

def snakeCase (name : String) : String :=
  String.ofList (snakeCaseFrom none none name.toList)

inductive Spelling where
  | declared
  | lowercase
  | snakeCase
  | alphanumeric
  deriving DecidableEq, Repr

namespace Spelling

/-- The spellings in the order in which they are looked for. -/
def all : List Spelling :=
  [.declared, .lowercase, .snakeCase, .alphanumeric]

def apply (spelling : Spelling) (name : String) : String :=
  match spelling with
  | .declared => name
  | .lowercase => Text.lowercase name
  | .snakeCase => SearchQuery.snakeCase name
  | .alphanumeric => String.ofList (name.toList.filter Text.isAlphanumeric)

end Spelling

end SearchQuery

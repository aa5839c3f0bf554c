import SearchQuery.Scalar

/-!
# Literals and identifiers

How values and names stand in a statement.  A text goes between single quotes, with a backslash in
front of each quote and backslash; a name goes between backticks, with each backtick doubled.
-/

namespace SearchQuery.Sql

def escapedChar (c : Char) : List Char :=
  if c = '\\' ∨ c = '\'' ∨ c = '"' then ['\\', c]
  else if c = '\x00' then ['\\', '0']
  else [c]

def escapeChars (cs : List Char) : List Char :=
  cs.flatMap escapedChar

def escape (text : String) : String :=
  String.ofList (escapeChars text.toList)

def quote (text : String) : String :=
  "'" ++ escape text ++ "'"

def identifierChar (c : Char) : List Char :=
  if c = '\x60' then ['\x60', '\x60'] else [c]

def identifier (name : String) : String :=
  "`" ++ String.ofList (name.toList.flatMap identifierChar) ++ "`"

/-- A value in a statement: bare if it is numeric, else between quotes. -/
def literal : Scalar → String
  | .boolean b => if b then "1" else "0"
  | .integer n => toString n.toInt
  | .float x => if x.isFinite then Decimal.plain.text x else "'" ++ Decimal.plain.text x ++ "'"
  | .text s => if Decimal.isNumeral s then s else quote s

def commaSeparated (items : List String) : String :=
  String.intercalate ", " items

end SearchQuery.Sql

/-!
# Statements in pieces

A statement as it is read from left to right, without knowing what it means.  A single quote opens
a literal, in which a backslash takes the next character with it, and the next bare single quote
closes it.  A backtick opens a name, in which two backticks stand for one, and a single one closes
it.  All else is bare.
-/

namespace SearchQuery.Sql

/-- A bare character of a statement, or what stands between two quotes or two backticks. -/
inductive Piece where
  | bare (c : Char)
  | literal (text : String)
  | name (text : String)
  deriving DecidableEq, Repr

/-- Where a reader of a statement is: outside all quotes, or inside a literal or a name of which it
has read a part. -/
inductive Mode where
  | outside
  | literal (read : List Char)
  | name (read : List Char)

def unescapedChar (c : Char) : Char :=
  if c = '0' then '\x00' else c

/-- Reads the rest of a statement.  There is no answer if it ends between quotes. -/
def scanFrom : Mode → List Char → Option (List Piece)
  | .outside, [] => some []
  | .outside, c :: rest =>
    if c = '\'' then scanFrom (.literal []) rest
    else if c = '\x60' then scanFrom (.name []) rest
    else (scanFrom .outside rest).map (.bare c :: ·)
  | .literal _, [] => none
  | .literal read, c :: rest =>
    if c = '\\' then
      match rest with
      | [] => none
      | d :: rest => scanFrom (.literal (read ++ [unescapedChar d])) rest
    else if c = '\'' then (scanFrom .outside rest).map (.literal (String.ofList read) :: ·)
    else scanFrom (.literal (read ++ [c])) rest
  | .name _, [] => none
  | .name read, c :: rest =>
    if c = '\x60' then
      match rest with
      | '\x60' :: rest => scanFrom (.name (read ++ ['\x60'])) rest
      | rest => (scanFrom .outside rest).map (.name (String.ofList read) :: ·)
    else scanFrom (.name (read ++ [c])) rest

def scan (text : String) : Option (List Piece) :=
  scanFrom .outside text.toList

namespace Piece

def quoted? : Piece → Option String
  | .bare _ => none
  | .literal text => some text
  | .name text => some text

def bare? : Piece → Option Char
  | .bare c => some c
  | _ => none

end Piece

def quotedTexts (ps : List Piece) : List String :=
  ps.filterMap Piece.quoted?

def bareText (ps : List Piece) : String :=
  String.ofList (ps.filterMap Piece.bare?)

end SearchQuery.Sql

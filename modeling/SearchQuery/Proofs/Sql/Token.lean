import SearchQuery.Proofs.Sql.Piece

/-!
# Words of a statement

The bare characters of a statement fall into words.  A word is as long as possible and of characters
of one kind, comparison signs or others; blank space parts words, and parentheses, braces and commas
stand for themselves.
-/

namespace SearchQuery.Sql

inductive Token where
  | word (text : String)
  | mark (c : Char)
  | literal (text : String)
  | name (text : String)
  deriving DecidableEq, Repr

/-- What a bare character can be part of. -/
inductive CharKind where
  | blank
  | mark
  | sign
  | letter
  deriving DecidableEq, Repr

def CharKind.of (c : Char) : CharKind :=
  if c.isWhitespace then .blank
  else if ['(', ')', '{', '}', ','].contains c then .mark
  else if ['<', '=', '>'].contains c then .sign
  else .letter

namespace Token

def ofWord (cs : List Char) : List Token :=
  if cs.isEmpty then [] else [.word (String.ofList cs)]

/-- The tokens of pieces behind the beginning of a word. -/
def ofPiecesFrom (word : List Char) : List Piece → List Token
  | [] => ofWord word
  | .literal text :: rest => ofWord word ++ .literal text :: ofPiecesFrom [] rest
  | .name text :: rest => ofWord word ++ .name text :: ofPiecesFrom [] rest
  | .bare c :: rest =>
    match CharKind.of c with
    | .blank => ofWord word ++ ofPiecesFrom [] rest
    | .mark => ofWord word ++ .mark c :: ofPiecesFrom [] rest
    | kind =>
      if word.all fun d => CharKind.of d = kind then ofPiecesFrom (word ++ [c]) rest
      else ofWord word ++ ofPiecesFrom [c] rest

def ofPieces (ps : List Piece) : List Token :=
  ofPiecesFrom [] ps

def ofText? (text : String) : Option (List Token) :=
  (scan text).map ofPieces

end Token

end SearchQuery.Sql

import SearchQuery.Query
import SearchQuery.Sql.Condition

/-!
# Statements

A `SELECT` statement by its clauses, and its text.
-/

namespace SearchQuery.Sql

structure Statement where
  columns : List String := []
  source : String
  condition : Option Condition := none
  groupBy : List String := []
  having : List String := []
  sort : List SortKey := []
  /-- Offset and limit. -/
  window : Option (UInt64 × UInt64) := none
  maxMatches : Option UInt64 := none

/-- How many rows a window has that names no limit. -/
def defaultLimit : UInt64 := 20

/-- The window of an offset and a limit, each of which may be missing. -/
def windowOf (offset limit : Option UInt64) : UInt64 × UInt64 :=
  (offset.getD 0, limit.getD defaultLimit)

def sortText (key : SortKey) : String :=
  identifier key.field ++ " " ++ key.direction.keyword

namespace Statement

def head (s : Statement) : String :=
  "SELECT " ++ (if s.columns.isEmpty then "*" else commaSeparated s.columns) ++ " FROM " ++ s.source

def parts (s : Statement) : List String :=
  [some s.head,
    s.condition.map fun c => "WHERE " ++ c.text,
    if s.groupBy.isEmpty then none else some ("GROUP BY " ++ commaSeparated s.groupBy),
    if s.having.isEmpty then none else some ("HAVING " ++ String.intercalate " AND " s.having),
    if s.sort.isEmpty then none else some ("ORDER BY " ++ commaSeparated (s.sort.map sortText)),
    s.window.map fun w => "LIMIT " ++ toString w.1.toNat ++ ", " ++ toString w.2.toNat,
    s.maxMatches.map fun n => "OPTION max_matches=" ++ toString n.toNat].filterMap id

def text (s : Statement) : String :=
  String.intercalate " " s.parts

end Statement

end SearchQuery.Sql

namespace SearchQuery

def Query.statement {κ : Type} (q : Query κ) (index : String) (settings : Settings) :
    Sql.Statement where
  columns := q.select
  source := index
  condition := q.clauses.whereCondition q.matching
  groupBy := q.groupBy
  having := q.having
  sort := q.sort
  window :=
    if q.limit.isNone && q.offset.isNone then none else some (Sql.windowOf q.offset q.limit)
  maxMatches := q.matchLimit settings

end SearchQuery

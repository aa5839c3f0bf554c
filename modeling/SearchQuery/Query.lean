import SearchQuery.Node
import SearchQuery.Settings

/-!
# Queries

What a caller has asked for so far: full-text clauses, predicates in three lists, order, window,
aggregations, the clauses of a tabular statement, relations to load, or a statement of the caller's
own.
-/

namespace SearchQuery

inductive Direction where
  | ascending
  | descending
  deriving DecidableEq, Repr

namespace Direction

def key : Direction → String
  | .ascending => "asc"
  | .descending => "desc"

def keyword : Direction → String
  | .ascending => "ASC"
  | .descending => "DESC"

def ofKey? : String → Option Direction
  | "asc" => some .ascending
  | "desc" => some .descending
  | _ => none

end Direction

structure SortKey where
  field : String
  direction : Direction
  deriving DecidableEq, Repr

/-- A count of documents by the values of a field, over at most `size` values. -/
structure Aggregation where
  field : String
  size : Option UInt64
  deriving DecidableEq, Repr

/-- The form of answer that a statement asks for: one object of hits, or an array of result sets. -/
inductive AnswerMode where
  | array
  | object
  deriving DecidableEq, Repr

structure RawQuery where
  sql : String
  mode : AnswerMode
  deriving DecidableEq, Repr

/-- A relation to load with the records: which of its columns, and what customizes its query. -/
structure EagerLoad (κ : Type) where
  relation : String
  projection : Option (List String) := none
  scope : Option κ := none

/-- What a caller has asked for.  Queries by which relations are loaded are changed by customizers,
of which nothing is known here but their type. -/
structure Query (κ : Type) where
  matching : List FullText := []
  clauses : Clauses Predicate := {}
  sort : List SortKey := []
  limit : Option UInt64 := none
  offset : Option UInt64 := none
  maxMatches : Option UInt64 := none
  select : List String := []
  groupBy : List String := []
  having : List String := []
  aggregations : List (String × Aggregation) := []
  highlight : Bool := false
  eager : List (EagerLoad κ) := []
  raw : Option RawQuery := none

/-- The loads whose relation has a name, the first of each relation. -/
def distinctLoads {κ : Type} : List (EagerLoad κ) → List (EagerLoad κ)
  | [] => []
  | load :: rest =>
    let rest := distinctLoads rest
    if load.relation.isEmpty then rest
    else load :: rest.filter fun other => other.relation != load.relation

/-- What customizers make of the query by which a relation is loaded. -/
class Customizer (κ : Type) where
  customize : κ → Query κ → Query κ

variable {κ : Type}

namespace Query

/-- The greatest number of matches: the query's own, or else the settings'. -/
def matchLimit (q : Query κ) (settings : Settings) : Option UInt64 :=
  q.maxMatches.or settings.maxMatches

/-- Whether the query has clauses that only a statement has. -/
def isTabular (q : Query κ) : Bool :=
  !q.groupBy.isEmpty || !q.having.isEmpty || !q.select.isEmpty

def eagerLoads (q : Query κ) : List (EagerLoad κ) :=
  distinctLoads q.eager

end Query

namespace EagerLoad

def query [Customizer κ] (load : EagerLoad κ) : Query κ :=
  let q : Query κ := { select := load.projection.getD [] }
  match load.scope with
  | none => q
  | some scope => Customizer.customize scope q

def shown (load : EagerLoad κ) : String :=
  let projection := match load.projection with
    | none => "None"
    | some columns => "Some([" ++ String.intercalate ", " (columns.map Text.quoted) ++ "])"
  let scope := match load.scope with
    | none => "None"
    | some _ => "Some(\"<fn>\")"
  "EagerLoad \x7b relation: " ++ Text.quoted load.relation ++ ", projection: " ++ projection
    ++ ", customizer: " ++ scope ++ " \x7d"

end EagerLoad

end SearchQuery

import SearchQuery.Sql.Statement

/-!
# Search requests

The structured form of a query: a tree of conditions with the options of the search.  It is sent as
a JSON body, and it has a statement of its own that finds the same documents.
-/

namespace SearchQuery

structure Request where
  index : String
  clauses : Clauses Node := {}
  limit : Option UInt64 := none
  offset : Option UInt64 := none
  sort : List SortKey := []
  highlight : Bool := false
  aggregations : List (String × Aggregation) := []
  maxMatches : Option UInt64 := none

namespace Aggregation

def toJson (a : Aggregation) : Json :=
  let size := match a.size with
    | none => []
    | some n => [("size", Json.ofWord n)]
  .object [("terms", .object (("field", .string a.field) :: size))]

end Aggregation

namespace Request

def queryJson (r : Request) : Json :=
  if r.clauses.isEmpty then .object [("match_all", .object [])]
  else .object [("bool", r.clauses.toJson)]

def toJson (r : Request) : Json :=
  .ofMembers ([
    some ("index", .string r.index),
    some ("query", r.queryJson),
    r.limit.map fun n => ("limit", .ofWord n),
    r.offset.map fun n => ("offset", .ofWord n),
    if r.sort.isEmpty then none else some ("sort", .array (r.sort.map fun key =>
      .object [(key.field, .string key.direction.key)])),
    if r.highlight then some ("highlight", .object [("fields", .object [("*", .object [])])])
    else none,
    if r.aggregations.isEmpty then none else some ("aggs",
      .ofMembers (r.aggregations.map fun a => (a.1, a.2.toJson))),
    r.maxMatches.map fun n => ("options", .object [("max_matches", .ofWord n)])].filterMap id)

def statement (r : Request) : Sql.Statement where
  source := r.index
  condition := r.clauses.condition
  sort := r.sort
  window := some (Sql.windowOf r.offset r.limit)
  maxMatches := r.maxMatches

end Request

/-- A predicate as a member of a list of which one should hold: its negation needs a group of its
own. -/
def Node.ofAlternative (p : Predicate) : Node :=
  if p.negated then .group [] [] [.ofPredicate p] else .ofPredicate p

/-- The clauses of a search body.  Full-text clauses must hold; a negated predicate changes from the
list of those that must hold to the list of those that must not, and back. -/
def Clauses.toNodes (matching : List FullText) (c : Clauses Predicate) : Clauses Node where
  must := matching.map .fullText
    ++ (c.must.filter fun p => !p.negated).map .ofPredicate
    ++ (c.mustNot.filter fun p => p.negated).map .ofPredicate
  should := c.should.map .ofAlternative
  mustNot := (c.must.filter fun p => p.negated).map .ofPredicate
    ++ (c.mustNot.filter fun p => !p.negated).map .ofPredicate

def Query.request {κ : Type} (q : Query κ) (index : String) (settings : Settings) : Request where
  index := index
  clauses := q.clauses.toNodes q.matching
  limit := q.limit
  offset := q.offset
  sort := q.sort
  highlight := q.highlight
  aggregations := q.aggregations
  maxMatches := q.matchLimit settings

end SearchQuery

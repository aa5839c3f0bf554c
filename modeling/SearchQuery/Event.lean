/-!
# Events

What is counted and measured while queries run.
-/

namespace SearchQuery

/-- The way by which a query reaches the engine. -/
inductive Path where
  | raw
  | sql
  | structured
  deriving DecidableEq, Repr

def Path.name : Path → String
  | .raw => "raw"
  | .sql => "sql"
  | .structured => "structured"

inductive Operation where
  | get
  | first
  | last
  | count
  | paginate
  | facets
  deriving DecidableEq, Repr

def Operation.name : Operation → String
  | .get => "get"
  | .first => "first"
  | .last => "last"
  | .count => "count"
  | .paginate => "paginate"
  | .facets => "facets"

inductive Event where
  /-- A query was answered, or was not. -/
  | query (path : Path) (succeeded : Bool)
  /-- That many records were found. -/
  | results (path : Path) (count : Nat)
  /-- The time that a query took, which is not kept. -/
  | seconds (path : Path) (operation : Operation)
  | facetRequest
  | facetAggregations (count : Nat)
  /-- Relations were loaded, or were not. -/
  | relationLoad (succeeded : Bool)
  | relationsPerLoad (count : Nat)
  deriving DecidableEq, Repr

namespace Event

def status (succeeded : Bool) : String :=
  if succeeded then "success" else "error"

/-- The event as one line: kind, name, labels and value. -/
def text : Event → String
  | .query path succeeded =>
    "counter manticore_builder_queries_total path=" ++ path.name ++ " status=" ++ status succeeded
      ++ " +1"
  | .results path count =>
    "histogram manticore_builder_results path=" ++ path.name ++ " " ++ toString count
  | .seconds path operation =>
    "histogram manticore_builder_query_seconds path=" ++ path.name ++ " operation="
      ++ operation.name ++ " <time>"
  | .facetRequest => "counter manticore_builder_facet_requests_total +1"
  | .facetAggregations count =>
    "histogram manticore_builder_facet_aggregations " ++ toString count
  | .relationLoad succeeded =>
    "counter manticore_builder_relation_loads_total status=" ++ status succeeded ++ " +1"
  | .relationsPerLoad count =>
    "histogram manticore_builder_relations_per_load " ++ toString count

end Event

end SearchQuery

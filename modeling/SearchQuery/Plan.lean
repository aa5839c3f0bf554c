import SearchQuery.Event
import SearchQuery.Request

/-!
# Plans

How a query is sent: as the caller's own statement, as a statement of the library if it has clauses
that only a statement has, or else as a structured search.
-/

namespace SearchQuery

inductive Plan where
  | raw (query : RawQuery)
  | sql (text : String)
  | structured (request : Request)

namespace Plan

def path : Plan → Path
  | .raw _ => .raw
  | .sql _ => .sql
  | .structured _ => .structured

end Plan

def Query.plan {κ : Type} (q : Query κ) (index : String) (settings : Settings) : Plan :=
  match q.raw with
  | some raw => .raw raw
  | none =>
    if q.isTabular then .sql (q.statement index settings).text
    else .structured (q.request index settings)

end SearchQuery

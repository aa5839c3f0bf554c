import SearchQuery.Json.Fields

/-!
# Hits

One document that a search has found: its identifier, its score, its fields, and the places in them
that matched.
-/

namespace SearchQuery

structure Hit where
  id : Option Json := none
  score : Option Float := none
  source : Dictionary Json := .empty
  highlight : Option Json := none
  deriving Inhabited

namespace Hit

/-- The hit as a JSON value.  An identifier that is missing is `null`; a score or a highlight that
is missing is left out. -/
def toJson (h : Hit) : Json :=
  .object ([
    some ("_id", h.id.getD .null),
    h.score.map fun x => ("_score", .ofFloat x),
    some ("_source", .ofDictionary h.source),
    h.highlight.map fun v => ("highlight", v)].filterMap fun member => member)

def ofJson? (v : Json) : Option Hit := do
  match ← v.fields? [("_id", .defaulted), ("_score", .defaulted), ("_source", .defaulted),
      ("highlight", .defaulted)] with
  | [id, score, source, highlight] =>
    return {
      id := ← Json.nullable some id
      score := ← Json.nullable Json.asFloat? score
      source := ← Json.orDefault .empty (Json.dictionaryOf? some) source
      highlight := ← Json.nullable some highlight }
  | _ => none

end Hit

end SearchQuery

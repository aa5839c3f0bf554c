import SearchQuery.Error
import SearchQuery.Payload.Facet
import SearchQuery.Payload.Hit

/-!
# Search responses

What the engine answers to a search: the number of documents found, some of them as hits, and
facets.
-/

namespace SearchQuery

structure Response where
  total : UInt64 := 0
  hits : List Hit := []
  facets : Facets := .empty
  deriving Inhabited

/-- The complaint of the engine, if the body is one: its own words, or the text of what it says
instead of words. -/
def engineComplaint? (body : Json) : Option String :=
  match body.member? "error" with
  | none => none
  | some .null => none
  | some (.string message) => if message.isEmpty then none else some message
  | some v => some v.text

namespace Response

def toJson (r : Response) : Json :=
  .object [("aggregations", r.facets.toJson),
    ("hits", .object [("hits", .array (r.hits.map Hit.toJson)), ("total", .ofWord r.total)])]

def hitsOfJson? (v : Json) : Option (UInt64 × List Hit) := do
  match ← v.fields? [("total", .defaulted), ("hits", .defaulted)] with
  | [total, hits] =>
    return (← Json.orDefault 0 Json.asWord? total,
      ← Json.orDefault [] (Json.listOf? Hit.ofJson?) hits)
  | _ => none

def ofBody? (body : Json) : Option Response := do
  match ← body.fields? [("hits", .defaulted), ("aggregations", .defaulted)] with
  | [hits, facets] =>
    let (total, hits) ← Json.orDefault (0, []) hitsOfJson? hits
    return { total, hits, facets := ← Json.orDefault .empty Facets.ofJson? facets }
  | _ => none

/-- Reads a body as a response.  It has to be an object, and the engine must not complain in it. -/
def ofJson (body : Json) : Except Error Response :=
  match engineComplaint? body with
  | some message => .error (.transport message)
  | none =>
    match body with
    | .object _ =>
      match ofBody? body with
      | some r => .ok r
      | none => .error (.malformedPayload .undecodable)
    | _ => .error (.malformedPayload .notAnObject)

end Response

end SearchQuery

import SearchQuery.Proofs.Json.Members
import SearchQuery.Request

/-!
# The members of a search body

A search body has a fixed row of members (`Request.fields`), of which those stand in it that have
something to say.

* `Request.member?_toJson`: what stands under each name.
* `Request.fields_eq_of_toJson`: one body comes from one row.
-/

namespace SearchQuery.Request

open Entries (Distinct)

def sortJson (key : SortKey) : Json :=
  .object [(key.field, .string key.direction.key)]

def aggregationsJson (aggregations : List (String × Aggregation)) : Json :=
  .ofMembers (aggregations.map fun a => (a.1, a.2.toJson))

def highlightJson : Json :=
  .object [("fields", .object [("*", .object [])])]

def matchAll : Json :=
  .object [("match_all", .object [])]

/-- The members of the search body, in their order, with those that are left out. -/
def fields (r : Request) : List (String × Option Json) :=
  [("index", some (.string r.index)),
    ("query", some r.queryJson),
    ("limit", r.limit.map .ofWord),
    ("offset", r.offset.map .ofWord),
    ("sort", if r.sort.isEmpty then none else some (.array (r.sort.map sortJson))),
    ("highlight", if r.highlight then some highlightJson else none),
    ("aggs", if r.aggregations.isEmpty then none else some (aggregationsJson r.aggregations)),
    ("options", r.maxMatches.map fun n => .object [("max_matches", .ofWord n)])]

theorem toJson_eq (r : Request) : r.toJson = .ofMembers (Json.present r.fields) := by
  have hmissing : ∀ (c : Bool) (name : String) (value : Json),
      (if c then none else some value).map (fun v => (name, v))
        = if c then none else some (name, value) := by
    intro c name value
    cases c <;> rfl
  have hthere : ∀ (c : Bool) (name : String) (value : Json),
      (if c then some value else none).map (fun v => (name, v))
        = if c then some (name, value) else none := by
    intro c name value
    cases c <;> rfl
  rw [toJson, Json.present_eq_filterMap, fields]
  simp only [List.map_cons, List.map_nil, Option.map_some, Option.map_map, hmissing, hthere]
  rfl

theorem names_fields (r : Request) : r.fields.map (·.1)
    = ["index", "query", "limit", "offset", "sort", "highlight", "aggs", "options"] :=
  rfl

theorem distinct_fields (r : Request) : Distinct r.fields := by
  rw [Distinct, names_fields]
  decide

/-- **What stands in a search body** under each name. -/
theorem member?_toJson (r : Request) (name : String) :
    r.toJson.member? name = (Entries.find? name r.fields).join := by
  rw [toJson_eq, Json.member?_present r.distinct_fields]

theorem fields_eq_of_toJson {r r' : Request} (h : r.toJson = r'.toJson) : r.fields = r'.fields := by
  rw [toJson_eq, toJson_eq] at h
  exact Json.eq_of_ofMembers_present rfl r.distinct_fields h

end SearchQuery.Request

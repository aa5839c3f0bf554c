import SearchQuery.Json.Basic

/-!
# Bodies of rows

A body that is not read as a whole: an object with hits, or an array of result sets.  `rowEntries`
finds the hits in either, and `rowTotal?` the number of documents that the engine has found.
-/

namespace SearchQuery

def Json.at? (v : Json) (outer inner : String) : Option Json :=
  (v.member? outer).bind (Json.member? inner)

/-- A row of a result set as a hit that has nothing but fields. -/
def rowEntry (row : Json) : Json :=
  .object [("_source", row)]

def setRows (set : Json) : List Json :=
  (((set.member? "data").bind Json.asArray?).getD []).map rowEntry

def rowEntries (body : Json) : List Json :=
  match (body.at? "hits" "hits").bind Json.asArray? with
  | some hits => hits
  | none =>
    match body with
    | .array sets => sets.flatMap setRows
    | _ => []

/-- The total that the body carries: its own, or the sum over the result sets that carry one. -/
def rowTotal? (body : Json) : Option UInt64 :=
  match (body.at? "hits" "total").bind Json.asWord? with
  | some total => some total
  | none =>
    match body with
    | .array sets =>
      match sets.filterMap fun set => (set.member? "total").bind Json.asWord? with
      | [] => none
      | first :: rest => some (rest.foldl (fun sum total => sum + total) first)
    | _ => none

end SearchQuery

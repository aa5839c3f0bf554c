import SearchQuery.Hydration
import SearchQuery.Record.Document
import SearchQuery.Proofs.Dictionary

/-!
# One hit in three shapes

A hit comes as an object, as an entry of a body of hits, or as a row of a result set, and each shape
has a reader of its own.  They agree on the record.

* `Hit.ofEntry_toJson`, `Hit.ofEntry_rowEntry`: what the readers of entries and rows see of a hit.
* `Tabulated.flatMap_setRows`: the rows of result sets are found in their order.
* `Document.shapes_agree`: the records of a response, of its hits in a body, and of its rows in
  result sets.
-/

namespace SearchQuery

/-! ### The shapes of a hit -/

def Response.hitsBody (total : Json) (hits : List Hit) : Json :=
  .object [("hits", .object [("hits", .array (hits.map Hit.toJson)), ("total", total)])]

/-- The row that an engine sends for the hit: its fields, with its identifier in place of a field
`id` unless it is blank. -/
def Hit.row (h : Hit) : Dictionary Json :=
  match h.id with
  | none => h.source
  | some id => if id.isBlank then h.source else h.source.insert "id" id

/-- The rows stand in their order in the data of result sets, with sets that have no data among
them. -/
inductive Tabulated : List Json → List Json → Prop where
  | nil : Tabulated [] []
  | data {set : Json} {rows others sets : List Json}
      (found : set.member? "data" = some (.array rows)) (rest : Tabulated others sets) :
      Tabulated (rows ++ others) (set :: sets)
  | skip {set : Json} {rows sets : List Json}
      (missing : ∀ data, set.member? "data" ≠ some (.array data)) (rest : Tabulated rows sets) :
      Tabulated rows (set :: sets)

theorem Tabulated.flatMap_setRows {rows sets : List Json} (h : Tabulated rows sets) :
    sets.flatMap setRows = rows.map rowEntry := by
  induction h with
  | nil => rfl
  | data found _ ih =>
    rw [List.flatMap_cons, List.map_append, ih, setRows, found]
    rfl
  | @skip set rows sets missing _ ih =>
    have hnone : (set.member? "data").bind Json.asArray? = none := by
      refine Option.eq_none_iff_forall_ne_some.mpr fun data hdata => ?_
      obtain ⟨v, hv, harray⟩ := Option.bind_eq_some_iff.mp hdata
      cases v with
      | array items => exact missing items hv
      | _ => exact nomatch harray
    rw [List.flatMap_cons, ih, setRows, hnone]
    rfl

/-! ### What the readers see -/

namespace Hit

theorem member?_toJson (h : Hit) :
    h.toJson.member? "_id" = some (h.id.getD .null) ∧ h.toJson.member? "id" = none
      ∧ h.toJson.member? "_source" = some (.ofDictionary h.source)
      ∧ h.toJson.member? "highlight" = h.highlight := by
  obtain ⟨id, score, source, highlight⟩ := h
  cases score <;> cases highlight <;> simp [toJson, Json.member?, Entries.find?]

theorem filter_getD_null (id : Option Json) :
    (some (id.getD .null)).filter (fun v => !v.isBlank) = id.filter fun v => !v.isBlank := by
  cases id <;> rfl

/-- Of a hit in a body its identifier is seen unless it is blank, and its score is not. -/
theorem ofEntry_toJson (h : Hit) :
    ofEntry h.toJson = {
      id := h.id.filter fun v => !v.isBlank
      source := h.source
      highlight := h.highlight } := by
  obtain ⟨hid, hnone, hsource, hhighlight⟩ := h.member?_toJson
  have hfields : Dictionary.ofList h.source.entries = h.source := h.source.ofList_entries
  rw [ofEntry, hsource, hhighlight, List.findSome?_cons, List.findSome?_cons, hid, hnone,
    filter_getD_null]
  simp only [Json.ofDictionary, hfields]
  cases h.id.filter fun v => !v.isBlank <;> rfl

theorem ofEntry_rowEntry (row : Dictionary Json) :
    ofEntry (rowEntry (.ofDictionary row)) = { source := row } := by
  have hfields : Dictionary.ofList row.entries = row := row.ofList_entries
  simp [rowEntry, ofEntry, Json.member?, Entries.find?, Json.ofDictionary, hfields]

theorem row_eq (h : Hit) : h.row = Schema.withId h.id h.source := by
  rw [row, Schema.withId]
  cases h.id with
  | none => rfl
  | some id => cases hblank : id.isBlank <;> simp [Option.filter_some, hblank]

end Hit

/-! ### The records -/

namespace Document

variable (prototype : Document)

theorem ofHit_eq (h : Hit) :
    Record.ofHit prototype h
      = { prototype.fill (prototype.schema.normalize h.id h.source h.highlight) with
          persisted := true } :=
  rfl

theorem normalize_filter (s : Schema) (id : Option Json) (data : Dictionary Json)
    (highlight : Option Json) :
    s.normalize (id.filter fun v => !v.isBlank) data highlight = s.normalize id data highlight := by
  have hid : Schema.withId (id.filter fun v => !v.isBlank) data = Schema.withId id data := by
    rw [Schema.withId, Schema.withId, Option.filter_filter]
    simp
  rw [Schema.normalize, Schema.normalize, hid]

theorem ofHit_entry (h : Hit) :
    Record.ofHit prototype (Hit.ofEntry h.toJson) = Record.ofHit prototype h := by
  rw [Hit.ofEntry_toJson, ofHit_eq, ofHit_eq]
  simp only [normalize_filter]

/-- The record of a row is that of the hit without a highlight. -/
theorem ofHit_row (h : Hit) :
    Record.ofHit prototype (Hit.ofEntry (rowEntry (.ofDictionary h.row)))
      = { Record.ofHit prototype h with highlight := none } := by
  rw [Hit.ofEntry_rowEntry, Hit.row_eq]
  rfl

/-- **One hit gives one record, whatever shape carries it**: an object, an entry of a body of hits,
or, without a highlight, a row of a result set. -/
theorem shapes_agree (response : Response) (total : Json) {sets : List Json}
    (h : Tabulated (response.hits.map fun hit => .ofDictionary hit.row) sets) :
    let records := Record.ofPayload prototype (.hits response)
    Record.ofPayload prototype (.rows (Response.hitsBody total response.hits)) = records
      ∧ Record.ofPayload prototype (.rows (.array sets))
        = records.map fun r => { r with highlight := none } := by
  intro records
  constructor
  · have hentries : rowEntries (Response.hitsBody total response.hits)
        = response.hits.map Hit.toJson := rfl
    rw [Record.ofPayload, hentries, Record.ofHits, List.map_map, List.map_map]
    exact List.map_congr_left fun hit _ => ofHit_entry prototype hit
  · have hentries : rowEntries (.array sets) = sets.flatMap setRows := rfl
    rw [Record.ofPayload, hentries, h.flatMap_setRows]
    have hrecords : records = response.hits.map (Record.ofHit prototype) := rfl
    rw [hrecords, List.map_map, Record.ofHits, List.map_map, List.map_map, List.map_map]
    exact List.map_congr_left fun hit _ => ofHit_row prototype hit

/-- Hits with a blank identifier, one that comes with a field `id` of its own and one whose
highlight is empty, in two sets of rows with a set between them that has none. -/
theorem shapes_agree_mixed :
    let prototype : Document := { declared := {
      primaryKey := "key", fillable := ["Title"], overrides := [("NAME", "name")],
      casts := [("key", .dateTime)] }, highlight := some (.string "old") }
    let blank : Hit := { id := some (.string " "), source := .ofList [("title", .string "a")] }
    let own : Hit := {
      id := some (.ofInt 7), source := .ofList [("id", .ofInt 9), ("Name", .null)] }
    let empty : Hit := { id := some (.string "x"), highlight := some (.object []) }
    let response : Response := { total := 3, hits := [blank, own, empty] }
    let set (rows : List Json) : Json := .object [("data", .array rows), ("total", .ofInt 2)]
    let row (hit : Hit) : Json := .ofDictionary hit.row
    let sets := [set [row blank, row own], .object [("warning", .string "")], set [row empty]]
    let records := Record.ofPayload prototype (.hits response)
    Tabulated (response.hits.map fun hit => .ofDictionary hit.row) sets
      ∧ Record.ofPayload prototype (.rows (Response.hitsBody (.ofInt 3) response.hits)) = records
      ∧ Record.ofPayload prototype (.rows (.array sets))
        = records.map fun r => { r with highlight := none } := by
  intro prototype blank own empty response set row sets records
  have htabulated : Tabulated ([row blank, row own] ++ ([row empty] ++ [])) sets :=
    .data rfl (.skip (fun data h => nomatch h) (.data rfl .nil))
  exact ⟨htabulated, shapes_agree prototype response (.ofInt 3) htabulated⟩

end Document

end SearchQuery

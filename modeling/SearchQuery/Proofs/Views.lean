import SearchQuery.Record.Document
import SearchQuery.Session
import SearchQuery.Proofs.Json.Text

/-!
# Operations as views of what is found

Each operation sends a query of its own, and yet all of them bring the same records or fail in the
same way: the window of a query decides neither the way that it goes nor the answer.

* `Session.execute_plan_congr`: what a query brings depends on its way only.
* `Document.map_fetch`: what one sees of `get`, one sees of any query that goes the same way.
* `Document.read?_texts`: the text of documents is read as their values.
* `Session.views_of_get`: the operations show what `get` brings.
-/

namespace SearchQuery

namespace Session

variable {κ : Type}

/-- Queries that go the same way bring the same. -/
theorem execute_plan_congr {α : Type} [Record α] (s : Session κ α) {p q : Query κ}
    (hraw : p.raw = q.raw) (htabular : p.isTabular = q.isTabular) :
    (s.execute (p.plan s.index s.settings)).1 = (s.execute (q.plan s.index s.settings)).1 := by
  rw [Query.plan, Query.plan, hraw, htabular]
  cases q.raw with
  | some raw => rfl
  | none => cases q.isTabular <;> rfl

end Session

namespace Document

variable {κ : Type} (s : Session κ Document)

/-- Documents have no relations, so that loading them cannot fail. -/
theorem loadRelations_eq (q : Query κ) (records : List Document) :
    (s.loadRelations q records).1 = .ok records := by
  rw [Session.loadRelations]
  dsimp only
  split <;> rfl

theorem fetch_eq (q : Query κ) (operation : Operation) :
    (s.fetch q operation).1 = (s.execute (q.plan s.index s.settings)).1 := by
  rw [Session.fetch]
  obtain ⟨result, sent⟩ := s.execute (q.plan s.index s.settings)
  cases result with
  | error e => rfl
  | ok fetched =>
    have hloaded : (sent.loadRelations q fetched.records).1 = .ok fetched.records :=
      loadRelations_eq sent q fetched.records
    dsimp only
    rw [hloaded]
    rfl

/-- Of any query that goes the same way, one sees what one sees of `get`. -/
theorem map_fetch {β : Type} (view : List Document → β) (q : Query κ) (hraw : q.raw = s.query.raw)
    (htabular : q.isTabular = s.query.isTabular) (operation : Operation) :
    (s.fetch q operation).1.map (fun fetched => view fetched.records) = s.get.1.map view := by
  rw [Session.get, Session.mapResult, fetch_eq, fetch_eq, s.execute_plan_congr hraw htabular]
  cases (s.execute (s.query.plan s.index s.settings)).1 <;> rfl

theorem items_paginate (perPage page : UInt64) :
    (s.paginate perPage page).1.map Page.items = s.get.1 := by
  let q := Session.pageQuery s.query (if perPage = 0 then defaultPerPage else perPage) (max page 1)
  calc
    (s.paginate perPage page).1.map Page.items
      = (s.fetch q .paginate).1.map fun fetched => id fetched.records := by
        rw [Session.paginate, Session.mapResult]
        cases (s.fetch q .paginate).1 <;> rfl
    _ = s.get.1.map id := map_fetch s id q rfl rfl .paginate
    _ = s.get.1 := by cases s.get.1 <;> rfl

/-- **The text of documents is read as their values**, if the values in them are read back. -/
theorem read?_texts {depth : Nat} {records : List Document}
    (h : ∀ r ∈ records, ∀ m ∈ r.members, Json.read? depth m.2.text.toList = some m.2) :
    Json.read? (depth + 2) (Json.array (records.map Record.inOrder)).text.toList
      = some (.array (records.map Record.toJson)) :=
  Json.read?_array fun r hr => Json.read?_object (h r hr)

end Document

namespace Session

variable {κ : Type}

/-- What the operations show of the records that `get` brings, or of its failure.  The text is read
as the values of the records, if the values in them are read back from texts of their own. -/
structure Views (s : Session κ Document) : Prop where
  first : s.first.1 = s.get.1.map (·.head?)
  last : s.last.1 = s.get.1.map (·.getLast?)
  count : s.count.1 = s.get.1.map (·.length)
  paginate (perPage page : UInt64) : (s.paginate perPage page).1.map Page.items = s.get.1
  toArray : s.toArray.1 = s.get.1.map (·.map Record.toJson)
  pluck (member : String) :
    (s.pluck member).1 = s.toArray.1.map (·.map fun v => (v.member? member).getD .null)
  toText {depth : Nat} (hread : ∀ records, s.get.1 = .ok records → ∀ r ∈ records,
      ∀ m ∈ r.members, Json.read? depth m.2.text.toList = some m.2) :
    s.toText.1.map (fun text => Json.read? (depth + 2) text.toList)
      = s.toArray.1.map fun values => some (.array values)

/-- **The operations are views of `get`.** -/
theorem views_of_get (s : Session κ Document) : s.Views where
  first := Document.map_fetch s _ { s.query with limit := some 1 } rfl rfl .first
  last := Document.map_fetch s _ s.query rfl rfl .last
  count := Document.map_fetch s _ s.query rfl rfl .count
  paginate := Document.items_paginate s
  toArray := rfl
  pluck _ := rfl
  toText {depth} hread := by
    rw [Session.toText, Session.toArray, mapResult, mapResult]
    cases hget : s.get.1 with
    | error e => rfl
    | ok records =>
      have htext := Document.read?_texts (hread records hget)
      exact congrArg Except.ok htext

/-- Of two documents the first has an attribute of the name that its highlight takes in the text,
and one that became a time. -/
theorem views_of_get_shadowed :
    let hit : Hit := {
      id := some (.ofInt 7)
      source := .ofList [("Title", .string "a\"\n"), ("highlight", .string "own"),
        ("seen", .ofInt 1700000000), ("tags", .array [.ofInt (-1), .null])]
      highlight := some (.object [("title", .array [.string "a"])]) }
    let s : Session Unit Document := {
      prototype := { declared := { fillable := ["title"], casts := [("seen", .dateTime)] } }
      transport := { response := { total := 9, hits := [hit, {}] } } }
    let records := s.get.1.toOption.getD []
    records.map (fun r => (r.members.map (·.1)).count "highlight") = [2, 0]
      ∧ (∀ records, s.get.1 = .ok records → ∀ r ∈ records, ∀ m ∈ r.members,
          Json.read? 2 m.2.text.toList = some m.2)
      ∧ s.toText.1.map (fun text => Json.read? 4 text.toList)
          = s.toArray.1.map fun values => some (.array values) := by
  intro hit s records
  have hplain : records.all (fun r => r.members.all fun m => m.2.isPlain 2) = true := by
    decide +kernel
  have hread : ∀ records, s.get.1 = .ok records → ∀ r ∈ records, ∀ m ∈ r.members,
      Json.read? 2 m.2.text.toList = some m.2 := by
    intro found hget r hr m hm
    have hfound : records = found := congrArg (fun result => result.toOption.getD []) hget
    rw [hfound] at hplain
    exact Json.read?_of_isPlain m.2 (List.all_eq_true.mp (List.all_eq_true.mp hplain r hr) m hm)
  exact ⟨by decide +kernel, hread, (views_of_get s).toText hread⟩

end Session

end SearchQuery

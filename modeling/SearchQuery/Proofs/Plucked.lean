import SearchQuery.Record.Document
import SearchQuery.Session
import SearchQuery.Proofs.Dictionary

/-!
# What is plucked of documents

A document shows an attribute in two ways: by itself, and as a member of its JSON value, from which
attributes are plucked.  Both show the attribute's own JSON value, but a time has its zone as an
offset in the one and as a letter in the other.

* `Document.member?_toJson`: the members of a document are its attributes, the highlight apart.
* `Document.plucked_eq_value?_iff`: when the two ways agree.
* `Session.pluck_eq_value_iff`: what is plucked of all records that a query finds.
-/

namespace SearchQuery

def AttributeValue.isTimestamp : AttributeValue → Bool
  | .timestamp _ => true
  | .json _ => false

/-- A value by itself is written as in a record, unless it is a time: the zone is an offset in one
place and a letter in the other. -/
theorem AttributeValue.inRecord_eq_toJson_iff (v : AttributeValue) :
    v.inRecord = v.toJson ↔ v.isTimestamp = false := by
  cases v with
  | json v => simp [inRecord, toJson, isTimestamp]
  | timestamp t =>
    refine iff_of_false (fun h => ?_) (by simp [isTimestamp])
    have htext : t.dateTime ++ "Z" = t.dateTime ++ "+00:00" := Json.string.inj h
    exact absurd ((String.append_right_inj _).mp htext) (by decide)

namespace Document

theorem member?_toJson (d : Document) {name : String} (h : name ≠ "highlight") :
    (Record.toJson d).member? name = (d.get? name).map AttributeValue.inRecord := by
  let attributes := d.attributes.mapValues fun _ v => v.inRecord
  let highlight := d.highlight.toList.map fun v => ("highlight", v)
  have hmembers : Record.members d = attributes.entries ++ highlight := rfl
  have hdistinct : Entries.Distinct highlight := by
    cases hd : d.highlight <;> simp [highlight, hd, Entries.Distinct]
  have hother : Entries.find? name highlight = none := by
    refine Entries.find?_eq_none_iff.mpr fun e he hname => h ?_
    obtain ⟨v, -, rfl⟩ := List.mem_map.mp he
    exact hname.symm
  have hlist : Dictionary.ofList (attributes.entries ++ highlight)
      = attributes.insertAll highlight := by
    rw [Dictionary.ofList, Dictionary.insertAll, List.foldl_append]
    exact congrArg (Dictionary.insertAll · highlight) attributes.ofList_entries
  calc
    (Record.toJson d).member? name
      = (Dictionary.ofList (attributes.entries ++ highlight)).get? name := by
        rw [Record.toJson, hmembers, Json.ofMembers, Json.member?, Dictionary.get?,
          Dictionary.entries_ofList]
    _ = attributes.get? name := by
        rw [hlist, Dictionary.get?_insertAll attributes hdistinct, hother, Option.none_or]
    _ = (d.get? name).map AttributeValue.inRecord := Dictionary.get?_mapValues _ d.attributes name

/-- What is plucked of a document: the attribute as it stands, a time with its zone as a letter, and
`null` where there is no attribute. -/
def plucked (d : Document) (name : String) : Json :=
  match d.get? name with
  | some (.json v) => v
  | some (.timestamp t) => .string (t.dateTime ++ "Z")
  | none => .null

theorem plucked_eq (d : Document) (name : String) :
    d.plucked name = ((d.get? name).map AttributeValue.inRecord).getD .null := by
  rw [plucked]
  cases d.get? name with
  | none => rfl
  | some v => cases v <;> rfl

theorem plucked_eq_value?_iff (d : Document) (name : String) :
    d.plucked name = (d.value? name).getD .null
      ↔ (d.get? name).any AttributeValue.isTimestamp = false := by
  rw [plucked_eq, value?]
  cases d.get? name with
  | none => simp
  | some v => simpa using v.inRecord_eq_toJson_iff

end Document

namespace Session

/-- **What is plucked of the records that `get` brings**, and when it is what they say of
themselves: exactly if the attribute is a time in none of them. -/
theorem pluck_eq_value_iff {κ : Type} (s : Session κ Document) {name : String}
    (h : name ≠ "highlight") :
    (s.pluck name).1 = s.get.1.map (·.map fun d => d.plucked name)
      ∧ ((s.pluck name).1 = s.get.1.map (·.map fun d => (d.value? name).getD .null)
        ↔ ∀ records, s.get.1 = .ok records → ∀ d ∈ records,
          (d.get? name).any AttributeValue.isTimestamp = false) := by
  have hplucked : (s.pluck name).1 = s.get.1.map (·.map fun d => d.plucked name) := by
    rw [pluck, mapResult, toArray, mapResult]
    cases s.get.1 with
    | error e => rfl
    | ok records =>
      refine congrArg Except.ok ?_
      dsimp only
      rw [List.map_map]
      refine List.map_congr_left fun d _ => ?_
      rw [d.plucked_eq, ← d.member?_toJson h]
      rfl
  refine ⟨hplucked, ?_⟩
  rw [hplucked]
  cases s.get.1 with
  | error e => simp [Except.map]
  | ok records =>
    simp only [Except.map, Except.ok.injEq, forall_eq', List.map_inj_left,
      Document.plucked_eq_value?_iff]

/-- Of two documents one has the attribute and the other has not, beside a highlight and a time. -/
theorem pluck_eq_value_iff_missing :
    let s : Session Unit Document := {
      prototype := { declared := { fillable := ["title"], casts := [("seen", .dateTime)] } }
      transport := { response := { hits := [
        { source := .ofList [("Title", .string "a"), ("seen", .ofInt 0)]
          highlight := some (.string "b") }, {}] } } }
    "title" ≠ "highlight"
      ∧ (s.pluck "title").1.toOption.map (·.map Json.asString?) = some [some "a", none]
      ∧ (s.pluck "title").1 = s.get.1.map (·.map fun d => (d.value? "title").getD .null) := by
  intro s
  have hname : "title" ≠ "highlight" := by decide
  refine ⟨hname, by decide +kernel, (pluck_eq_value_iff s hname).2.mpr ?_⟩
  intro records hget d hd
  have hnone : (s.get.1.toOption.getD []).any
      (fun d => (d.get? "title").any AttributeValue.isTimestamp) = false := by decide +kernel
  have hfound : s.get.1.toOption.getD [] = records := by rw [hget]; rfl
  rw [hfound, List.any_eq_false] at hnone
  exact Bool.eq_false_iff.mpr (hnone d hd)

/-- A time is plucked with its zone as a letter, but the document itself shows an offset. -/
theorem pluck_ne_value_of_time :
    let s : Session Unit Document := {
      prototype := { declared := { casts := [("seen", .dateTime)] } }
      transport := { response := { hits := [
        { source := .ofList [("seen", .ofInt 1700000000)] }] } } }
    let values := s.get.1.map (·.map fun d => (d.value? "seen").getD .null)
    (s.pluck "seen").1.toOption.map (·.map Json.asString?) = some [some "2023-11-14T22:13:20Z"]
      ∧ values.toOption.map (·.map Json.asString?) = some [some "2023-11-14T22:13:20+00:00"]
      ∧ (s.pluck "seen").1 ≠ values := by
  intro s values
  have hplucked : (s.pluck "seen").1.toOption.map (·.map Json.asString?)
      = some [some "2023-11-14T22:13:20Z"] := by decide +kernel
  have hvalues : values.toOption.map (·.map Json.asString?)
      = some [some "2023-11-14T22:13:20+00:00"] := by decide +kernel
  refine ⟨hplucked, hvalues, fun h => ?_⟩
  rw [h, hvalues] at hplucked
  exact absurd hplucked (by decide)

end Session

end SearchQuery

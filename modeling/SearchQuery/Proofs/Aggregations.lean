import SearchQuery.Proofs.Body
import SearchQuery.Proofs.Calls
import SearchQuery.Proofs.Wishes
import SearchQuery.Record.Document

/-!
# The aggregations of a run

A query keeps its aggregations as a list of names and values.  An aggregation that is registered
under a name of the list takes the place of the one that was there, any other goes to the end.  So
the list has each name once, where it was registered first, with the value that was registered last,
and the search body, which has members in the order of their names, has one for each of them.

What is registered is read off the steps of a run (`Step.registration?`); it does not matter what
else is wished or sent in between, nor what is refused.

* `names_setNamed`, `find?_setNamed`: one registration.
* `names_namedOf`, `find?_namedOf`: all registrations.
* `Step.aggregations_foldl_query`: the steps of a run register what they say and leave the
  aggregations alone otherwise.
* `Request.member?_aggs`: what a search body says of them.
* `Session.aggregations_of_run`: the aggregations after a run, in the query and in the search body.
-/

namespace SearchQuery

open Entries (Distinct)

/-! ### Values put under names -/

section Named

variable {α : Type}

theorem names_setNamed (name : String) (value : α) (entries : List (String × α)) :
    (setNamed name value entries).map (·.1)
      = if name ∈ entries.map (·.1) then entries.map (·.1) else entries.map (·.1) ++ [name] := by
  induction entries with
  | nil => rfl
  | cons e rest ih =>
    obtain ⟨k, v⟩ := e
    by_cases hk : k = name
    · simp [setNamed, hk]
    · have hne : name ≠ k := Ne.symm hk
      rw [setNamed, if_neg hk, List.map_cons, ih, List.map_cons]
      simp only [List.mem_cons, hne, false_or]
      split <;> rfl

theorem find?_setNamed (name : String) (value : α) (n : String) (entries : List (String × α)) :
    Entries.find? n (setNamed name value entries)
      = if name = n then some value else Entries.find? n entries := by
  induction entries with
  | nil => rfl
  | cons e rest ih =>
    obtain ⟨k, v⟩ := e
    rw [setNamed]
    split
    · next hk =>
      subst hk
      by_cases hn : k = n <;> simp [Entries.find?, hn]
    · next hk =>
      rw [Entries.find?, Entries.find?, ih]
      by_cases hn : k = n
      · rw [if_pos hn, if_pos hn, if_neg fun h => hk (hn.trans h.symm)]
      · rw [if_neg hn, if_neg hn]

theorem namedOf_append (registrations more : List (String × α)) :
    namedOf (registrations ++ more)
      = more.foldl (fun entries r => setNamed r.1 r.2 entries) (namedOf registrations) :=
  List.foldl_append

/-- **The names stand in the order in which they were registered first.** -/
theorem names_namedOf (registrations : List (String × α)) :
    (namedOf registrations).map (·.1) = (registrations.map (·.1)).eraseDups := by
  induction registrations using List.reverseRecOn with
  | nil => rfl
  | append_singleton rest r ih =>
    have hmem : r.1 ∈ (rest.map (·.1)).eraseDups ↔ r.1 ∈ rest.map (·.1) := List.mem_eraseDups
    rw [namedOf_append, List.foldl_cons, List.foldl_nil, names_setNamed, ih, List.map_append,
      List.eraseDups_append]
    by_cases h : r.1 ∈ rest.map (·.1)
    · rw [if_pos (hmem.mpr h)]
      simp [List.removeAll, h]
    · rw [if_neg (mt hmem.mp h)]
      simp [List.removeAll, h, List.eraseDups_cons]

/-- **Under a name stands what was registered last.** -/
theorem find?_namedOf (name : String) (registrations : List (String × α)) :
    Entries.find? name (namedOf registrations) = Entries.find? name registrations.reverse := by
  induction registrations using List.reverseRecOn with
  | nil => rfl
  | append_singleton rest r ih =>
    rw [namedOf_append, List.foldl_cons, List.foldl_nil, find?_setNamed, ih, List.reverse_append,
      List.reverse_singleton, List.singleton_append, Entries.find?]

theorem namedOf_eq_nil_iff {registrations : List (String × α)} :
    namedOf registrations = [] ↔ registrations = [] := by
  rw [← List.map_eq_nil_iff, names_namedOf]
  cases registrations with
  | nil => simp
  | cons r rest => simp [List.eraseDups_cons]

end Named

/-! ### What steps register -/

variable {κ : Type}

namespace Step

def registration? : Step κ → Option (String × Aggregation)
  | .edit e => e.aggregation?
  | .run _ => none

/-- **Steps register what they say**, and leave the aggregations alone otherwise. -/
theorem aggregations_foldl_query {q : Query κ} {registered : List (String × Aggregation)}
    (h : q.aggregations = namedOf registered) (steps : List (Step κ)) :
    (steps.foldl Step.query q).aggregations
      = namedOf (registered ++ steps.filterMap registration?) := by
  have hregistration : (registration? : Step κ → _)
      = fun step => step.edit?.bind Edit.aggregation? := by
    funext step
    cases step <;> rfl
  have htests : ∀ e : Edit κ, e.clauseList? ≠ none → e.aggregation? = none := by
    intro e hlist
    cases e with
    | aggregate name field size => exact absurd rfl hlist
    | _ => rfl
  rw [foldl_query, namedOf_append, ← h, hregistration, ← filterMap_granted htests]
  rfl

end Step

/-! ### Aggregations in search bodies -/

theorem Request.member?_aggs (r : Request) :
    r.toJson.member? "aggs"
      = if r.aggregations.isEmpty then none else some (aggregationsJson r.aggregations) := by
  rw [member?_toJson]
  rfl

namespace Session

variable {α : Type} [Record α] [Related κ α]

/-- **The aggregations after a run**, by what was registered before it and in it: each name once,
where it was registered first, with the value that was registered last.  A search body has exactly
these as members, each under its name, and says nothing of aggregations if none was registered. -/
theorem aggregations_of_run (s : Session κ α) {earlier : List (String × Aggregation)}
    (h : s.query.aggregations = namedOf earlier) (steps : List (Step κ)) :
    let registered := earlier ++ steps.filterMap Step.registration?
    let aggregations := (s.run steps).query.aggregations
    let body := (s.run steps).request.toJson
    Distinct aggregations
      ∧ aggregations.map (·.1) = (registered.map (·.1)).eraseDups
      ∧ (∀ name, Entries.find? name aggregations = Entries.find? name registered.reverse)
      ∧ (body.member? "aggs" = none ↔ registered = [])
      ∧ ∀ aggs, body.member? "aggs" = some aggs → ∃ members, aggs = .object members
        ∧ Distinct members
        ∧ ∀ name, Entries.find? name members
          = (Entries.find? name registered.reverse).map Aggregation.toJson := by
  intro registered aggregations body
  have hrun : aggregations = namedOf registered := by
    show (s.run steps).query.aggregations = _
    rw [(s.run_effect steps).query]
    exact Step.aggregations_foldl_query h steps
  have hdistinct : Distinct aggregations := by
    rw [hrun]
    exact distinct_namedOf registered
  have hbody : body.member? "aggs"
      = if aggregations.isEmpty then none else some (Request.aggregationsJson aggregations) :=
    Request.member?_aggs _
  have hfind : ∀ name,
      Entries.find? name aggregations = Entries.find? name registered.reverse := by
    intro name
    rw [hrun, find?_namedOf]
  refine ⟨hdistinct, by rw [hrun, names_namedOf], hfind, ?_, fun aggs haggs => ?_⟩
  · rw [hbody, ← namedOf_eq_nil_iff, ← hrun]
    cases aggregations <;> simp
  · rw [hbody] at haggs
    split at haggs
    · exact nomatch haggs
    · obtain rfl := Option.some.inj haggs
      refine ⟨_, rfl, (Entries.sorted_ofList _).distinct, fun name => ?_⟩
      rw [← hfind]
      exact Request.member?_aggregationsJson hdistinct name

/-- Among other wishes and operations, one name is registered again and another later comes first in
the alphabet. -/
theorem aggregations_of_run_again :
    let s : Session Unit Document := { prototype := { declared := {} } }
    let steps : List (Step Unit) := [.edit (.limit 5), .edit (.aggregate "years" "year" none),
      .run .facets, .edit (.whereOp "year" "~" (.integer 4)),
      .edit (.aggregate "tags" "tag" (some 3)), .edit (.aggregate "years" "date" (some 10)),
      .run .count]
    let aggregations := (s.run steps).query.aggregations
    s.query.aggregations = namedOf []
      ∧ aggregations.map (·.1) = ["years", "tags"]
      ∧ Entries.find? "years" aggregations = some ⟨"date", some 10⟩
      ∧ (s.run steps).request.toJson.member? "aggs" ≠ none := by
  intro s steps aggregations
  have h : s.query.aggregations = namedOf [] := rfl
  obtain ⟨-, hnames, hfind, hnone, -⟩ := s.aggregations_of_run h steps
  refine ⟨h, hnames, hfind "years", fun hmissing => ?_⟩
  exact absurd (hnone.mp hmissing) (by simp [steps, Step.registration?])

end Session

end SearchQuery

import SearchQuery.Proofs.Answers
import SearchQuery.Proofs.Pagination
import SearchQuery.Proofs.Response

/-!
# The total of a page

A body may state how many documents were found: one number beside its hits, or a number in each
result set (`StatesTotal`).  The total of a page is what the body states.  If it states nothing, the
way decides: a body of rows then has the number of its items, and an object of hits has none, since
its total was read as zero where it is missing.

* `rowTotal?_of_statesTotal`, `rowTotal?_eq_none`: the total of a body of rows.
* `Response.stated_or_zero`: the total of an object of hits.
* `Session.total_of_paginate`: the total of a page.
-/

namespace SearchQuery

/-! ### What a body states -/

/-- The totals stand in their order in result sets, with sets among them that have none. -/
inductive Counted : List UInt64 → List Json → Prop where
  | nil : Counted [] []
  | total {set : Json} {total : UInt64} {totals : List UInt64} {sets : List Json}
      (found : set.member? "total" = some (.ofWord total)) (rest : Counted totals sets) :
      Counted (total :: totals) (set :: sets)
  | skip {set : Json} {totals : List UInt64} {sets : List Json}
      (missing : ∀ total, set.member? "total" ≠ some (.ofWord total)) (rest : Counted totals sets) :
      Counted totals (set :: sets)

/-- The body states a total: beside its hits, or as the sum over its result sets, at least one of
which has a total. -/
inductive StatesTotal : Json → Nat → Prop where
  | hits {body hits : Json} {total : UInt64} (found : body.member? "hits" = some hits)
      (stated : hits.member? "total" = some (.ofWord total)) : StatesTotal body total.toNat
  | sets {totals : List UInt64} {sets : List Json} (counted : Counted totals sets)
      (stated : totals ≠ []) : StatesTotal (.array sets) (totals.map UInt64.toNat).sum

theorem Counted.filterMap_total {totals : List UInt64} {sets : List Json}
    (h : Counted totals sets) :
    sets.filterMap (fun set => (set.member? "total").bind Json.asWord?) = totals := by
  induction h with
  | nil => rfl
  | @total set total totals sets found _ ih =>
    have hread : (set.member? "total").bind Json.asWord? = some total := by
      rw [found, Option.bind_some, Json.asWord?_ofWord]
    simp only [List.filterMap_cons, hread, ih]
  | @skip set totals sets missing _ ih =>
    have hread : (set.member? "total").bind Json.asWord? = none := by
      refine Option.eq_none_iff_forall_ne_some.mpr fun total htotal => ?_
      obtain ⟨v, hv, hword⟩ := Option.bind_eq_some_iff.mp htotal
      rw [Json.asWord?_eq_some_iff.mp hword] at hv
      exact missing total hv
    simp only [List.filterMap_cons, hread, ih]

theorem exists_counted (sets : List Json) : ∃ totals, Counted totals sets := by
  induction sets with
  | nil => exact ⟨[], .nil⟩
  | cons set sets ih =>
    obtain ⟨totals, hrest⟩ := ih
    by_cases h : ∃ total, set.member? "total" = some (.ofWord total)
    · obtain ⟨total, hfound⟩ := h
      exact ⟨total :: totals, .total hfound hrest⟩
    · exact ⟨totals, .skip (fun total hfound => h ⟨total, hfound⟩) hrest⟩

/-! ### Bodies of rows -/

/-- A sum of words is exact as long as it is one. -/
theorem toNat_sum_words {first : UInt64} {rest : List UInt64}
    (h : ((first :: rest).map UInt64.toNat).sum < UInt64.size) :
    (rest.foldl (fun sum total => sum + total) first).toNat
      = ((first :: rest).map UInt64.toNat).sum := by
  induction rest generalizing first with
  | nil => simp
  | cons next rest ih =>
    -- The first two words are one number of the sum that is left.
    simp only [List.map_cons, List.sum_cons, UInt64.size] at h ih ⊢
    have hadd : (first + next).toNat = first.toNat + next.toNat := by
      rw [UInt64.toNat_add, Nat.mod_eq_of_lt (by omega)]
    rw [List.foldl_cons, ih (by omega), hadd, Nat.add_assoc]

theorem at?_array (sets : List Json) (outer inner : String) :
    (Json.array sets).at? outer inner = none :=
  rfl

theorem rowTotal?_of_statesTotal {body : Json} {n : Nat} (h : StatesTotal body n)
    (hn : n < UInt64.size) : ∃ total, rowTotal? body = some total ∧ total.toNat = n := by
  cases h with
  | @hits _ hits total found stated =>
    have hread : (body.at? "hits" "total").bind Json.asWord? = some total := by
      rw [Json.at?, found, Option.bind_some, stated, Option.bind_some, Json.asWord?_ofWord]
    refine ⟨total, ?_, rfl⟩
    unfold rowTotal?
    rw [hread]
  | @sets totals sets counted stated =>
    cases totals with
    | nil => exact absurd rfl stated
    | cons first rest =>
      refine ⟨rest.foldl (fun sum total => sum + total) first, ?_, toNat_sum_words hn⟩
      unfold rowTotal?
      rw [at?_array, Option.bind_none]
      dsimp only
      rw [counted.filterMap_total]

theorem rowTotal?_eq_none {body : Json} (h : ∀ n, ¬ StatesTotal body n) :
    rowTotal? body = none := by
  have hhits : (body.at? "hits" "total").bind Json.asWord? = none := by
    refine Option.eq_none_iff_forall_ne_some.mpr fun total htotal => ?_
    obtain ⟨v, hv, hword⟩ := Option.bind_eq_some_iff.mp htotal
    obtain ⟨hits, hfound, hstated⟩ := Option.bind_eq_some_iff.mp hv
    rw [Json.asWord?_eq_some_iff.mp hword] at hstated
    exact h _ (.hits hfound hstated)
  unfold rowTotal?
  rw [hhits]
  cases body with
  | array sets =>
    obtain ⟨totals, hcounted⟩ := exists_counted sets
    have hnone : totals = [] := by
      by_contra hstated
      exact h _ (.sets hcounted hstated)
    dsimp only
    rw [hcounted.filterMap_total, hnone]
  | _ => rfl

/-! ### Objects of hits -/

/-- The hits, if there are any, are an object. -/
def HitsInObject (body : Json) : Prop :=
  ∀ hits, body.member? "hits" = some hits → ∃ ms, hits = .object ms

/-- An object of hits has the total that stands beside its hits, and zero if there is none. -/
theorem Response.stated_or_zero {body : Json} {r : Response} (h : ofJson body = .ok r)
    (hform : HitsInObject body) :
    body.at? "hits" "total" = some (.ofWord r.total)
      ∨ (body.at? "hits" "total" = none ∧ r.total = 0) := by
  obtain ⟨-, ⟨members, rfl⟩, hread⟩ := ofJson_eq_ok_iff.mp h
  obtain ⟨hits, facets, hfound, hinner, -⟩ := ofBody?_eq_some_iff.mp hread
  have hhits : (Json.object members).member? "hits" = hits := by
    rw [Json.fields?, Json.named?_eq members (by simp)] at hfound
    exact (List.cons.inj (Option.some.inj hfound)).1
  rcases Json.orDefault_eq_some_iff.mp hinner with ⟨rfl, hdefault⟩ | ⟨v, rfl, hv⟩
  · refine .inr ⟨?_, (Prod.mk.inj hdefault).1⟩
    rw [Json.at?, hhits, Option.bind_none]
  · obtain ⟨inner, rfl⟩ := hform v hhits
    obtain ⟨total, items, hfound, htotal, -⟩ := hitsOfJson?_eq_some_iff.mp hv
    have hat : (Json.object members).at? "hits" "total" = total := by
      rw [Json.fields?, Json.named?_eq inner (by simp)] at hfound
      rw [Json.at?, hhits, Option.bind_some]
      exact (List.cons.inj (Option.some.inj hfound)).1
    rw [hat]
    rcases Json.orDefault_eq_some_iff.mp htotal with ⟨rfl, hzero⟩ | ⟨w, rfl, hw⟩
    · -- The reader puts zero in the place of a total that is missing.
      exact .inr ⟨rfl, hzero⟩
    · exact .inl (congrArg some (Json.asWord?_eq_some_iff.mp hw))

theorem StatesTotal.at?_object {members : List (String × Json)} {n : Nat}
    (h : StatesTotal (.object members) n) :
    ∃ total : UInt64, (Json.object members).at? "hits" "total" = some (.ofWord total)
      ∧ total.toNat = n := by
  cases h with
  | @hits _ hits total found stated =>
    refine ⟨total, ?_, rfl⟩
    rw [Json.at?, found, Option.bind_some, stated]

/-! ### Payloads -/

namespace Payload

variable {mode : AnswerMode} {body : Json} {payload : Payload}

theorem eq_rows_of_ofJson (h : ofJson .array body = .ok payload) : payload = .rows body := by
  unfold ofJson at h
  cases hcomplaint : engineComplaint? body with
  | some message =>
    rw [hcomplaint] at h
    exact nomatch h
  | none =>
    rw [hcomplaint] at h
    cases body with
    | object members => exact (Except.ok.inj h).symm
    | array items => exact (Except.ok.inj h).symm
    | _ => exact nomatch h

theorem total?_of_statesTotal (h : ofJson mode body = .ok payload) (hform : HitsInObject body)
    {n : Nat} (hstates : StatesTotal body n) (hn : n < UInt64.size) :
    ∃ total, payload.total? = some total ∧ total.toNat = n := by
  cases mode with
  | array =>
    rw [eq_rows_of_ofJson h]
    exact rowTotal?_of_statesTotal hstates hn
  | object =>
    obtain ⟨r, hread, rfl⟩ := Response.payload_eq_ok_iff.mp h
    obtain ⟨-, ⟨members, rfl⟩, -⟩ := Response.ofJson_eq_ok_iff.mp hread
    obtain ⟨total, hat, hn⟩ := hstates.at?_object
    rcases Response.stated_or_zero hread hform with hstated | ⟨hnone, -⟩
    · rw [hat, Option.some.injEq] at hstated
      exact ⟨r.total, rfl, Json.ofWord_injective hstated ▸ hn⟩
    · rw [hat] at hnone
      exact nomatch hnone

/-- If its body states none, a body of rows has no total and an object of hits has zero. -/
theorem total?_of_not_statesTotal (h : ofJson mode body = .ok payload) (hform : HitsInObject body)
    (hstates : ∀ n, ¬ StatesTotal body n) :
    (mode = .array → payload.total? = none) ∧ (mode = .object → payload.total? = some 0) := by
  constructor
  · rintro rfl
    rw [eq_rows_of_ofJson h]
    exact rowTotal?_eq_none hstates
  · rintro rfl
    obtain ⟨r, hread, rfl⟩ := Response.payload_eq_ok_iff.mp h
    rcases Response.stated_or_zero hread hform with hstated | ⟨-, hzero⟩
    · obtain ⟨hits, hfound, htotal⟩ := Option.bind_eq_some_iff.mp hstated
      exact absurd (.hits hfound htotal) (hstates _)
    · rw [total?, hzero]

end Payload

/-! ### Pages -/

/-- The body with which the transport answers a call. -/
def Transport.Sends (t : Transport) (body : Json) : Call → Prop
  | .search _ => Response.ofJson body = .ok t.response
  | .sql _ _ => body = t.body

theorem Answers.ok_of_unlessFailing {β : Type} {a : Answers} {answer : Except Error β} {b : β}
    (h : a.unlessFailing answer = .ok b) : answer = .ok b := by
  rw [unlessFailing] at h
  split at h
  · exact nomatch h
  · exact h

theorem Transport.ofJson_of_answer {t : Transport} {body : Json} {call : Call} {payload : Payload}
    (hsends : t.Sends body call) (h : t.answer call = .ok payload) :
    Payload.ofJson call.mode body = .ok payload := by
  cases call with
  | search request =>
    rw [answer] at h
    cases hsearch : (t.search request).1 with
    | error e =>
      rw [hsearch] at h
      cases h
    | ok response =>
      rw [hsearch] at h
      obtain rfl : t.response = response := Except.ok.inj (Answers.ok_of_unlessFailing hsearch)
      exact Response.payload_eq_ok_iff.mpr ⟨_, hsends, (Except.ok.inj h).symm⟩
  | sql text mode =>
    obtain rfl : body = t.body := hsends
    exact Answers.ok_of_unlessFailing h

namespace Session

variable {κ α : Type} [Record α] [Related κ α] (s : Session κ α)

/-- **The total of a page** is what the body states.  If it states nothing, it is the number of
items for a body of rows, and zero for an object of hits, whatever its items. -/
theorem total_of_paginate {perPage page : UInt64} {p : Page α}
    (h : (s.paginate perPage page).1 = .ok p) {body : Json} (hform : HitsInObject body) :
    let call := ((Terminal.paginate perPage page).query s.query).call s.index s.settings
    s.transport.Sends body call →
      (∀ n, StatesTotal body n → n < UInt64.size → p.total.toNat = n)
        ∧ ((∀ n, ¬ StatesTotal body n) →
          (call.mode = .array → p.total = UInt64.ofNat p.items.length)
            ∧ (call.mode = .object → p.total = 0)) := by
  intro call hsends
  obtain ⟨fetched, hfetched, rfl⟩ := s.fetched_of_paginate h
  obtain ⟨payload, hanswer, htotal⟩ := s.answered_of_fetch hfetched
  have hpayload : Payload.ofJson call.mode body = .ok payload :=
    Transport.ofJson_of_answer hsends hanswer
  dsimp only
  rw [htotal]
  constructor
  · intro n hstates hn
    obtain ⟨total, hsome, htotal⟩ := Payload.total?_of_statesTotal hpayload hform hstates hn
    rw [hsome]
    exact htotal
  · intro hstates
    have hnone := Payload.total?_of_not_statesTotal hpayload hform hstates
    constructor
    · intro hmode
      rw [hnone.1 hmode]
      rfl
    · intro hmode
      rw [hnone.2 hmode]
      rfl

/-- Result sets of a statement, one of them without a total and one without rows. -/
theorem total_of_paginate_sets :
    let set (rows : List Json) (total : Json) : Json :=
      .object [("data", .array rows), ("total", total)]
    let row : Json := .object [("country", .string "PT")]
    let body : Json := .array [set [row, row] (.ofWord 40), .object [("warning", .string "")],
      set [] (.ofWord 2), set [row] (.ofInt (-1))]
    let s : Session Unit Document := {
      prototype := {}, transport := { body }, query := { groupBy := ["country"] } }
    ∃ p, (s.paginate 10 1).1 = .ok p ∧ p.items.length = 3 ∧ StatesTotal body 42
      ∧ p.total.toNat = 42 := by
  intro set row body s
  have hstates : StatesTotal body 42 := by
    have hcounted : Counted [40, 2] [set [row, row] (.ofWord 40), .object [("warning", .string "")],
        set [] (.ofWord 2), set [row] (.ofInt (-1))] := by
      refine .total rfl (.skip (fun total h => nomatch h) (.total rfl (.skip ?_ .nil)))
      intro total h
      have hword : (Json.ofInt (-1)).asWord? = some total :=
        Json.asWord?_eq_some_iff.mpr (Option.some.inj h)
      exact nomatch hword
    exact .sets hcounted (by decide)
  have hform : HitsInObject body := fun hits h => nomatch h
  exact ⟨_, rfl, rfl, hstates, (s.total_of_paginate rfl hform rfl).1 42 hstates (by decide)⟩

/-- A body with a hit and without a total: as a body of rows it gives a page of one record in all,
and as an object of hits, over either way, a page with one record of none. -/
theorem total_hides_items :
    let body : Json := .object [("hits", .object [("hits", .array [.object [("_id", .ofInt 1)]])])]
    let raw (mode : AnswerMode) : Session Unit Document := {
      prototype := {}, transport := { body }, query := { raw := some { sql := "", mode } } }
    let searched : Session Unit Document := {
      prototype := {}, transport := { response := { hits := [{ id := some (.ofInt 1) }] } } }
    HitsInObject body ∧ (∀ n, ¬ StatesTotal body n)
      ∧ Response.ofJson body = .ok searched.transport.response
      ∧ (∃ p, ((raw .array).paginate 10 1).1 = .ok p ∧ p.items.length = 1 ∧ p.total = 1)
      ∧ (∃ p, ((raw .object).paginate 10 1).1 = .ok p ∧ p.items.length = 1 ∧ p.total = 0)
      ∧ ∃ p, (searched.paginate 10 1).1 = .ok p ∧ p.items.length = 1 ∧ p.total = 0 := by
  intro body raw searched
  have hform : HitsInObject body := fun hits h => ⟨_, (Option.some.inj h).symm⟩
  have hstates : ∀ n, ¬ StatesTotal body n := by
    intro n h
    obtain ⟨total, hat, -⟩ := h.at?_object
    exact nomatch hat
  exact ⟨hform, hstates, rfl, ⟨_, rfl, rfl, rfl⟩, ⟨_, rfl, rfl, rfl⟩, ⟨_, rfl, rfl, rfl⟩⟩

end Session

end SearchQuery

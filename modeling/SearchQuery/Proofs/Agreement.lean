import SearchQuery.Proofs.Clauses
import SearchQuery.Proofs.Request

/-!
# The two statements of a query

A query without clauses of its caller's own has a statement made from its lists, and another made
from its structured form.  Both are laid out alike (`Sql.layout`).

* `Sql.Statement.text_eq_layout`: a statement by the texts of its clauses.
* `Query.conditions_agree`: what the two statements have behind `WHERE`.
* `Query.statements_agree`: the two statements clause by clause, with what the search body says.
-/

namespace SearchQuery

open Sql (Formula Condition)

namespace Sql

def layout (source : String) (condition order window maxMatches : Option String) : String :=
  String.intercalate " " ([some ("SELECT * FROM " ++ source),
    condition.map fun text => "WHERE " ++ text,
    order.map fun text => "ORDER BY " ++ text,
    window.map fun text => "LIMIT " ++ text,
    maxMatches.map fun text => "OPTION max_matches=" ++ text].filterMap id)

def orderText (sort : List SortKey) : Option String :=
  if sort.isEmpty then none else some (commaSeparated (sort.map sortText))

def windowText (window : UInt64 × UInt64) : String :=
  toString window.1.toNat ++ ", " ++ toString window.2.toNat

def matchesText (maxMatches : Option UInt64) : Option String :=
  maxMatches.map fun n => toString n.toNat

theorem Statement.text_eq_layout {s : Statement} (hcolumns : s.columns = [])
    (hgroupBy : s.groupBy = []) (hhaving : s.having = []) :
    s.text = layout s.source (s.condition.map Condition.text) (orderText s.sort)
      (s.window.map windowText) (matchesText s.maxMatches) := by
  have horder : (orderText s.sort).map (fun text => "ORDER BY " ++ text)
      = if s.sort.isEmpty then none
        else some ("ORDER BY " ++ commaSeparated (s.sort.map sortText)) := by
    rw [orderText, apply_ite (Option.map _), Option.map_none, Option.map_some]
  have hhead : s.head = "SELECT * FROM " ++ s.source := by
    rw [head, hcolumns]
    rfl
  rw [text, parts, layout, horder, matchesText, Option.map_map, Option.map_map, Option.map_map,
    hhead, hgroupBy, hhaving]
  simp only [Function.comp_def, windowText, String.append_assoc]
  rfl

theorem Formula.ne_empty_of_ofText? {text : String} {f : Formula} (h : ofText? text = some f) :
    text ≠ "" := by
  rintro rfl
  have hnone : (ofText? "").isNone = true := by decide +kernel
  rw [h] at hnone
  exact Bool.false_ne_true hnone

end Sql

namespace Query

variable {κ : Type}

/-- The query has a full-text clause or a predicate. -/
def Asks (q : Query κ) : Prop :=
  q.matching ≠ [] ∨ q.clauses.must ≠ [] ∨ q.clauses.should ≠ [] ∨ q.clauses.mustNot ≠ []

theorem not_asks_iff (q : Query κ) : ¬ q.Asks ↔ q.matching = [] ∧ q.clauses.isEmpty = true := by
  rw [Asks, Clauses.isEmpty_iff]
  simp only [ne_eq, not_or, not_not]

theorem isSome_whereCondition (q : Query κ) :
    (q.clauses.whereCondition q.matching).isSome = true ↔ q.Asks := by
  rw [← not_iff_not, Bool.not_eq_true, Option.isSome_eq_false_iff, Option.isNone_iff_eq_none,
    Clauses.whereCondition_eq_none, not_asks_iff]

theorem isSome_condition_toNodes (q : Query κ) :
    (q.clauses.toNodes q.matching).condition.isSome = true ↔ q.Asks := by
  rw [← not_iff_not, Bool.not_eq_true, Option.isSome_eq_false_iff, Option.isNone_iff_eq_none,
    Clauses.condition_toNodes_eq_none, not_asks_iff]

theorem queryJson_eq_matchAll_iff (q : Query κ) (index : String) (settings : Settings) :
    (q.request index settings).queryJson = Request.matchAll ↔ ¬ q.Asks := by
  have hempty : (q.clauses.toNodes q.matching).isEmpty = true ↔ ¬ q.Asks := by
    rw [not_asks_iff, ← Clauses.condition_toNodes_eq_none, Clauses.condition,
      Condition.join_eq_none]
    simp [Clauses.isEmpty, and_assoc]
  rw [← hempty, Request.queryJson]
  change (if (q.clauses.toNodes q.matching).isEmpty then _ else _) = _ ↔ _
  cases (q.clauses.toNodes q.matching).isEmpty with
  | true => exact iff_of_true rfl rfl
  | false => exact iff_of_false (by simp [Request.matchAll]) Bool.false_ne_true

section Placed

variable {q : Query κ} (hmust : ∀ p ∈ q.clauses.must, p.Placed)
  (hshould : ∀ p ∈ q.clauses.should, p.Placed) (hmustNot : ∀ p ∈ q.clauses.mustNot, p.Placed)

include hmust hshould hmustNot

theorem conditions_agree {c d : Condition} (hc : q.clauses.whereCondition q.matching = some c)
    (hd : (q.clauses.toNodes q.matching).condition = some d) :
    c.text ≠ "" ∧ d.text ≠ "" ∧ ∃ f g, Formula.ofText? c.text = some f
      ∧ Formula.ofText? d.text = some g ∧ ∀ w, f.holds w = g.holds w := by
  obtain ⟨f, hf, hfvalue⟩ := Clauses.ofText?_whereCondition hmust hshould hmustNot hc
  obtain ⟨g, hg, hgvalue⟩ := Clauses.ofText?_toNodes hmust hshould hmustNot hd
  exact ⟨Formula.ne_empty_of_ofText? hf, Formula.ne_empty_of_ofText? hg, f, g, hf, hg,
    fun w => (hfvalue w).trans (hgvalue w).symm⟩

/-- **The statement of a query and that of its structured form agree** clause by clause: in their
source, in whether and what they ask of documents, in the order and in the bound on matches, and in
the window, but that only the second has one where the query names none.  The search body asks for
all documents where they ask nothing, and has the same bound on matches. -/
theorem statements_agree (index : String) (settings : Settings) (hplain : q.isTabular = false) :
    let request := q.request index settings
    let limits := q.maxMatches.or settings.maxMatches
    let windowed := (q.offset.getD 0, q.limit.getD 20)
    ∃ direct structured window : Option String,
      (q.statement index settings).text
        = Sql.layout index direct (Sql.orderText q.sort) window (Sql.matchesText limits)
      ∧ request.statement.text = Sql.layout index structured (Sql.orderText q.sort)
          (some (Sql.windowText windowed)) (Sql.matchesText limits)
      ∧ (direct.isSome = true ↔ q.Asks) ∧ (structured.isSome = true ↔ q.Asks)
      ∧ (request.toJson.member? "query" ≠ some Request.matchAll ↔ q.Asks)
      ∧ (∀ t ∈ direct, ∀ u ∈ structured, t ≠ "" ∧ u ≠ "" ∧ ∃ f g, Formula.ofText? t = some f
          ∧ Formula.ofText? u = some g ∧ ∀ w, f.holds w = g.holds w)
      ∧ window = (if q.limit = none ∧ q.offset = none then none
          else some (Sql.windowText windowed))
      ∧ request.toJson.member? "options"
          = limits.map fun n => .object [("max_matches", .ofWord n)] := by
  intro request limits windowed
  simp only [isTabular, Bool.or_eq_false_iff, Bool.not_eq_false', List.isEmpty_iff] at hplain
  obtain ⟨⟨hgroupBy, hhaving⟩, hselect⟩ := hplain
  refine ⟨(q.clauses.whereCondition q.matching).map Condition.text,
    (q.clauses.toNodes q.matching).condition.map Condition.text,
    (q.statement index settings).window.map Sql.windowText,
    Sql.Statement.text_eq_layout hselect hgroupBy hhaving,
    Sql.Statement.text_eq_layout rfl rfl rfl, ?_, ?_, ?_, ?_, ?_, ?_⟩
  · rw [Option.isSome_map, q.isSome_whereCondition]
  · rw [Option.isSome_map, q.isSome_condition_toNodes]
  · have hquery : request.toJson.member? "query" = some request.queryJson := by
      rw [Request.member?_toJson]
      rfl
    rw [hquery, Ne, Option.some.injEq, q.queryJson_eq_matchAll_iff, not_not]
  · intro t ht u hu
    obtain ⟨c, hc, rfl⟩ := Option.map_eq_some_iff.mp ht
    obtain ⟨d, hd, rfl⟩ := Option.map_eq_some_iff.mp hu
    exact conditions_agree hmust hshould hmustNot hc hd
  · change (if (q.limit.isNone && q.offset.isNone) = true then none
      else some (Sql.windowOf q.offset q.limit)).map Sql.windowText = _
    rw [apply_ite (Option.map _), Option.map_none, Option.map_some]
    simp only [Bool.and_eq_true, Option.isNone_iff_eq_none]
    rfl
  · rw [Request.member?_toJson]
    rfl

end Placed

/-- A negated alternative, a vicinity that must not be, an offset alone and the settings' bound on
matches. -/
theorem statements_agree_offset :
    let near : Predicate :=
      { field := "lat, lon", criterion := .near ⟨"lat", "lon", 1.0, 2.0, 3.0⟩, negated := false
        named := by decide }
    let other : Predicate :=
      { field := "tag", criterion := .among [], negated := true, named := by decide }
    let q : Query Unit :=
      { clauses := { should := [other], mustNot := [near] }, sort := [⟨"year", .descending⟩]
        offset := some 40 }
    let settings : Settings := { maxMatches := some 500 }
    q.isTabular = false ∧ (∀ p ∈ q.clauses.should, p.Placed) ∧ (∀ p ∈ q.clauses.mustNot, p.Placed)
      ∧ ∃ direct structured,
        (q.statement "books" settings).text = Sql.layout "books" (some direct)
          (some "`year` DESC") (some "40, 20") (some "500")
        ∧ (q.request "books" settings).statement.text = Sql.layout "books" (some structured)
          (some "`year` DESC") (some "40, 20") (some "500")
        ∧ ∃ f g, Formula.ofText? direct = some f ∧ Formula.ofText? structured = some g
          ∧ ∀ w, f.holds w = g.holds w := by
  intro near other q settings
  have hnear : near.Placed := by
    intro place hplace
    obtain rfl := Criterion.near.inj hplace
    exact ⟨"lat, lon", 1.0, 2.0, 3.0, rfl⟩
  have hother : other.Placed := by
    intro place hplace
    exact absurd hplace (by simp [other])
  have hshould : ∀ p ∈ q.clauses.should, p.Placed := by simpa [q] using hother
  have hmustNot : ∀ p ∈ q.clauses.mustNot, p.Placed := by simpa [q] using hnear
  have hasks : q.Asks := .inr (.inr (.inl (by simp [q])))
  obtain ⟨direct, structured, window, hdirect, hstructured, hsome, hsome', -, hagree, hwindow, -⟩ :=
    statements_agree (q := q) (by simp [q]) hshould hmustNot "books" settings rfl
  obtain ⟨t, rfl⟩ := Option.isSome_iff_exists.mp (hsome.mpr hasks)
  obtain ⟨u, rfl⟩ := Option.isSome_iff_exists.mp (hsome'.mpr hasks)
  have horder : Sql.orderText q.sort = some "`year` DESC" := by decide +kernel
  have hwindowed : Sql.windowText (q.offset.getD 0, q.limit.getD 20) = "40, 20" := by decide +kernel
  have hlimits : Sql.matchesText (q.maxMatches.or settings.maxMatches) = some "500" := by
    decide +kernel
  rw [hwindow, if_neg (by simp [q]), horder, hwindowed, hlimits] at hdirect
  rw [horder, hwindowed, hlimits] at hstructured
  exact ⟨rfl, hshould, hmustNot, t, u, hdirect, hstructured, (hagree t rfl u rfl).2.2⟩

end Query

end SearchQuery

import SearchQuery.Proofs.Sql.Joining

/-!
# Query trees keep their meaning in statements

The value of a query tree on a document, which is what its parts say of the document put together,
and the condition that the tree becomes.

* `Node.fits_condition`, `Node.holds_condition`: the condition fits as a conjunction and means the
  value of the tree, in both polarities.
* `Node.condition_keeps_meaning`: so its text is read as a condition with this meaning, by itself
  and among other conditions.
-/

namespace SearchQuery

open Sql (Test Condition Formula Atom)

namespace Node

mutual

def Finite : Node → Prop
  | .near place => place.Finite
  | .group must should mustNot => AllFinite must ∧ AllFinite should ∧ AllFinite mustNot
  | _ => True

def AllFinite : List Node → Prop
  | [] => True
  | n :: rest => n.Finite ∧ AllFinite rest

end

mutual

/-- The value of the tree on a document, when `v` says which tests the document passes. -/
def holds (v : Test → Bool) : Node → Bool
  | .equals field x => v (.equals field x)
  | .among field xs => !xs.isEmpty && v (.among field xs)
  | .range field bounds => bounds.all fun b => v (.bounded field b.1 b.2)
  | .near place => v (.near place)
  | .fullText clause => v (.fullText clause)
  | .group must should mustNot =>
    allHold v must && (should.isEmpty || anyHolds v should) && !anyHolds v mustNot

def allHold (v : Test → Bool) : List Node → Bool
  | [] => true
  | n :: rest => n.holds v && allHold v rest

def anyHolds (v : Test → Bool) : List Node → Bool
  | [] => false
  | n :: rest => n.holds v || anyHolds v rest

end

theorem allFinite_iff {ns : List Node} : AllFinite ns ↔ ∀ n ∈ ns, n.Finite := by
  induction ns with
  | nil => simp [AllFinite]
  | cons n rest ih => simp [AllFinite, ih]

theorem conditions_eq_map (negated : Bool) (ns : List Node) :
    conditions negated ns = ns.map (condition negated) := by
  induction ns with
  | nil => rfl
  | cons n rest ih => rw [conditions, ih, List.map_cons]

theorem allHold_eq_all (v : Test → Bool) (ns : List Node) : allHold v ns = ns.all (holds v) := by
  induction ns with
  | nil => rfl
  | cons n rest ih => rw [allHold, ih, List.all_cons]

theorem anyHolds_eq_any (v : Test → Bool) (ns : List Node) : anyHolds v ns = ns.any (holds v) := by
  induction ns with
  | nil => rfl
  | cons n rest ih => rw [anyHolds, ih, List.any_cons]

/-! ### The condition of a tree -/

mutual

theorem fits_condition : ∀ (n : Node) (negated : Bool), n.Finite →
    (n.condition negated).Fits .conjunction
  | .equals field x, negated, _ => by
    rw [condition, Condition.Fits]
    trivial
  | .among field xs, negated, _ => by
    rw [condition]
    cases xs with
    | nil => rw [List.isEmpty_nil, if_pos rfl, Condition.Fits]; trivial
    | cons x xs => rw [List.isEmpty_cons, if_neg (by decide), Condition.Fits]; simp [Test.Readable]
  | .range field bounds, negated, _ => by
    rw [condition]
    exact Condition.fits_ofRange negated field bounds
  | .near place, negated, h => by
    rw [Finite] at h
    rw [condition, Condition.Fits]
    exact h
  | .fullText clause, negated, _ => by
    rw [condition, Condition.Fits]
    trivial
  | .group must should mustNot, negated, h => by
    rw [Finite] at h
    rw [condition]
    refine Condition.fits_ofGroup negated (fun c hc => ?_) .conjunction
    exact Condition.fits_join hc trivial (fits_conditions must false h.1 .conjunction (by decide))
      (fits_conditions should false h.2.1 .disjunction (by decide))
      (fits_conditions mustNot true h.2.2 .conjunction (by decide))

theorem fits_conditions : ∀ (ns : List Node) (negated : Bool), AllFinite ns →
    ∀ level, level ≠ .factor → Condition.FitAll (conditions negated ns) level
  | [], _, _, _, _ => by
    rw [conditions, Condition.FitAll]
    trivial
  | n :: rest, negated, h, level, hlevel => by
    rw [AllFinite] at h
    rw [conditions, Condition.FitAll]
    exact ⟨(fits_condition n negated h.1).mono hlevel,
      fits_conditions rest negated h.2 level hlevel⟩

end

mutual

/-- **The condition of a tree means the value of the tree**, or its negation. -/
theorem holds_condition (v : Test → Bool) : ∀ (n : Node) (negated : Bool),
    (n.condition negated).holds v = (n.holds v != negated)
  | .equals field x, negated => by
    rw [condition, Condition.holds, holds]
  | .among field xs, negated => by
    rw [condition, holds]
    cases xs with
    | nil => rw [List.isEmpty_nil, if_pos rfl, Condition.holds]; simp
    | cons x xs => rw [List.isEmpty_cons, if_neg (by decide), Condition.holds]; simp
  | .range field bounds, negated => by
    rw [condition, holds, Condition.holds_ofRange]
  | .near place, negated => by
    rw [condition, Condition.holds, holds]
  | .fullText clause, negated => by
    rw [condition, Condition.holds, holds]
  | .group must should mustNot, negated => by
    have hmust := Condition.all_eq_of_map_eq (map_holds_conditions v must false)
    have hshould := Condition.any_eq_of_map_eq (map_holds_conditions v should false)
    have hmustNot := Condition.all_eq_of_map_eq (map_holds_conditions v mustNot true)
    have hempty : (conditions false should).isEmpty = should.isEmpty := by
      rw [conditions_eq_map, List.isEmpty_map]
    rw [condition, holds, Condition.holds_ofGroup, Condition.all_holds_join, hmust, hshould, hempty,
      hmustNot, allHold_eq_all, anyHolds_eq_any, anyHolds_eq_any, List.not_any_eq_all_not]
    simp only [List.all_nil, Bool.true_and, Bool.bne_false, Bool.bne_true]

theorem map_holds_conditions (v : Test → Bool) : ∀ (ns : List Node) (negated : Bool),
    (conditions negated ns).map (Condition.holds v) = ns.map fun n => n.holds v != negated
  | [], _ => rfl
  | n :: rest, negated => by
    rw [conditions, List.map_cons, List.map_cons, holds_condition v n negated,
      map_holds_conditions v rest negated]

end

/-! ### The text of a tree -/

theorem texts_conditions (negated : Bool) (ns : List Node) :
    Condition.texts (conditions negated ns) = ns.map fun n => (n.condition negated).text := by
  rw [Condition.texts_eq_map, conditions_eq_map, List.map_map]
  rfl

/-- Trees with `AND`s between them are read as the conjunction of their values. -/
theorem ofText?_and {ns : List Node} (hne : ns ≠ []) (hfinite : AllFinite ns) (negated : Bool) :
    ∃ f, Formula.ofText? (String.intercalate " AND " (ns.map fun n => (n.condition negated).text))
        = some f
      ∧ ∀ w, f.holds w = ns.all fun n => n.holds (Test.holds w) != negated := by
  have hfit : (Condition.all (conditions negated ns)).Fits .disjunction := by
    rw [Condition.Fits]
    refine ⟨?_, by decide, fits_conditions ns negated hfinite .conjunction (by decide)⟩
    rwa [conditions_eq_map, Ne, List.map_eq_nil_iff]
  obtain ⟨f, hf, hvalue⟩ := Condition.ofText?_text hfit
  rw [Condition.text, texts_conditions] at hf
  refine ⟨f, hf, fun w => ?_⟩
  rw [hvalue, Condition.holds, Condition.allHold_eq_all]
  exact Condition.all_eq_of_map_eq (map_holds_conditions (Test.holds w) ns negated)

theorem ofText?_or {ns : List Node} (hne : ns ≠ []) (hfinite : AllFinite ns) (negated : Bool) :
    ∃ f, Formula.ofText? (String.intercalate " OR " (ns.map fun n => (n.condition negated).text))
        = some f
      ∧ ∀ w, f.holds w = ns.any fun n => n.holds (Test.holds w) != negated := by
  have hfit : (Condition.any (conditions negated ns)).Fits .disjunction := by
    rw [Condition.Fits]
    refine ⟨?_, rfl, fits_conditions ns negated hfinite .disjunction (by decide)⟩
    rwa [conditions_eq_map, Ne, List.map_eq_nil_iff]
  obtain ⟨f, hf, hvalue⟩ := Condition.ofText?_text hfit
  rw [Condition.text, texts_conditions] at hf
  refine ⟨f, hf, fun w => ?_⟩
  rw [hvalue, Condition.holds, Condition.anyHolds_eq_any]
  exact Condition.any_eq_of_map_eq (map_holds_conditions (Test.holds w) ns negated)

/-- **The text of a tree is read as a condition that means the value of the tree**, or its negation,
and so it is among other trees with `AND`s or `OR`s between them. -/
theorem condition_keeps_meaning (n : Node) (negated : Bool) (before after : List Node)
    (hn : n.Finite) (hbefore : ∀ m ∈ before, m.Finite) (hafter : ∀ m ∈ after, m.Finite) :
    (∃ f, Formula.ofText? (n.condition negated).text = some f
      ∧ ∀ w, f.holds w = (n.holds (Test.holds w) != negated))
    ∧ (∃ f, Formula.ofText? (String.intercalate " AND "
          ((before ++ n :: after).map fun m => (m.condition negated).text)) = some f
      ∧ ∀ w, f.holds w
        = (before ++ n :: after).all fun m => m.holds (Test.holds w) != negated)
    ∧ (∃ f, Formula.ofText? (String.intercalate " OR "
          ((before ++ n :: after).map fun m => (m.condition negated).text)) = some f
      ∧ ∀ w, f.holds w
        = (before ++ n :: after).any fun m => m.holds (Test.holds w) != negated) := by
  have hfinite : AllFinite (before ++ n :: after) := by
    rw [allFinite_iff, List.forall_mem_append, List.forall_mem_cons]
    exact ⟨hbefore, hn, hafter⟩
  have hne : before ++ n :: after ≠ [] := by simp
  refine ⟨?_, ofText?_and hne hfinite negated, ofText?_or hne hfinite negated⟩
  obtain ⟨f, hf, hvalue⟩ := Condition.ofText?_text ((fits_condition n negated hn).mono (by decide))
  refine ⟨f, hf, fun w => ?_⟩
  rw [hvalue, holds_condition]

/-- A group that excludes a range, negated between a range and a group without members. -/
theorem condition_keeps_meaning_nested :
    let range : Node := .range "year" [(.atLeast, .integer 1990), (.below, .integer 2000)]
    let n : Node := .group [.near ⟨"lat", "lon", 1.0, 2.0, 3.0⟩] [] [range]
    ∃ f, Formula.ofText? (String.intercalate " AND "
        ([range, n, .group [] [] []].map fun m => (m.condition true).text)) = some f
      ∧ ∀ w, f.holds w
        = [range, n, .group [] [] []].all fun m => m.holds (Test.holds w) != true := by
  intro range n
  have hrange : range.Finite := by
    rw [Finite.eq_def]
    trivial
  have hn : n.Finite := by
    simp only [n, Finite, AllFinite, and_true, true_and]
    exact ⟨⟨by decide +kernel, by decide +kernel, by decide +kernel⟩, hrange⟩
  have hempty : (group [] [] []).Finite := by simp [Finite, AllFinite]
  exact (condition_keeps_meaning n true [range] [.group [] [] []] hn (by simpa using hrange)
    (by simpa using hempty)).2.1

end Node

end SearchQuery

import SearchQuery.Proofs.Node
import SearchQuery.Request

/-!
# The two forms of a query ask for the same documents

Clauses become the condition of a statement directly (`Clauses.whereCondition`), or first a tree of
conditions (`Clauses.toNodes`) and then the condition of a statement.

* `Clauses.ofText?_whereCondition`, `Clauses.ofText?_toNodes`: what the texts of the two conditions
  are read as.
* `Clauses.renderings_agree`: both mean what the clauses say.
-/

namespace SearchQuery

open Sql (Test Condition Formula Level)

/-! ### What clauses say -/

/-- Whether a document whose field passes the tests `v` meets the criterion. -/
def Criterion.holds (v : Test → Bool) (field : String) : Criterion → Bool
  | .equals x => v (.equals field x)
  | .bounded b x => v (.bounded field b x)
  | .among xs => !xs.isEmpty && v (.among field xs)
  | .between first second =>
    v (.bounded field first.1 first.2) && v (.bounded field second.1 second.2)
  | .near place => v (.near place)

/-- Whether a document passes the predicate: it meets the criterion, unless the predicate is
negated. -/
def Predicate.holds (v : Test → Bool) (p : Predicate) : Bool :=
  p.criterion.holds v p.field != p.negated

def Clauses.holds (v : Test → Bool) (matching : List FullText) (c : Clauses Predicate) : Bool :=
  matching.all (fun m => v (.fullText m)) && c.must.all (Predicate.holds v)
    && (c.should.isEmpty || c.should.any (Predicate.holds v))
    && !c.mustNot.any (Predicate.holds v)

/-- The vicinity that the predicate asks for, if it does, has been checked. -/
def Predicate.Placed (p : Predicate) : Prop :=
  ∀ place, p.criterion = .near place →
    ∃ source latitude longitude distance,
      Vicinity.make source latitude longitude distance = .ok place

/-- **A vicinity that has been checked has finite numbers.** -/
theorem Vicinity.finite_of_make {source : String} {latitude longitude distance : Float}
    {place : Vicinity} (h : make source latitude longitude distance = .ok place) :
    place.Finite := by
  unfold make at h
  split at h
  · exact absurd h (by simp)
  · split at h
    · exact absurd h (by simp)
    · next hrange =>
      split at h
      · exact absurd h (by simp)
      · next hdistance =>
        obtain rfl := Except.ok.inj h
        simp only [Bool.not_eq_true', Bool.not_eq_false, Bool.and_eq_true,
          decide_eq_true_eq] at hrange
        simp only [Bool.or_eq_true, Bool.not_eq_true', not_or, Bool.not_eq_false] at hdistance
        obtain ⟨⟨⟨hsouth, hnorth⟩, hwest⟩, heast⟩ := hrange
        exact
          { latitude := Decimal.isFinite_of_le_of_le (by decide +kernel) (by decide +kernel) hsouth
              hnorth
            longitude := Decimal.isFinite_of_le_of_le (by decide +kernel) (by decide +kernel) hwest
              heast
            distance := hdistance.1 }

namespace Predicate

theorem finite_ofPredicate {p : Predicate} (h : p.Placed) : (Node.ofPredicate p).Finite := by
  rw [Node.ofPredicate_eq]
  cases hp : p.criterion with
  | equals x => rw [Node.Finite.eq_def]; trivial
  | bounded b x => rw [Node.Finite.eq_def]; trivial
  | among xs => rw [Node.Finite.eq_def]; trivial
  | between first second => rw [Node.Finite.eq_def]; trivial
  | near place =>
    obtain ⟨source, latitude, longitude, distance, hmake⟩ := h place hp
    rw [Node.Finite]
    exact Vicinity.finite_of_make hmake

theorem holds_ofPredicate (v : Test → Bool) (p : Predicate) :
    (Node.ofPredicate p).holds v = p.criterion.holds v p.field := by
  rw [Node.ofPredicate_eq]
  cases p.criterion <;> simp [Node.holds, Criterion.holds]

theorem holds_condition (v : Test → Bool) (negated : Bool) (p : Predicate) :
    (p.condition negated).holds v = (p.holds v != negated) := by
  rw [condition, Node.holds_condition, holds_ofPredicate, holds]
  cases p.criterion.holds v p.field <;> cases p.negated <;> cases negated <;> rfl

theorem fits_condition {p : Predicate} (h : p.Placed) (negated : Bool) :
    (p.condition negated).Fits .conjunction :=
  Node.fits_condition _ _ (finite_ofPredicate h)

theorem holds_ofAlternative (v : Test → Bool) (p : Predicate) :
    (Node.ofAlternative p).holds v = p.holds v := by
  unfold Node.ofAlternative
  rw [holds, ← holds_ofPredicate]
  cases p.negated with
  | false => simp
  | true => simp [Node.holds, Node.allHold, Node.anyHolds]

theorem finite_ofAlternative {p : Predicate} (h : p.Placed) : (Node.ofAlternative p).Finite := by
  have hp := finite_ofPredicate h
  unfold Node.ofAlternative
  split
  · simp [Node.Finite, Node.AllFinite, hp]
  · exact hp

/-- All members of a list agree with `f` or, if flagged, deny it, where the others all agree and no
flagged one does. -/
theorem all_bne {α : Type} (f flag : α → Bool) (as : List α) :
    (as.all fun a => f a != flag a)
      = ((as.filter fun a => !flag a).all f && !(as.filter flag).any f) := by
  induction as with
  | nil => rfl
  | cons a as ih =>
    rw [List.all_cons, ih, List.filter_cons, List.filter_cons]
    generalize (as.filter fun a => !flag a) = agreeing
    generalize as.filter flag = denying
    cases flag a with
    | false =>
      rw [if_pos (by decide), if_neg (by decide), List.all_cons, Bool.bne_false, Bool.and_assoc]
    | true =>
      rw [if_neg (by decide), if_pos rfl, List.any_cons, Bool.bne_true, Bool.not_or]
      rw [← Bool.and_assoc, ← Bool.and_assoc, Bool.and_comm (!f a)]

theorem all_holds (v : Test → Bool) (ps : List Predicate) :
    ps.all (holds v) = ((ps.filter fun p => !p.negated).all (fun p => (Node.ofPredicate p).holds v)
      && !(ps.filter fun p => p.negated).any fun p => (Node.ofPredicate p).holds v) := by
  simp only [holds_ofPredicate]
  exact all_bne (fun p : Predicate => p.criterion.holds v p.field) (fun p => p.negated) ps

theorem not_any_holds (v : Test → Bool) (ps : List Predicate) :
    (!ps.any (holds v))
      = ((ps.filter fun p => p.negated).all (fun p => (Node.ofPredicate p).holds v)
      && !(ps.filter fun p => !p.negated).any fun p => (Node.ofPredicate p).holds v) := by
  have hflip : ∀ p : Predicate, (!p.holds v) = (p.criterion.holds v p.field != !p.negated) := by
    intro p
    rw [holds]
    cases p.criterion.holds v p.field <;> cases p.negated <;> rfl
  have hall := all_bne (fun p : Predicate => p.criterion.holds v p.field) (fun p => !p.negated) ps
  rw [List.not_any_eq_all_not]
  simp only [holds_ofPredicate, hflip]
  simpa only [Bool.not_not] using hall

end Predicate

namespace Clauses

/-! ### Clauses of a search body -/

theorem ofText?_condition {c : Clauses Node} {d : Condition} (h : c.condition = some d)
    (hmust : ∀ n ∈ c.must, n.Finite) (hshould : ∀ n ∈ c.should, n.Finite)
    (hmustNot : ∀ n ∈ c.mustNot, n.Finite) :
    ∃ f, Formula.ofText? d.text = some f
      ∧ ∀ w, f.holds w = (Node.group c.must c.should c.mustNot).holds (Test.holds w) := by
  have hjoin : Condition.join [] (Node.conditions false c.must) (Node.conditions false c.should)
      (Node.conditions true c.mustNot) = some d := by
    rw [Node.conditions_eq_map, Node.conditions_eq_map, Node.conditions_eq_map]
    exact h
  have hfinite : (Node.group c.must c.should c.mustNot).Finite := by
    rw [Node.Finite, Node.allFinite_iff, Node.allFinite_iff, Node.allFinite_iff]
    exact ⟨hmust, hshould, hmustNot⟩
  have hgroup : (Node.group c.must c.should c.mustNot).condition false = .parens d := by
    rw [Node.condition, hjoin, Condition.ofGroup, if_neg (by decide)]
  have hfit := Node.fits_condition _ false hfinite
  rw [hgroup, Condition.Fits] at hfit
  obtain ⟨f, hf, hvalue⟩ := Condition.ofText?_text hfit
  refine ⟨f, hf, fun w => ?_⟩
  have hmeans := Node.holds_condition (Test.holds w) (.group c.must c.should c.mustNot) false
  rw [hgroup, Condition.holds, Bool.bne_false] at hmeans
  rw [hvalue, hmeans]

variable {matching : List FullText} {c : Clauses Predicate}

theorem isEmpty_iff : c.isEmpty = true ↔ c.must = [] ∧ c.should = [] ∧ c.mustNot = [] := by
  simp [isEmpty, and_assoc]

theorem whereCondition_eq_none :
    c.whereCondition matching = none ↔ matching = [] ∧ c.isEmpty = true := by
  rw [whereCondition, Condition.join_eq_none, isEmpty_iff]
  simp only [List.map_eq_nil_iff]

theorem condition_toNodes_eq_none :
    (c.toNodes matching).condition = none ↔ matching = [] ∧ c.isEmpty = true := by
  have hsplit : ∀ ps : List Predicate, (ps.filter fun p => !p.negated) = [] →
      (ps.filter fun p => p.negated) = [] → ps = [] := by
    intro ps hpositive hnegated
    cases ps with
    | nil => rfl
    | cons p ps => cases hp : p.negated <;> simp [hp] at hpositive hnegated
  rw [Clauses.condition, Condition.join_eq_none, toNodes, isEmpty_iff]
  simp only [List.map_eq_nil_iff, List.append_eq_nil_iff]
  constructor
  · rintro ⟨-, ⟨⟨hmatching, hmust⟩, hmustNot⟩, hshould, hmust', hmustNot'⟩
    exact ⟨hmatching, hsplit c.must hmust hmust', hshould, hsplit c.mustNot hmustNot' hmustNot⟩
  · rintro ⟨hmatching, hmust, hshould, hmustNot⟩
    simp [hmatching, hmust, hshould, hmustNot]

theorem holds_toNodes (v : Test → Bool) (matching : List FullText) (c : Clauses Predicate) :
    (Node.group (c.toNodes matching).must (c.toNodes matching).should
      (c.toNodes matching).mustNot).holds v = c.holds v matching := by
  have hshould : (c.should.map Node.ofAlternative).any (Node.holds v)
      = c.should.any (Predicate.holds v) := by
    rw [List.any_map]
    exact congrArg (List.any c.should) (funext fun p => Predicate.holds_ofAlternative v p)
  have hmatching : (matching.map Node.fullText).all (Node.holds v)
      = matching.all fun m => v (.fullText m) := by
    rw [List.all_map]
    exact congrArg (List.all matching) (funext fun m => by simp [Node.holds])
  rw [Node.holds, Node.allHold_eq_all, Node.anyHolds_eq_any, Node.anyHolds_eq_any, toNodes, holds,
    Predicate.all_holds, Predicate.not_any_holds]
  simp only [List.all_append, List.any_append, hmatching, hshould, List.isEmpty_map, List.all_map,
    List.any_map, Function.comp_def, Bool.not_or]
  -- Both sides have the same six parts, in another order.
  ac_rfl

/-! ### Both forms -/

section Placed

variable (hmust : ∀ p ∈ c.must, p.Placed) (hshould : ∀ p ∈ c.should, p.Placed)
  (hmustNot : ∀ p ∈ c.mustNot, p.Placed)

include hmust hshould hmustNot

/-- The condition made from clauses directly is read as what the clauses say. -/
theorem ofText?_whereCondition {d : Condition} (h : c.whereCondition matching = some d) :
    ∃ f, Formula.ofText? d.text = some f ∧ ∀ w, f.holds w = c.holds (Test.holds w) matching := by
  have hfit : ∀ (ps : List Predicate) (negated : Bool) (level : Level), level ≠ .factor →
      (∀ p ∈ ps, p.Placed) → Condition.FitAll (ps.map (Predicate.condition negated)) level := by
    intro ps negated level hlevel hps
    rw [Condition.fitAll_iff, List.forall_mem_map]
    exact fun p hp => (Predicate.fits_condition (hps p hp) negated).mono hlevel
  have hmatching : Condition.FitAll (matching.map fun m => .test false (.fullText m))
      .conjunction := by
    rw [Condition.fitAll_iff, List.forall_mem_map]
    intro m _
    rw [Condition.Fits]
    trivial
  have hd := Condition.fits_join h hmatching (hfit c.must false .conjunction (by decide) hmust)
    (hfit c.should false .disjunction (by decide) hshould)
    (hfit c.mustNot true .conjunction (by decide) hmustNot)
  obtain ⟨f, hf, hvalue⟩ := Condition.ofText?_text (hd.mono (by decide))
  refine ⟨f, hf, fun w => ?_⟩
  rw [hvalue, Condition.holds_join h, holds]
  simp only [List.all_map, List.any_map, List.isEmpty_map, Function.comp_def,
    Predicate.holds_condition, Condition.holds, Bool.bne_false, Bool.bne_true,
    List.not_any_eq_all_not]

theorem ofText?_toNodes {d : Condition} (h : (c.toNodes matching).condition = some d) :
    ∃ f, Formula.ofText? d.text = some f ∧ ∀ w, f.holds w = c.holds (Test.holds w) matching := by
  have hnodes : ∀ (ps : List Predicate) (keep : Predicate → Bool), (∀ p ∈ ps, p.Placed) →
      ∀ n ∈ (ps.filter keep).map Node.ofPredicate, n.Finite := by
    intro ps keep hps
    rw [List.forall_mem_map]
    exact fun p hp => Predicate.finite_ofPredicate (hps p (List.mem_of_mem_filter hp))
  have hmatching : ∀ n ∈ matching.map Node.fullText, n.Finite := by
    rw [List.forall_mem_map]
    intro m _
    rw [Node.Finite.eq_def]
    trivial
  obtain ⟨f, hf, hvalue⟩ := ofText?_condition h
    (by
      rw [toNodes, List.forall_mem_append, List.forall_mem_append]
      exact ⟨⟨hmatching, hnodes c.must _ hmust⟩, hnodes c.mustNot _ hmustNot⟩)
    (by
      rw [toNodes, List.forall_mem_map]
      exact fun p hp => Predicate.finite_ofAlternative (hshould p hp))
    (by
      rw [toNodes, List.forall_mem_append]
      exact ⟨hnodes c.must _ hmust, hnodes c.mustNot _ hmustNot⟩)
  refine ⟨f, hf, fun w => ?_⟩
  rw [hvalue, holds_toNodes]

/-- **The two forms of a query ask for the same documents.**  Where there is nothing to ask for both
conditions are empty, and else both are read as what the clauses say. -/
theorem renderings_agree :
    (matching = [] ∧ c.isEmpty = true → Sql.conditionText (c.whereCondition matching) = ""
      ∧ Sql.conditionText (c.toNodes matching).condition = "")
    ∧ (¬(matching = [] ∧ c.isEmpty = true) →
      (∃ f, Formula.ofText? (Sql.conditionText (c.whereCondition matching)) = some f
        ∧ ∀ w, f.holds w = c.holds (Test.holds w) matching)
      ∧ ∃ f, Formula.ofText? (Sql.conditionText (c.toNodes matching).condition) = some f
        ∧ ∀ w, f.holds w = c.holds (Test.holds w) matching) := by
  refine ⟨fun hempty => ?_, fun hne => ⟨?_, ?_⟩⟩
  · rw [whereCondition_eq_none.mpr hempty, condition_toNodes_eq_none.mpr hempty]
    exact ⟨rfl, rfl⟩
  · cases hd : c.whereCondition matching with
    | none => exact absurd (whereCondition_eq_none.mp hd) hne
    | some d => exact ofText?_whereCondition hmust hshould hmustNot hd
  · cases hd : (c.toNodes matching).condition with
    | none => exact absurd (condition_toNodes_eq_none.mp hd) hne
    | some d => exact ofText?_toNodes hmust hshould hmustNot hd

end Placed

/-- A vicinity that must hold, and a negated range as the only alternative. -/
theorem renderings_agree_near_or_outside :
    let near : Predicate :=
      { field := "lat, lon", criterion := .near ⟨"lat", "lon", 1.0, 2.0, 3.0⟩, negated := false
        named := by decide }
    let outside : Predicate :=
      { field := "year", criterion := .between (.atLeast, .integer 1990) (.below, .text "2000")
        negated := true, named := by decide }
    let c : Clauses Predicate := { must := [near], should := [outside] }
    (∃ f, Formula.ofText? (Sql.conditionText (c.whereCondition [])) = some f
      ∧ ∀ w, f.holds w = c.holds (Test.holds w) [])
    ∧ ∃ f, Formula.ofText? (Sql.conditionText (c.toNodes []).condition) = some f
      ∧ ∀ w, f.holds w = c.holds (Test.holds w) [] := by
  intro near outside c
  have hnear : near.Placed := by
    intro place hplace
    obtain rfl := Criterion.near.inj hplace
    exact ⟨"lat, lon", 1.0, 2.0, 3.0, rfl⟩
  have houtside : outside.Placed := by
    intro place hplace
    exact absurd hplace (by simp [outside])
  exact (renderings_agree (by simpa [c] using hnear) (by simpa [c] using houtside)
    (by simp [c])).2 (by simp [c, isEmpty])

end Clauses

end SearchQuery

import SearchQuery.Proofs.Sql.Formula

/-!
# Levels of precedence

Phrases are read at one of three levels as a formula with a given value: as a factor, as a
conjunction of factors, or as alternatives.  Each level is part of the next, and parentheses lead
from the last to the first.

* `ReadsConjunction.and`, `ReadsDisjunction.or`: what is read with `AND` or `OR` in between.
* `ReadsFactor.not`, `ReadsDisjunction.parens`: what is read behind `NOT` and between parentheses.
-/

namespace SearchQuery.Sql

namespace Formula

/-- What a formula says of each assignment of truth values to atoms. -/
abbrev Value := (Atom → Bool) → Bool

theorem phrases_append (is js : List Item) : phrases (is ++ js) = phrases is ++ phrases js := by
  induction is with
  | nil => rfl
  | cons i is ih => rw [List.cons_append, phrases, phrases, ih, List.cons_append]

theorem allHold_append (w : Atom → Bool) (fs gs : List Formula) :
    allHold w (fs ++ gs) = (allHold w fs && allHold w gs) := by
  induction fs with
  | nil => simp [allHold]
  | cons f fs ih => rw [List.cons_append, allHold, allHold, ih, Bool.and_assoc]

theorem anyHolds_append (w : Atom → Bool) (fs gs : List Formula) :
    anyHolds w (fs ++ gs) = (anyHolds w fs || anyHolds w gs) := by
  induction fs with
  | nil => simp [anyHolds]
  | cons f fs ih => rw [List.cons_append, anyHolds, anyHolds, ih, Bool.or_assoc]

/-- The phrases are read as a factor with this value. -/
structure ReadsFactor (ps : List Phrase) (value : Value) : Prop where
  no_joint : ∀ p ∈ ps, isWord "AND" p = false ∧ isWord "OR" p = false
  read : ∃ f, ofFactor? ps = some f ∧ ∀ w, f.holds w = value w

structure ReadsConjunction (ps : List Phrase) (value : Value) : Prop where
  no_or : ∀ p ∈ ps, isWord "OR" p = false
  read : ∃ fs, (ps.splitOnP (isWord "AND")).mapM ofFactor? = some fs
    ∧ ∀ w, allHold w fs = value w

def ReadsDisjunction (ps : List Phrase) (value : Value) : Prop :=
  ∃ fs, (ps.splitOnP (isWord "OR")).mapM ofAlternative? = some fs ∧ ∀ w, anyHolds w fs = value w

variable {ps qs : List Phrase} {value value' : Value}

theorem ReadsFactor.conjunction (h : ReadsFactor ps value) : ReadsConjunction ps value := by
  obtain ⟨f, hf, hvalue⟩ := h.read
  refine ⟨fun p hp => (h.no_joint p hp).2, [f], ?_, fun w => ?_⟩
  · rw [List.splitOnP_eq_singleton fun p hp => (h.no_joint p hp).1]
    simp [hf]
  · rw [allHold, allHold, Bool.and_true, hvalue]

theorem ReadsConjunction.disjunction (h : ReadsConjunction ps value) :
    ReadsDisjunction ps value := by
  obtain ⟨fs, hfs, hvalue⟩ := h.read
  refine ⟨[.all fs], ?_, fun w => ?_⟩
  · rw [List.splitOnP_eq_singleton h.no_or]
    simp [ofAlternative?, hfs]
  · rw [anyHolds, anyHolds, Bool.or_false, holds, hvalue]

theorem ReadsConjunction.and (hp : ReadsConjunction ps value) (hq : ReadsConjunction qs value') :
    ReadsConjunction (ps ++ (.word "AND", none) :: qs) fun w => value w && value' w := by
  obtain ⟨fs, hfs, hvalue⟩ := hp.read
  obtain ⟨gs, hgs, hvalue'⟩ := hq.read
  refine ⟨fun p hmem => ?_, fs ++ gs, ?_, fun w => ?_⟩
  · rcases List.mem_append.mp hmem with hmem | hmem
    · exact hp.no_or p hmem
    · rcases List.mem_cons.mp hmem with rfl | hmem
      · decide
      · exact hq.no_or p hmem
  · rw [List.splitOnP_append_cons _ _ (by decide), List.mapM_append, hfs, hgs]
    rfl
  · rw [allHold_append, hvalue, hvalue']

theorem ReadsDisjunction.or (hp : ReadsDisjunction ps value) (hq : ReadsDisjunction qs value') :
    ReadsDisjunction (ps ++ (.word "OR", none) :: qs) fun w => value w || value' w := by
  obtain ⟨fs, hfs, hvalue⟩ := hp
  obtain ⟨gs, hgs, hvalue'⟩ := hq
  refine ⟨fs ++ gs, ?_, fun w => ?_⟩
  · rw [List.splitOnP_append_cons _ _ (by decide), List.mapM_append, hfs, hgs]
    rfl
  · rw [anyHolds_append, hvalue, hvalue']

theorem ReadsFactor.not (h : ReadsFactor ps value) :
    ReadsFactor ((.word "NOT", none) :: ps) fun w => !value w := by
  obtain ⟨f, hf, hvalue⟩ := h.read
  refine ⟨List.forall_mem_cons.mpr ⟨by decide, h.no_joint⟩, .not f, ?_, fun w => ?_⟩
  · rw [ofFactor?, hf]
    rfl
  · rw [holds, hvalue]

/-- Whatever is read between parentheses is a factor. -/
theorem ReadsDisjunction.parens {is : List Item} (h : ReadsDisjunction (phrases is) value) :
    ReadsFactor (phrases [.group is]) value := by
  obtain ⟨fs, hfs, hvalue⟩ := h
  refine ⟨by simp [phrases, isWord], .any fs, ?_, fun w => ?_⟩
  · rw [phrases, phrases, ofFactor?, ofItem?, ofPhrases?, hfs]
    rfl
  · rw [holds, hvalue]

end Formula

/-- What is read at a place: a factor, a conjunction of factors, or alternatives. -/
inductive Level where
  | factor
  | conjunction
  | disjunction
  deriving DecidableEq

def Formula.Reads (ps : List Phrase) (value : Value) : Level → Prop
  | .factor => ReadsFactor ps value
  | .conjunction => ReadsConjunction ps value
  | .disjunction => ReadsDisjunction ps value

theorem Formula.ReadsFactor.reads {ps : List Phrase} {value : Value} (h : ReadsFactor ps value)
    (level : Level) : Reads ps value level := by
  cases level with
  | factor => exact h
  | conjunction => exact h.conjunction
  | disjunction => exact h.conjunction.disjunction

theorem Formula.ReadsConjunction.reads {ps : List Phrase} {value : Value}
    (h : ReadsConjunction ps value) {level : Level} (hlevel : level ≠ .factor) :
    Reads ps value level := by
  cases level with
  | factor => exact absurd rfl hlevel
  | conjunction => exact h
  | disjunction => exact h.disjunction

end SearchQuery.Sql

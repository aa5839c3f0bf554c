import SearchQuery.Node

/-!
# Predicates are well formed

A predicate keeps an operator that is no negation and an operand that this operator takes, so what
reads the two together meets one of five shapes and needs no answer for the rest.  All constructors
go through `Predicate.make`, and negation changes neither part.

* `Operator.positive`, `Operator.Takes`: the operator that is kept, and the operands it takes.
* `Predicate.make_eq_ok_iff`, `Predicate.exists_make_iff`: what a predicate is made of, and when it
  is made.
* `Predicate.Obtained.wellFormed`: predicates that constructors and negations give.
* `Predicate.constructed_well_formed`: both together.
-/

namespace SearchQuery

/-! ### Operators and their operands -/

namespace Operator

/-- The operator without its negation, and whether it had one. -/
def positive : Operator → Operator × Bool
  | .notEqual => (.equal, true)
  | .notAmong => (.among, true)
  | op => (op, false)

inductive Takes : Operator → Operand → Prop where
  | equal (v : Scalar) : Takes .equal (.scalar v)
  | bound (b : Bound) (v : Scalar) : Takes (.bound b) (.scalar v)
  | among (vs : List Scalar) : Takes .among (.list vs)
  | between (first second : Bound × Scalar) : Takes .between (.range [first, second])
  | near (place : Vicinity) : Takes .near (.vicinity place)

theorem Takes.ne_notEqual {op : Operator} {operand : Operand} (h : op.Takes operand) :
    op ≠ .notEqual := by
  cases h <;> exact nofun

theorem Takes.ne_notAmong {op : Operator} {operand : Operand} (h : op.Takes operand) :
    op ≠ .notAmong := by
  cases h <;> exact nofun

end Operator

namespace Criterion

theorem takes (c : Criterion) : c.operator.Takes c.operand := by
  cases c with
  | equals v => exact .equal v
  | bounded b v => exact .bound b v
  | among vs => exact .among vs
  | between first second => exact .between first second
  | near place => exact .near place

theorem exists_of_takes {op : Operator} {operand : Operand} (h : op.Takes operand) :
    ∃ c : Criterion, c.operator = op ∧ c.operand = operand := by
  cases h with
  | equal v => exact ⟨.equals v, rfl, rfl⟩
  | bound b v => exact ⟨.bounded b v, rfl, rfl⟩
  | among vs => exact ⟨.among vs, rfl, rfl⟩
  | between first second => exact ⟨.between first second, rfl, rfl⟩
  | near place => exact ⟨.near place, rfl, rfl⟩

theorem of_eq_ok_iff {op : Operator} {operand : Operand} {c : Criterion} {negated : Bool} :
    of op operand = .ok (c, negated)
      ↔ (c.operator, negated) = op.positive ∧ c.operand = operand := by
  constructor
  · intro h
    unfold of at h
    split at h <;> cases h <;> exact ⟨rfl, rfl⟩
  · rintro ⟨hop, rfl⟩
    -- One operator in five is the criterion's own, and at most one more is its negation.
    cases c <;> cases op <;> cases hop <;> rfl

theorem exists_of_iff {op : Operator} {operand : Operand} :
    (∃ c negated, of op operand = .ok (c, negated)) ↔ op.positive.1.Takes operand := by
  constructor
  · rintro ⟨c, negated, h⟩
    obtain ⟨hop, rfl⟩ := of_eq_ok_iff.mp h
    rw [← hop]
    exact c.takes
  · intro h
    obtain ⟨c, hop, hoperand⟩ := exists_of_takes h
    refine ⟨c, op.positive.2, of_eq_ok_iff.mpr ⟨?_, hoperand⟩⟩
    rw [hop]

end Criterion

/-! ### Conditions of operators and operands -/

namespace Node

/-- The condition by which an operator tests a field. -/
inductive Tests (field : String) : Operator → Operand → Node → Prop where
  | equals (v : Scalar) : Tests field .equal (.scalar v) (.equals field v)
  | bounded (b : Bound) (v : Scalar) : Tests field (.bound b) (.scalar v) (.range field [(b, v)])
  | among (vs : List Scalar) : Tests field .among (.list vs) (.among field vs)
  | between (first second : Bound × Scalar) :
    Tests field .between (.range [first, second]) (.range field [first, second])
  | near (place : Vicinity) : Tests field .near (.vicinity place) (.near place)

theorem tests_ofPredicate (p : Predicate) :
    Tests p.field p.operator p.operand (ofPredicate p) := by
  obtain ⟨field, c, negated, named⟩ := p
  cases c with
  | equals v => exact .equals v
  | bounded b v => exact .bounded b v
  | among vs => exact .among vs
  | between first second => exact .between first second
  | near place => exact .near place

theorem Tests.ofParts_eq {field : String} {op : Operator} {operand : Operand} {n : Node}
    (h : Tests field op operand n) (fallback : Bound) (other : Operator → Operand → Node) :
    ofParts fallback other field op operand = n := by
  cases h <;> rfl

end Node

/-! ### What predicates are made of -/

namespace Predicate

theorem make_eq_ok_iff {field : String} {op : Operator} {operand : Operand} {p : Predicate} :
    make field op operand = .ok p
      ↔ p.field = field ∧ (p.operator, p.negated) = op.positive ∧ p.operand = operand := by
  constructor
  · intro h
    unfold make at h
    split at h
    · split at h
      · next c negated hof =>
        obtain rfl := Except.ok.inj h
        exact ⟨rfl, Criterion.of_eq_ok_iff.mp hof⟩
      · exact nomatch h
    · exact nomatch h
  · rintro ⟨rfl, hparts⟩
    have hof : Criterion.of op operand = .ok (p.criterion, p.negated) :=
      Criterion.of_eq_ok_iff.mpr hparts
    simp only [make, hof, dif_pos p.named]

theorem exists_make_iff {field : String} {op : Operator} {operand : Operand} :
    (∃ p, make field op operand = .ok p)
      ↔ Text.isBlankText field = false ∧ op.positive.1.Takes operand := by
  constructor
  · rintro ⟨p, h⟩
    obtain ⟨rfl, hop, rfl⟩ := make_eq_ok_iff.mp h
    rw [← hop]
    exact ⟨p.named, p.criterion.takes⟩
  · rintro ⟨named, htakes⟩
    obtain ⟨criterion, negated, hof⟩ := Criterion.exists_of_iff.mpr htakes
    exact ⟨⟨field, criterion, negated, named⟩,
      make_eq_ok_iff.mpr ⟨rfl, Criterion.of_eq_ok_iff.mp hof⟩⟩

theorem make_eq_error {field : String} {op : Operator} {operand : Operand}
    (h : ¬ ∃ p, make field op operand = .ok p) :
    ∃ fault, make field op operand = .error (.invalidOperand field fault) := by
  by_cases named : Text.isBlankText field = false
  · cases hof : Criterion.of op operand with
    | ok question =>
      obtain ⟨criterion, negated⟩ := question
      have hparts := Criterion.of_eq_ok_iff.mp hof
      exact absurd ⟨⟨field, criterion, negated, named⟩, make_eq_ok_iff.mpr ⟨rfl, hparts⟩⟩ h
    | error fault => exact ⟨fault, by rw [make, dif_pos named, hof]⟩
  · exact ⟨.unnamedField, by rw [make, dif_neg named]⟩

theorem compare_eq_ok_iff {field sign : String} {value : Scalar} {p : Predicate} :
    compare field sign value = .ok p
      ↔ ∃ op, Operator.ofSign? sign = some op ∧ make field op (.scalar value) = .ok p := by
  rw [compare]
  cases Operator.ofSign? sign with
  | none => simp
  | some op => simp

theorem near_eq_ok_iff {source : String} {latitude longitude distance : Float} {p : Predicate} :
    near source latitude longitude distance = .ok p
      ↔ ∃ place, Vicinity.make source latitude longitude distance = .ok place
          ∧ make source .near (.vicinity place) = .ok p := by
  rw [near]
  cases Vicinity.make source latitude longitude distance with
  | error e => simp [bind, Except.bind]
  | ok place => simp [bind, Except.bind]

/-! ### Predicates that constructors and negations give -/

/-- The predicate comes from a constructor, negated any number of times. -/
inductive Obtained : Predicate → Prop where
  | make {field : String} {op : Operator} {operand : Operand} {p : Predicate}
    (made : make field op operand = .ok p) : Obtained p
  | compare {field sign : String} {value : Scalar} {p : Predicate}
    (made : compare field sign value = .ok p) : Obtained p
  | isIn {field : String} {values : List Scalar} {p : Predicate}
    (made : isIn field values = .ok p) : Obtained p
  | between {field : String} {low high : Scalar} {p : Predicate}
    (made : between field low high = .ok p) : Obtained p
  | near {source : String} {latitude longitude distance : Float} {p : Predicate}
    (made : near source latitude longitude distance = .ok p) : Obtained p
  | negate {p : Predicate} (obtained : p.Obtained) : Obtained p.negate

/-- The field has a name, the operator is positive and takes the operand, and the condition is the
operator's own: it carries the operand, and nothing in it is a fallback. -/
structure WellFormed (p : Predicate) : Prop where
  named : Text.isBlankText p.field = false
  ne_notEqual : p.operator ≠ .notEqual
  ne_notAmong : p.operator ≠ .notAmong
  takes : p.operator.Takes p.operand
  tests : Node.Tests p.field p.operator p.operand (Node.ofPredicate p)
  noFallback : ∀ fallback other,
    Node.ofParts fallback other p.field p.operator p.operand = Node.ofPredicate p

theorem wellFormed_of_make {field : String} {op : Operator} {operand : Operand} {p : Predicate}
    (h : make field op operand = .ok p) : p.WellFormed := by
  obtain ⟨named, htakes⟩ := exists_make_iff.mp ⟨p, h⟩
  obtain ⟨rfl, hop, rfl⟩ := make_eq_ok_iff.mp h
  rw [← hop] at htakes
  have htests := Node.tests_ofPredicate p
  exact
    { named := named
      ne_notEqual := htakes.ne_notEqual
      ne_notAmong := htakes.ne_notAmong
      takes := htakes
      tests := htests
      noFallback := htests.ofParts_eq }

theorem WellFormed.negate {p : Predicate} (h : p.WellFormed) : p.negate.WellFormed :=
  { named := h.named
    ne_notEqual := h.ne_notEqual
    ne_notAmong := h.ne_notAmong
    takes := h.takes
    tests := h.tests
    noFallback := h.noFallback }

/-- **Every predicate that is obtained is well formed.** -/
theorem Obtained.wellFormed {p : Predicate} (h : p.Obtained) : p.WellFormed := by
  induction h with
  | make made => exact wellFormed_of_make made
  | compare made =>
    obtain ⟨op, -, made⟩ := compare_eq_ok_iff.mp made
    exact wellFormed_of_make made
  | isIn made => exact wellFormed_of_make made
  | between made => exact wellFormed_of_make made
  | near made =>
    obtain ⟨place, -, made⟩ := near_eq_ok_iff.mp made
    exact wellFormed_of_make made
  | negate obtained ih => exact ih.negate

theorem negate_negate (p : Predicate) : p.negate.negate = p := by
  obtain ⟨field, criterion, negated, named⟩ := p
  simp only [negate, Bool.not_not]

/-- **Predicates are well formed by construction.**  Constructors and negations give well-formed
predicates only, and two negations cancel.  A field, an operator and an operand make a predicate of
the three, with a negated operator as a flag, if the field has a name and the positive operator
takes the operand; otherwise they are refused for the operand. -/
theorem constructed_well_formed :
    (∀ p : Predicate, p.Obtained → p.WellFormed ∧ p.negate.negate = p)
      ∧ ∀ (field : String) (op : Operator) (operand : Operand),
        (Text.isBlankText field = false ∧ op.positive.1.Takes operand →
          ∃ p, make field op operand = .ok p ∧ p.field = field
            ∧ (p.operator, p.negated) = op.positive ∧ p.operand = operand)
        ∧ (¬ (Text.isBlankText field = false ∧ op.positive.1.Takes operand) →
          ∃ fault, make field op operand = .error (.invalidOperand field fault)) := by
  refine ⟨fun p hp => ⟨hp.wellFormed, p.negate_negate⟩, fun field op operand => ⟨?_, ?_⟩⟩
  · intro hfits
    obtain ⟨p, hmake⟩ := exists_make_iff.mpr hfits
    exact ⟨p, hmake, make_eq_ok_iff.mp hmake⟩
  · intro hfits
    refine make_eq_error fun hmade => ?_
    exact hfits (exists_make_iff.mp hmade)

/-- An exclusion from a list, negated once more, and a range that has one bound. -/
theorem constructed_well_formed_excluded :
    (∃ p, make "tag" .notAmong (.list [.text "old"]) = .ok p ∧ p.operator = .among
        ∧ p.negated = true ∧ p.negate.WellFormed ∧ p.negate.negate.negate = p.negate)
      ∧ ∃ fault, make "year" .between (.range [(.atLeast, .integer 1990)])
        = .error (.invalidOperand "year" fault) := by
  obtain ⟨hformed, hmake⟩ := constructed_well_formed
  constructor
  · have hnamed : Text.isBlankText "tag" = false := by decide
    obtain ⟨p, hp, -, hop, -⟩ :=
      (hmake "tag" .notAmong (.list [.text "old"])).1 ⟨hnamed, .among [.text "old"]⟩
    obtain ⟨hoperator, hnegated⟩ := Prod.mk.inj hop
    obtain ⟨hwellFormed, htwice⟩ := hformed p.negate (.negate (.make hp))
    exact ⟨p, hp, hoperator, hnegated, hwellFormed, htwice⟩
  · refine (hmake "year" .between (.range [(.atLeast, .integer 1990)])).2 fun hfits => ?_
    exact nomatch hfits.2

end Predicate

end SearchQuery

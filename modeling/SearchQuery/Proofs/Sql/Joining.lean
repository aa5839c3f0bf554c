import SearchQuery.Proofs.Sql.Reading

/-!
# Conditions put together

The three ways in which conditions are put together, each with where its result fits and what it
means: the bounds of a range (`ofRange`), the lists of a group (`join`), and a group within another
(`ofGroup`).
-/

namespace SearchQuery.Sql.Condition

section Lists

variable {α β : Type} {f : α → Bool} {g : β → Bool} {as : List α} {bs : List β}

theorem all_eq_of_map_eq (h : as.map f = bs.map g) : as.all f = bs.all g := by
  have hid := congrArg (List.all · id) h
  simpa only [List.all_map, Function.id_comp] using hid

theorem any_eq_of_map_eq (h : as.map f = bs.map g) : as.any f = bs.any g := by
  have hid := congrArg (List.any · id) h
  simpa only [List.any_map, Function.id_comp] using hid

end Lists

theorem Fits.mono {c : Condition} {level : Level} (h : c.Fits .conjunction)
    (hlevel : level ≠ .factor) : c.Fits level := by
  cases c with
  | all cs =>
    rw [Fits] at h ⊢
    exact ⟨h.1, hlevel, h.2.2⟩
  | any cs =>
    rw [Fits] at h
    exact absurd h.2.1 (by decide)
  | constant b => rw [Fits]; trivial
  | test negated t => rw [Fits] at h ⊢; exact h
  | parens c => rw [Fits] at h ⊢; exact h
  | not c => rw [Fits] at h ⊢; exact h

theorem allHold_eq_all (w : Test → Bool) (cs : List Condition) :
    allHold w cs = cs.all (holds w) := by
  induction cs with
  | nil => rfl
  | cons c rest ih => rw [allHold, ih, List.all_cons]

theorem anyHolds_eq_any (w : Test → Bool) (cs : List Condition) :
    anyHolds w cs = cs.any (holds w) := by
  induction cs with
  | nil => rfl
  | cons c rest ih => rw [anyHolds, ih, List.any_cons]

/-! ### Ranges -/

theorem fits_ofRange (negated : Bool) (field : String) (bounds : List (Bound × Scalar)) :
    (ofRange negated field bounds).Fits .conjunction := by
  have htests : ∀ level,
      FitAll (bounds.map fun b => test negated (.bounded field b.1 b.2)) level := by
    intro level
    rw [fitAll_iff]
    intro c hc
    obtain ⟨b, -, rfl⟩ := List.mem_map.mp hc
    rw [Fits]
    trivial
  unfold ofRange
  split
  · rw [Fits]
    trivial
  · next c heq =>
    have hfit := htests .conjunction
    rw [heq, FitAll] at hfit
    exact hfit.1
  · next cs hne _ =>
    split
    · rw [Fits, Fits]
      exact ⟨hne, rfl, htests .disjunction⟩
    · rw [Fits]
      exact ⟨hne, by decide, htests .conjunction⟩

/-- A range means that all its bounds are kept, and its negation that one is not. -/
theorem holds_ofRange (v : Test → Bool) (negated : Bool) (field : String)
    (bounds : List (Bound × Scalar)) :
    (ofRange negated field bounds).holds v
      = ((bounds.all fun b => v (.bounded field b.1 b.2)) != negated) := by
  match bounds with
  | [] => cases negated <;> simp [ofRange, holds]
  | [b] => simp [ofRange, holds]
  | b :: b' :: bounds =>
    cases negated with
    | false => simp [ofRange, holds, allHold_eq_all, List.all_map, allHold, Function.comp_def]
    | true =>
      simp [ofRange, holds, anyHolds_eq_any, List.any_map, anyHolds, Function.comp_def,
        List.not_all_eq_any_not]

/-! ### Groups -/

variable {matching must should mustNot : List Condition}

theorem join_eq_none : join matching must should mustNot = none ↔
    matching = [] ∧ must = [] ∧ should = [] ∧ mustNot = [] := by
  cases matching <;> cases must <;> cases should <;> cases mustNot <;> simp [join]

theorem fitAll_append {cs ds : List Condition} {level : Level} :
    FitAll (cs ++ ds) level ↔ FitAll cs level ∧ FitAll ds level := by
  simp only [fitAll_iff, List.forall_mem_append]

theorem allHold_append (v : Test → Bool) (cs ds : List Condition) :
    allHold v (cs ++ ds) = (allHold v cs && allHold v ds) := by
  simp only [allHold_eq_all, List.all_append]

theorem join_eq_some {c : Condition} (h : join matching must should mustNot = some c) :
    ∃ cs, cs ≠ [] ∧ c = .all cs ∧ cs = matching
      ++ (if must.isEmpty then [] else [.parens (.all must)])
      ++ (if should.isEmpty then [] else [.parens (.any should)])
      ++ (if mustNot.isEmpty then [] else [.all mustNot]) := by
  unfold join at h
  simp only at h
  split at h
  · exact absurd h (by simp)
  · next cs hne =>
    exact ⟨_, hne, (Option.some.inj h).symm, rfl⟩

theorem fits_join {c : Condition} (h : join matching must should mustNot = some c)
    (hmatching : FitAll matching .conjunction) (hmust : FitAll must .conjunction)
    (hshould : FitAll should .disjunction) (hmustNot : FitAll mustNot .conjunction) :
    c.Fits .conjunction := by
  obtain ⟨cs, hne, rfl, hcs⟩ := join_eq_some h
  have hgroup : ∀ {cs : List Condition} {d : Condition}, (cs ≠ [] → d.Fits .conjunction) →
      FitAll (if cs.isEmpty then [] else [d]) .conjunction := by
    intro cs d hd
    cases cs with
    | nil => simp [FitAll]
    | cons c rest => simpa [FitAll] using hd (by simp)
  rw [Fits]
  refine ⟨hne, by decide, ?_⟩
  rw [hcs, fitAll_append, fitAll_append, fitAll_append]
  refine ⟨⟨⟨hmatching, hgroup fun hne => ?_⟩, hgroup fun hne => ?_⟩, hgroup fun hne => ?_⟩
  · rw [Fits, Fits]
    exact ⟨hne, by decide, hmust⟩
  · rw [Fits, Fits]
    exact ⟨hne, rfl, hshould⟩
  · rw [Fits]
    exact ⟨hne, by decide, hmustNot⟩

/-- **A group means** that all that must hold does, that one of those of which one should does,
unless there are none, and that the negations hold of those that must not. -/
theorem holds_join {c : Condition} (h : join matching must should mustNot = some c)
    (v : Test → Bool) :
    c.holds v = (matching.all (holds v) && must.all (holds v)
      && (should.isEmpty || should.any (holds v)) && mustNot.all (holds v)) := by
  obtain ⟨cs, -, rfl, hcs⟩ := join_eq_some h
  have hgroup : ∀ (cs : List Condition) (d : Condition),
      allHold v (if cs.isEmpty then [] else [d]) = (cs.isEmpty || d.holds v) := by
    intro cs d
    cases cs with
    | nil => rfl
    | cons c rest => simp [allHold]
  rw [holds, hcs, allHold_append, allHold_append, allHold_append, hgroup, hgroup, hgroup, holds,
    holds, holds, holds, holds, allHold_eq_all, allHold_eq_all, allHold_eq_all, anyHolds_eq_any]
  cases must <;> cases mustNot <;> simp

theorem all_holds_join (v : Test → Bool) :
    (join matching must should mustNot).all (holds v)
      = (matching.all (holds v) && must.all (holds v)
        && (should.isEmpty || should.any (holds v)) && mustNot.all (holds v)) := by
  cases h : join matching must should mustNot with
  | none =>
    obtain ⟨rfl, rfl, rfl, rfl⟩ := join_eq_none.mp h
    rfl
  | some c => exact holds_join h v

theorem fits_ofGroup (negated : Bool) {body : Option Condition}
    (h : ∀ c ∈ body, c.Fits .conjunction) (level : Level) : (ofGroup negated body).Fits level := by
  cases body with
  | none => rw [ofGroup, Fits]; trivial
  | some c =>
    have hc : c.Fits .disjunction := (h c rfl).mono (by decide)
    cases negated with
    | false => rw [ofGroup, if_neg (by decide), Fits]; exact hc
    | true => rw [ofGroup, if_pos rfl, Fits, Fits]; exact hc

theorem holds_ofGroup (v : Test → Bool) (negated : Bool) (body : Option Condition) :
    (ofGroup negated body).holds v = ((body.all (holds v)) != negated) := by
  cases body with
  | none => cases negated <;> rfl
  | some c => cases negated <;> simp [ofGroup, holds]

end SearchQuery.Sql.Condition

import SearchQuery.Proofs.Sql.Grouping
import SearchQuery.Proofs.Sql.Precedence

/-!
# Conditions are read back

The text of a condition is read as a formula with the meaning of the condition
(`Condition.ofText?_text`), if the condition `Fits`: the parts of a conjunction need no parentheses
unless they are disjunctions, and what is negated has them.

* `Test.readsFactor`: a test is read as its atom, asserted or denied.
* `Condition.shows`, `Condition.reads`: a condition that fits falls into its items, and these are
  read at its level.
-/

namespace SearchQuery.Sql

/-! ### Tests -/

def Operand.ofScalar (v : Scalar) : Operand :=
  if v.isNumeric then .numeral v.content else .literal v.content

def Relation.ofBound : Bound → Relation × Bool
  | .above => (.above, false)
  | .atLeast => (.below, true)
  | .below => (.below, false)
  | .atMost => (.above, true)

def Quantity.ofVicinity (place : Vicinity) : Quantity :=
  .distance place.latitudeField place.longitudeField (Decimal.plain.text place.latitude)
    (Decimal.plain.text place.longitude)

namespace Test

/-- What a test asserts or denies. -/
def atom : Test → Atom × Bool
  | .equals field v => (.compares (.field field) .equal (.ofScalar v), false)
  | .bounded field b v =>
    (.compares (.field field) (Relation.ofBound b).1 (.ofScalar v), (Relation.ofBound b).2)
  | .among field vs => (.among field (vs.map .ofScalar), false)
  | .near place =>
    (.compares (.ofVicinity place) .below (.numeral (Decimal.plain.text place.distance)), false)
  | .fullText clause => (.fullText ("@" ++ clause.field ++ " " ++ clause.keywords), false)

def holds (w : Atom → Bool) (t : Test) : Bool :=
  w t.atom.1 != t.atom.2

end Test

theorem Operand.ofToken?_operandToken (v : Scalar) :
    ofToken? (operandToken v) = some (ofScalar v) := by
  rw [operandToken, ofScalar]
  cases h : v.isNumeric with
  | true =>
    rw [if_pos rfl, if_pos rfl, ofToken?, if_pos (Scalar.isNumeral_content h)]
  | false => rfl

theorem Operand.ofTokens?_valueTokens {vs : List Scalar} (h : vs ≠ []) :
    ofTokens? (valueTokens vs) = some (vs.map ofScalar) := by
  induction vs with
  | nil => exact absurd rfl h
  | cons v vs ih =>
    cases vs with
    | nil => simp [valueTokens, ofTokens?, ofToken?_operandToken]
    | cons v' vs =>
      have htail := ih (by simp)
      have hcons : valueTokens (v :: v' :: vs)
          = operandToken v :: .mark ',' :: valueTokens (v' :: vs) := by
        rw [valueTokens, List.map_cons, List.map_cons, List.intercalate_cons_cons]
        rfl
      rw [hcons, ofTokens?, ofToken?_operandToken, htail]
      rfl

theorem mapM_token? (ts : List Token) : (ts.map Item.token).mapM Item.token? = some ts := by
  induction ts with
  | nil => rfl
  | cons t ts ih => rw [List.map_cons, List.mapM_cons, ih]; rfl

theorem Quantity.ofCall?_distanceTokens {place : Vicinity} (h : place.Finite) :
    ofCall? "GEODIST" (distanceTokens place) = some (.ofVicinity place) := by
  rw [distanceTokens, ofCall?, ofVicinity]
  simp [Decimal.isNumeral_plain h.latitude, Decimal.isNumeral_plain h.longitude]

namespace Formula

theorem holds_ofAtom (w : Atom → Bool) (denied : Bool) (a : Atom) :
    (ofAtom denied a).holds w = (w a != denied) := by
  cases denied with
  | false => simp [ofAtom, holds]
  | true => simp [ofAtom, holds]

theorem ofComparison?_operandToken {sign : String} {relation : Relation} {denied : Bool}
    (hsign : Relation.ofSign? sign = some (relation, denied)) (quantity : Quantity) (v : Scalar) :
    ofComparison? quantity sign (operandToken v)
      = some (ofAtom denied (.compares quantity relation (.ofScalar v))) := by
  rw [ofComparison?, hsign, Operand.ofToken?_operandToken]
  rfl

theorem ofMembership?_valueTokens {vs : List Scalar} (h : vs ≠ []) (denied : Bool)
    (field : String) :
    ofMembership? denied field ((valueTokens vs).map .token)
      = some (ofAtom denied (.among field (vs.map .ofScalar))) := by
  rw [ofMembership?, mapM_token?, Option.bind_eq_bind, Option.bind_some,
    Operand.ofTokens?_valueTokens h]
  rfl

end Formula

theorem Relation.ofSign?_sign (b : Bound) : ofSign? b.sign = some (ofBound b) := by
  cases b <;> rfl

/-- The complement of a bound denies what the bound asserts. -/
theorem Relation.ofBound_complement (b : Bound) :
    ofBound b.complement = ((ofBound b).1, !(ofBound b).2) := by
  cases b <;> rfl

namespace Formula

/-- The item is not one of the words that join conditions. -/
def NoJoint (i : Item) : Prop :=
  isWord "AND" (i, ofItem? i) = false ∧ isWord "OR" (i, ofItem? i) = false

theorem noJoint_phrases {is : List Item} (h : ∀ i ∈ is, NoJoint i) :
    ∀ p ∈ phrases is, isWord "AND" p = false ∧ isWord "OR" p = false := by
  induction is with
  | nil => simp [phrases]
  | cons i is ih =>
    rw [phrases]
    exact List.forall_mem_cons.mpr
      ⟨h i List.mem_cons_self, ih fun j hj => h j (List.mem_cons_of_mem i hj)⟩

theorem noJoint_word {text : String} (hand : text ≠ "AND") (hor : text ≠ "OR") :
    NoJoint (.word text) :=
  ⟨beq_eq_false_iff_ne.mpr hand, beq_eq_false_iff_ne.mpr hor⟩

theorem noJoint_numeral {text : String} (h : Decimal.isNumeral text = true) :
    NoJoint (.word text) := by
  have hand : Decimal.isNumeral "AND" = false := by decide +kernel
  have hor : Decimal.isNumeral "OR" = false := by decide +kernel
  refine noJoint_word ?_ ?_
  · rintro rfl
    exact absurd h (by simp [hand])
  · rintro rfl
    exact absurd h (by simp [hor])

theorem noJoint_operandToken (v : Scalar) : NoJoint (.token (operandToken v)) := by
  rw [operandToken]
  cases h : v.isNumeric with
  | true => exact noJoint_numeral (Scalar.isNumeral_content h)
  | false => exact ⟨rfl, rfl⟩

theorem readsFactor_comparison {sign : String} {relation : Relation} {denied : Bool}
    (hsign : Relation.ofSign? sign = some (relation, denied)) (field : String) (v : Scalar) :
    ReadsFactor (phrases [.token (.name field), .word sign, .token (operandToken v)])
      fun w => w (.compares (.field field) relation (.ofScalar v)) != denied := by
  have hjoint : NoJoint (.word sign) := by
    refine noJoint_word ?_ ?_ <;> rintro rfl <;> exact absurd hsign (by simp [Relation.ofSign?])
  refine ⟨noJoint_phrases ?_, _, ofComparison?_operandToken hsign (.field field) v, fun w => ?_⟩
  · simp only [List.forall_mem_cons]
    exact ⟨⟨rfl, rfl⟩, hjoint, noJoint_operandToken v, by simp⟩
  · exact holds_ofAtom w denied _

theorem readsFactor_membership {vs : List Scalar} (h : vs ≠ []) (negated : Bool) (field : String) :
    ReadsFactor (phrases ((Test.among field vs).items negated))
      fun w => w (.among field (vs.map .ofScalar)) != negated := by
  have hread := ofMembership?_valueTokens h negated field
  have hname : NoJoint (.token (.name field)) := ⟨rfl, rfl⟩
  have hvalues : NoJoint (.group ((valueTokens vs).map .token)) := ⟨rfl, rfl⟩
  have hin : NoJoint (.word "IN") := noJoint_word (by decide) (by decide)
  have hnot : NoJoint (.word "NOT") := noJoint_word (by decide) (by decide)
  cases negated with
  | false =>
    refine ⟨noJoint_phrases ?_, _, hread, fun w => holds_ofAtom w false _⟩
    simpa [Test.items] using ⟨hname, hin, hvalues⟩
  | true =>
    refine ⟨noJoint_phrases ?_, _, hread, fun w => holds_ofAtom w true _⟩
    simpa [Test.items] using ⟨hname, hnot, hin, hvalues⟩

theorem readsFactor_distance {place : Vicinity} (h : place.Finite) (negated : Bool) :
    ReadsFactor (phrases ((Test.near place).items negated))
      fun w => w (.compares (.ofVicinity place) .below
        (.numeral (Decimal.plain.text place.distance))) != negated := by
  have hsign : Relation.ofSign? (if negated then ">=" else "<") = some (.below, negated) := by
    cases negated <;> rfl
  have hnumeral := Decimal.isNumeral_plain h.distance
  have hread : ofFactor? (phrases ((Test.near place).items negated))
      = some (ofAtom negated (Test.near place).atom.1) := by
    change (do
      let ts ← ((distanceTokens place).map Item.token).mapM Item.token?
      let quantity ← Quantity.ofCall? "GEODIST" ts
      ofComparison? quantity (if negated then ">=" else "<")
        (.word (Decimal.plain.text place.distance))) = _
    rw [mapM_token?, Option.bind_eq_bind, Option.bind_some, Quantity.ofCall?_distanceTokens h,
      Option.bind_eq_bind, Option.bind_some, ofComparison?, hsign, Operand.ofToken?,
      if_pos hnumeral]
    rfl
  refine ⟨noJoint_phrases ?_, _, hread, fun w => holds_ofAtom w negated _⟩
  simp only [Test.items, List.forall_mem_cons]
  refine ⟨noJoint_word (by decide) (by decide), ⟨rfl, rfl⟩, ?_, noJoint_numeral hnumeral, by simp⟩
  cases negated <;> exact noJoint_word (by decide) (by decide)

theorem readsFactor_fullText (query : String) :
    ReadsFactor (phrases [.word "MATCH", .group [.token (.literal query)]])
      fun w => w (.fullText query) := by
  refine ⟨by simp [phrases, isWord], .atom (.fullText query), ?_, fun w => rfl⟩
  rfl

end Formula

/-- **A test is read as its atom**, asserted or denied. -/
theorem Test.readsFactor (negated : Bool) {t : Test} (h : t.Readable) :
    Formula.ReadsFactor (Formula.phrases (t.items negated)) fun w => t.holds w != negated := by
  cases t with
  | equals field v =>
    have hsign : Relation.ofSign? (if negated then "<>" else "=") = some (.equal, negated) := by
      cases negated <;> rfl
    have hread := Formula.readsFactor_comparison hsign field v
    simpa only [Test.items, Test.holds, Test.atom, Bool.bne_false] using hread
  | bounded field b v =>
    have hsign : Relation.ofSign? (if negated then b.complement else b).sign
        = some ((Relation.ofBound b).1, (Relation.ofBound b).2 != negated) := by
      rw [Relation.ofSign?_sign]
      cases negated with
      | false => simp
      | true => rw [if_pos rfl, Relation.ofBound_complement]; simp
    have hread := Formula.readsFactor_comparison hsign field v
    simpa only [Test.items, Test.holds, Test.atom, Bool.bne_assoc] using hread
  | among field vs =>
    have hread := Formula.readsFactor_membership h negated field
    simpa only [Test.holds, Test.atom, Bool.bne_false] using hread
  | near place =>
    have hread := Formula.readsFactor_distance h negated
    simpa only [Test.holds, Test.atom, Bool.bne_false] using hread
  | fullText clause =>
    have hcall := Formula.readsFactor_fullText ("@" ++ clause.field ++ " " ++ clause.keywords)
    cases negated with
    | false =>
      simp only [Test.holds, Test.atom, Bool.bne_false]
      exact hcall
    | true =>
      simp only [Test.holds, Test.atom, Bool.bne_false, Bool.bne_true]
      exact hcall.not

/-! ### Conditions -/

namespace Condition

mutual

def items : Condition → List Item
  | .constant b => [.word "1", .word "=", .word (if b then "1" else "0")]
  | .test negated t => t.items negated
  | .all cs => List.intercalate [.word "AND"] (itemsOf cs)
  | .any cs => List.intercalate [.word "OR"] (itemsOf cs)
  | .parens c => [.group c.items]
  | .not c => .word "NOT" :: c.items

def itemsOf : List Condition → List (List Item)
  | [] => []
  | c :: rest => c.items :: itemsOf rest

end

mutual

/-- The condition can stand where this level is read. -/
def Fits : Condition → Level → Prop
  | .constant _, _ => True
  | .test _ t, _ => t.Readable
  | .all cs, level => cs ≠ [] ∧ level ≠ .factor ∧ FitAll cs .conjunction
  | .any cs, level => cs ≠ [] ∧ level = .disjunction ∧ FitAll cs .disjunction
  | .parens c, _ => c.Fits .disjunction
  | .not c, _ => c.Fits .factor

def FitAll : List Condition → Level → Prop
  | [], _ => True
  | c :: rest, level => c.Fits level ∧ FitAll rest level

end

theorem fitAll_iff {cs : List Condition} {level : Level} :
    FitAll cs level ↔ ∀ c ∈ cs, c.Fits level := by
  induction cs with
  | nil => simp [FitAll]
  | cons c rest ih => simp [FitAll, ih]

mutual

theorem shows : ∀ (c : Condition) {level : Level}, c.Fits level → Shows c.pieces c.items
  | .constant b, _, _ => by
    have hwords : Token.ofPieces (bares (if b then "1 = 1" else "1 = 0"))
        = [.word "1", .word "=", .word (if b then "1" else "0")] := by
      cases b <;> decide +kernel
    rw [pieces, items, Shows, hwords]
    exact groups_tokens [.word "1", .word "=", .word (if b then "1" else "0")] (by simp)
  | .test negated t, _, h => by
    rw [Fits] at h
    rw [pieces, items]
    exact t.shows negated h
  | .all cs, _, h => by
    rw [Fits] at h
    rw [pieces, items]
    exact Shows.intercalate (by decide) (by decide) (shows_word (by decide +kernel))
      (showsOf cs h.2.2)
  | .any cs, _, h => by
    rw [Fits] at h
    rw [pieces, items]
    exact Shows.intercalate (by decide) (by decide) (shows_word (by decide +kernel))
      (showsOf cs h.2.2)
  | .parens c, _, h => by
    rw [Fits] at h
    rw [pieces, items]
    exact (shows c h).parens
  | .not c, _, h => by
    rw [Fits] at h
    have hword : Shows (bares "NOT ") [.word "NOT"] := shows_word (by decide +kernel)
    rw [pieces, items]
    exact hword.append (.inl (by decide)) (shows c h)

theorem showsOf : ∀ (cs : List Condition) {level : Level}, FitAll cs level →
    List.Forall₂ Shows (piecesOf cs) (itemsOf cs)
  | [], _, _ => by
    rw [piecesOf, itemsOf]
    exact .nil
  | c :: rest, _, h => by
    rw [FitAll] at h
    rw [piecesOf, itemsOf]
    exact .cons (shows c h.1) (showsOf rest h.2)

end

open Formula in
mutual

/-- **A condition that fits is read at its level** as a formula with its meaning. -/
theorem reads : ∀ (c : Condition) (level : Level), c.Fits level →
    Reads (phrases c.items) (fun w => c.holds (Test.holds w)) level
  | .constant b, level, _ => by
    refine ReadsFactor.reads ⟨?_, .constant b, ?_, fun w => ?_⟩ level
    · cases b <;> simp [items, phrases, isWord]
    · cases b <;> rfl
    · rw [Formula.holds, Condition.holds]
  | .test negated t, level, h => by
    rw [Fits] at h
    simp only [items, Condition.holds]
    exact (t.readsFactor negated h).reads level
  | .all cs, level, h => by
    rw [Fits] at h
    obtain ⟨hne, hlevel, hfit⟩ := h
    simp only [items, Condition.holds]
    exact (readsAll cs hne hfit).reads hlevel
  | .any cs, level, h => by
    rw [Fits] at h
    -- Alternatives fit at the last level only, so there is no other case.
    obtain ⟨hne, rfl, hfit⟩ := h
    simp only [items, Condition.holds]
    exact readsAny cs hne hfit
  | .parens c, level, h => by
    rw [Fits] at h
    simp only [items, Condition.holds]
    exact (ReadsDisjunction.parens (reads c .disjunction h)).reads level
  | .not c, level, h => by
    rw [Fits] at h
    simp only [items, Condition.holds]
    exact (ReadsFactor.not (reads c .factor h)).reads level

theorem readsAll : ∀ cs : List Condition, cs ≠ [] → FitAll cs .conjunction →
    ReadsConjunction (phrases (List.intercalate [.word "AND"] (itemsOf cs)))
      fun w => allHold (Test.holds w) cs
  | [], hne, _ => absurd rfl hne
  | [c], _, h => by
    rw [FitAll] at h
    simp only [itemsOf, List.intercalate_singleton, allHold, Bool.and_true]
    exact reads c .conjunction h.1
  | c :: c' :: rest, _, h => by
    rw [FitAll] at h
    have hread := ReadsConjunction.and (reads c .conjunction h.1)
      (readsAll (c' :: rest) (by simp) h.2)
    rw [itemsOf, itemsOf, List.intercalate_cons_cons, ← itemsOf, phrases_append, phrases_append,
      List.append_assoc]
    exact hread

theorem readsAny : ∀ cs : List Condition, cs ≠ [] → FitAll cs .disjunction →
    ReadsDisjunction (phrases (List.intercalate [.word "OR"] (itemsOf cs)))
      fun w => anyHolds (Test.holds w) cs
  | [], hne, _ => absurd rfl hne
  | [c], _, h => by
    rw [FitAll] at h
    simp only [itemsOf, List.intercalate_singleton, anyHolds, Bool.or_false]
    exact reads c .disjunction h.1
  | c :: c' :: rest, _, h => by
    rw [FitAll] at h
    have hread := ReadsDisjunction.or (reads c .disjunction h.1)
      (readsAny (c' :: rest) (by simp) h.2)
    rw [itemsOf, itemsOf, List.intercalate_cons_cons, ← itemsOf, phrases_append, phrases_append,
      List.append_assoc]
    exact hread

end

/-- **The text of a condition that fits is read as a formula with its meaning.** -/
theorem ofText?_text {c : Condition} (h : c.Fits .disjunction) :
    ∃ f, Formula.ofText? c.text = some f ∧ ∀ w, f.holds w = c.holds (Test.holds w) := by
  obtain ⟨fs, hfs, hvalue⟩ := reads c .disjunction h
  refine ⟨.any fs, ?_, fun w => ?_⟩
  · rw [Formula.ofText?, Token.ofText?, c.scans.scan, Option.map_some, Option.bind_eq_bind,
      Option.bind_some, (c.shows h).ofTokens?, Option.bind_eq_bind, Option.bind_some,
      Formula.ofPhrases?, hfs]
    rfl
  · rw [Formula.holds, hvalue]

end Condition

end SearchQuery.Sql

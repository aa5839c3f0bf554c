import SearchQuery.Proofs.Decimal.Numeral
import SearchQuery.Proofs.Entries
import SearchQuery.Proofs.Node
import SearchQuery.Proofs.Predicate

/-!
# Ranges in search bodies and in statements

A statement shows every bound of a range.  A search body has one member for each kind of bound, so
it keeps all of them exactly if no two bounds of one kind differ and no value is a number that JSON
does not have.

* `Node.rangeOf?`: the bounds that a search body states.
* `Node.rangeOf?_toJson_iff`: when they are the bounds of the range.
* `Predicate.range_lossless_iff`: the same of predicates, and what their statements say.
-/

namespace SearchQuery

open Sql (Test Condition Formula)

/-! ### Values in search bodies -/

def Scalar.Finite : Scalar → Prop
  | .float x => x.isFinite = true
  | _ => True

theorem Json.ofFloat_eq (x : Float) :
    ofFloat x = if x.isFinite then .number (.float x) else .null := by
  rw [ofFloat]
  cases h : x.isFinite with
  | true =>
    obtain ⟨negative, mantissa, exponent, hx⟩ := (Decimal.isFinite_iff_ofFloat x).mp h
    rw [hx]
    rfl
  | false =>
    cases hx : Decimal.Binary64.ofFloat x with
    | notANumber => rfl
    | infinite negative => rfl
    | finite negative mantissa exponent =>
      have hfinite := (Decimal.isFinite_iff_ofFloat x).mpr ⟨_, _, _, hx⟩
      exact absurd hfinite (by simp [h])

theorem Scalar.ofJson?_toJson {v : Scalar} (h : v.Finite) : ofJson? v.toJson = some v := by
  cases v with
  | boolean b => rfl
  | text s => rfl
  | integer n => simp [toJson, ofJson?, Json.ofInt, Json.asInt64?, signedWord?_toInt]
  | float x =>
    rw [Finite] at h
    rw [toJson, Json.ofFloat_eq, if_pos h]
    rfl

theorem Scalar.eq_of_ofJson?_toJson {v u : Scalar} (h : ofJson? v.toJson = some u) :
    u = v ∧ v.Finite := by
  have hfinite : v.Finite := by
    cases v with
    | float x =>
      rw [Finite]
      cases hx : x.isFinite with
      | true => rfl
      | false =>
        rw [toJson, Json.ofFloat_eq, hx] at h
        exact absurd h (by simp [ofJson?, Json.asInt64?, Json.asFloat?])
    | boolean b => trivial
    | integer n => trivial
    | text s => trivial
  rw [ofJson?_toJson hfinite] at h
  exact ⟨(Option.some.inj h).symm, hfinite⟩

/-! ### Bounds in search bodies -/

section Lists

variable {α β : Type} {f : α → Option β}

theorem mem_mapM {as : List α} {bs : List β} (h : as.mapM f = some bs) (b : β) :
    b ∈ bs ↔ ∃ a ∈ as, f a = some b := by
  induction as generalizing bs with
  | nil =>
    obtain rfl : [] = bs := Option.some.inj h
    simp
  | cons a as ih =>
    rw [List.mapM_cons, Option.bind_eq_bind, Option.bind_eq_some_iff] at h
    obtain ⟨c, hc, h⟩ := h
    rw [Option.bind_eq_bind, Option.bind_eq_some_iff] at h
    obtain ⟨cs, hcs, h⟩ := h
    obtain rfl : c :: cs = bs := Option.some.inj h
    simp [ih hcs, hc, eq_comm]

theorem exists_mapM {as : List α} (h : ∀ a ∈ as, ∃ b, f a = some b) :
    ∃ bs, as.mapM f = some bs := by
  induction as with
  | nil => exact ⟨[], rfl⟩
  | cons a as ih =>
    obtain ⟨b, hb⟩ := h a List.mem_cons_self
    obtain ⟨bs, hbs⟩ := ih fun c hc => h c (List.mem_cons_of_mem a hc)
    refine ⟨b :: bs, ?_⟩
    rw [List.mapM_cons, hb, hbs]
    rfl

end Lists

def boundOfMember? (member : String × Json) : Option (Bound × Scalar) := do
  let b ← Bound.ofKey? member.1
  let v ← Scalar.ofJson? member.2
  some (b, v)

theorem boundOfMember?_toJson {b : Bound × Scalar} (h : b.2.Finite) :
    boundOfMember? (b.1.key, b.2.toJson) = some b := by
  rw [boundOfMember?, Bound.ofKey?_key, Scalar.ofJson?_toJson h]
  rfl

theorem eq_of_boundOfMember?_toJson {b c : Bound × Scalar}
    (h : boundOfMember? (b.1.key, b.2.toJson) = some c) : c = b ∧ b.2.Finite := by
  rw [boundOfMember?, Bound.ofKey?_key, Option.bind_eq_bind, Option.bind_some,
    Option.bind_eq_bind, Option.bind_eq_some_iff] at h
  obtain ⟨v, hv, hc⟩ := h
  obtain ⟨rfl, hfinite⟩ := Scalar.eq_of_ofJson?_toJson hv
  exact ⟨(Option.some.inj hc).symm, hfinite⟩

namespace Node

/-- The bounds that a search body states for a field, one for each member. -/
def rangeOf? (field : String) (body : Json) : Option (List (Bound × Scalar)) := do
  let ranges ← body.member? "range"
  match ← ranges.member? field with
  | .object members => members.mapM boundOfMember?
  | _ => none

def boundMembers (bounds : List (Bound × Scalar)) : List (String × Json) :=
  Entries.ofList (bounds.map fun b => (b.1.key, b.2.toJson))

theorem rangeOf?_toJson (field : String) (bounds : List (Bound × Scalar)) :
    rangeOf? field (range field bounds).toJson = (boundMembers bounds).mapM boundOfMember? := by
  simp [rangeOf?, toJson, wrapped, Json.member?, Entries.find?, boundsJson, Json.ofMembers,
    boundMembers]

theorem mem_boundMembers {bounds : List (Bound × Scalar)} {member : String × Json}
    (h : member ∈ boundMembers bounds) : ∃ b ∈ bounds, member = (b.1.key, b.2.toJson) := by
  obtain ⟨b, hb, rfl⟩ := List.mem_map.mp (Entries.mem_ofList h)
  exact ⟨b, hb, rfl⟩

/-- **The bounds of a range are read back from a search body** exactly if their values are finite
and no two bounds of one kind differ. -/
theorem rangeOf?_toJson_iff (field : String) (bounds : List (Bound × Scalar)) :
    (∃ read, rangeOf? field (range field bounds).toJson = some read
        ∧ ∀ b, b ∈ read ↔ b ∈ bounds)
      ↔ (∀ b ∈ bounds, b.2.Finite) ∧ ∀ a ∈ bounds, ∀ b ∈ bounds, a.1 = b.1 → a.2 = b.2 := by
  rw [rangeOf?_toJson]
  constructor
  · rintro ⟨read, hread, hmem⟩
    have hmember : ∀ b ∈ bounds, (b.1.key, b.2.toJson) ∈ boundMembers bounds ∧ b.2.Finite := by
      intro b hb
      obtain ⟨member, hmember, hb⟩ := (mem_mapM hread b).mp ((hmem b).mpr hb)
      obtain ⟨c, -, rfl⟩ := mem_boundMembers hmember
      obtain ⟨rfl, hfinite⟩ := eq_of_boundOfMember?_toJson hb
      exact ⟨hmember, hfinite⟩
    refine ⟨fun b hb => (hmember b hb).2, fun a ha b hb hkind => ?_⟩
    obtain ⟨ha, hafinite⟩ := hmember a ha
    obtain ⟨hb, hbfinite⟩ := hmember b hb
    rw [hkind] at ha
    have hjson : a.2.toJson = b.2.toJson := (Entries.sorted_ofList _).unique ha hb
    have hvalue := Scalar.ofJson?_toJson hafinite
    rw [hjson, Scalar.ofJson?_toJson hbfinite] at hvalue
    exact (Option.some.inj hvalue).symm
  · rintro ⟨hfinite, hkind⟩
    obtain ⟨read, hread⟩ : ∃ read, (boundMembers bounds).mapM boundOfMember? = some read := by
      refine exists_mapM fun member hmember => ?_
      obtain ⟨b, hb, rfl⟩ := mem_boundMembers hmember
      exact ⟨b, boundOfMember?_toJson (hfinite b hb)⟩
    refine ⟨read, hread, fun b => ?_⟩
    rw [mem_mapM hread]
    constructor
    · rintro ⟨member, hmember, hb⟩
      obtain ⟨c, hc, rfl⟩ := mem_boundMembers hmember
      obtain ⟨rfl, -⟩ := eq_of_boundOfMember?_toJson hb
      exact hc
    · intro hb
      obtain ⟨j, hj⟩ := Entries.exists_mem_ofList
        (List.mem_map_of_mem (f := fun b : Bound × Scalar => (b.1.key, b.2.toJson)) hb)
      obtain ⟨c, hc, heq⟩ := mem_boundMembers hj
      obtain ⟨hkey, rfl⟩ := Prod.mk.inj heq
      -- The member under the name of `b` may come from another bound, but that has the same value.
      have hname : c.1 = b.1 := by
        have hread := Bound.ofKey?_key c.1
        rw [← hkey, Bound.ofKey?_key] at hread
        exact (Option.some.inj hread).symm
      have hsame : c = b := Prod.ext hname (hkind c hc b hb hname)
      subst hsame
      exact ⟨_, hj, boundOfMember?_toJson (hfinite c hb)⟩

end Node

namespace Predicate

/-! ### Range predicates -/

theorem ofPredicate_of_make {field : String} {bounds : List (Bound × Scalar)} {p : Predicate}
    (h : make field .between (.range bounds) = .ok p) :
    Node.ofPredicate p = .range field bounds := by
  obtain ⟨rfl, hop, hoperand⟩ := make_eq_ok_iff.mp h
  obtain ⟨hoperator, -⟩ := Prod.mk.inj hop
  have htests := Node.tests_ofPredicate p
  rw [hoperator, hoperand] at htests
  generalize Node.ofPredicate p = n at htests
  cases htests
  rfl

theorem ofText?_range (field : String) (bounds : List (Bound × Scalar)) :
    ∃ f, Formula.ofText? ((Node.range field bounds).condition false).text = some f
      ∧ ∀ w, f.holds w = bounds.all fun b => (Test.bounded field b.1 b.2).holds w := by
  have hfit : (Condition.ofRange false field bounds).Fits .disjunction :=
    (Condition.fits_ofRange false field bounds).mono (by decide)
  obtain ⟨f, hf, hvalue⟩ := Condition.ofText?_text hfit
  refine ⟨f, by rwa [Node.condition], fun w => ?_⟩
  rw [hvalue, Condition.holds_ofRange, Bool.bne_false]

/-- **A search body states the bounds of a range predicate, as its statement does**, exactly if
their values are finite and no two bounds of one kind differ. -/
theorem range_lossless_iff {field : String} {bounds : List (Bound × Scalar)} {p : Predicate}
    (h : make field .between (.range bounds) = .ok p) :
    (∃ read, Node.rangeOf? field (Node.ofPredicate p).toJson = some read
        ∧ (∀ b, b ∈ read ↔ b ∈ bounds)
        ∧ ∃ f, Formula.ofText? ((Node.ofPredicate p).condition false).text = some f
          ∧ ∀ w, f.holds w = read.all fun b => (Test.bounded field b.1 b.2).holds w)
      ↔ (∀ b ∈ bounds, b.2.Finite) ∧ ∀ a ∈ bounds, ∀ b ∈ bounds, a.1 = b.1 → a.2 = b.2 := by
  rw [ofPredicate_of_make h, ← Node.rangeOf?_toJson_iff field bounds]
  constructor
  · rintro ⟨read, hread, hmem, -⟩
    exact ⟨read, hread, hmem⟩
  · rintro ⟨read, hread, hmem⟩
    obtain ⟨f, hf, hvalue⟩ := ofText?_range field bounds
    refine ⟨read, hread, hmem, f, hf, fun w => ?_⟩
    rw [hvalue, Bool.eq_iff_iff, List.all_eq_true, List.all_eq_true]
    simp only [hmem]

/-- Two bounds of different kinds, which a search body keeps. -/
theorem range_lossless_open :
    ∃ p, make "year" .between (.range [(.atLeast, .integer 1990), (.below, .float 2000.5)]) = .ok p
      ∧ ∃ read, Node.rangeOf? "year" (Node.ofPredicate p).toJson = some read
        ∧ (∀ b, b ∈ read ↔ b ∈ [(Bound.atLeast, Scalar.integer 1990), (.below, .float 2000.5)])
        ∧ ∃ f, Formula.ofText? ((Node.ofPredicate p).condition false).text = some f
          ∧ ∀ w, f.holds w = read.all fun b => (Test.bounded "year" b.1 b.2).holds w := by
  refine ⟨_, rfl, (range_lossless_iff rfl).mpr ⟨?_, ?_⟩⟩
  · simp only [List.forall_mem_cons]
    exact ⟨trivial, by rw [Scalar.Finite]; decide +kernel, by simp⟩
  · simp

/-- Two bounds of one kind: the statement says both, the search body only the later, so a document
that the search finds need not be one that the statement finds. -/
theorem range_drops_first_bound :
    ∃ p, make "x" .between (.range [(.atLeast, .integer 5), (.atLeast, .integer 1)]) = .ok p
      ∧ Node.rangeOf? "x" (Node.ofPredicate p).toJson = some [(.atLeast, .integer 1)]
      ∧ ((Node.ofPredicate p).condition false).text = "`x` >= 5 AND `x` >= 1"
      ∧ ∃ f w, Formula.ofText? ((Node.ofPredicate p).condition false).text = some f
        ∧ (Test.bounded "x" .atLeast (.integer 1)).holds w = true ∧ f.holds w = false := by
  obtain ⟨f, hf, hvalue⟩ := ofText?_range "x" [(.atLeast, .integer 5), (.atLeast, .integer 1)]
  refine ⟨_, rfl, rfl, by decide +kernel, f,
    fun a => a = (Test.bounded "x" .atLeast (.integer 5)).atom.1, hf, ?_, ?_⟩
  · decide +kernel
  · rw [hvalue]
    decide +kernel

end Predicate

end SearchQuery

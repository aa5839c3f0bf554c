import SearchQuery.Edit
import SearchQuery.Proofs.Clauses
import SearchQuery.Proofs.Json.Fields
import SearchQuery.Proofs.Lossless
import SearchQuery.Proofs.Predicate
import SearchQuery.Proofs.Request

/-!
# Search bodies determine requests

No clause, operand or option of a query is lost or merged with another on its way into a search
body.  A body does not say in which order aggregations were registered, and this is all that it does
not say.

The conditions of a body come from predicates.  Those that callers build have operands that nothing
else is written like (`Predicate.Built.lossless`): their bounds are one, or one from below and one
from above, and the fields of their vicinities are parts of a text between commas.

* `Query.lossless_request`: so are the trees of a query, and its aggregations have distinct names.
* `Request.eq_of_toJson`, `Query.body_determines_request`: two requests with one body are one, up to
  the order of their aggregations.
-/

namespace SearchQuery

open Entries (Distinct)

/-! ### Predicates that callers build -/

/-- A predicate of finite values as callers build it, negated any number of times. -/
inductive Predicate.Built : Predicate → Prop
  | compare {field sign : String} {value : Scalar} {p : Predicate} (finite : value.Finite)
    (made : compare field sign value = .ok p) : Built p
  | isIn {field : String} {values : List Scalar} {p : Predicate} (finite : ∀ v ∈ values, v.Finite)
    (made : isIn field values = .ok p) : Built p
  | between {field : String} {low high : Scalar} {p : Predicate} (finite : low.Finite)
    (finite' : high.Finite) (made : between field low high = .ok p) : Built p
  | near {source : String} {latitude longitude distance : Float} {p : Predicate}
    (made : near source latitude longitude distance = .ok p) : Built p
  | negate {p : Predicate} (built : p.Built) : Built p.negate

theorem Vicinity.not_mem_of_fieldsOf? {source latitudeField longitudeField : String}
    (h : fieldsOf? source = some (latitudeField, longitudeField)) :
    ',' ∉ latitudeField.toList ∧ ',' ∉ longitudeField.toList := by
  have hpart : ∀ field ∈ (Text.separated ',' source).map Text.trim, ',' ∉ field.toList := by
    intro field hfield hcomma
    obtain ⟨text, htext, rfl⟩ := List.mem_map.mp hfield
    obtain ⟨part, hpart, rfl⟩ := List.mem_map.mp htext
    rw [Text.trim, String.toList_ofList, String.toList_ofList] at hcomma
    exact Text.not_mem_of_mem_parts hpart (Text.mem_of_mem_trimChars hcomma)
  unfold fieldsOf? at h
  split at h
  · next first second hfields =>
    split at h
    · exact nomatch h
    · obtain ⟨rfl, rfl⟩ := Prod.mk.inj (Option.some.inj h)
      rw [hfields] at hpart
      exact ⟨hpart first (by simp), hpart second (by simp)⟩
  · exact nomatch h

theorem Vicinity.lossless_of_make {source : String} {latitude longitude distance : Float}
    {place : Vicinity} (h : make source latitude longitude distance = .ok place) :
    place.Lossless := by
  have hfinite := finite_of_make h
  unfold make at h
  split at h
  · exact nomatch h
  · next latitudeField longitudeField hfields =>
    split at h
    · exact nomatch h
    · split at h
      · exact nomatch h
      · obtain rfl := Except.ok.inj h
        obtain ⟨hlatitude, hlongitude⟩ := not_mem_of_fieldsOf? hfields
        exact { hfinite with latitudeField := hlatitude, longitudeField := hlongitude }

/-- The operand is known from a search body. -/
def Operand.Lossless : Operand → Prop
  | .scalar v => v.Finite
  | .list vs => ∀ v ∈ vs, v.Finite
  | .range bounds => Node.BoundsLossless bounds
  | .vicinity place => place.Lossless

namespace Predicate

theorem Built.lossless {p : Predicate} (h : p.Built) : p.operand.Lossless := by
  induction h with
  | compare finite made =>
    obtain ⟨op, -, made⟩ := compare_eq_ok_iff.mp made
    obtain ⟨-, -, hoperand⟩ := make_eq_ok_iff.mp made
    rw [hoperand]
    exact finite
  | isIn finite made =>
    obtain ⟨-, -, hoperand⟩ := make_eq_ok_iff.mp made
    rw [hoperand]
    exact finite
  | between finite finite' made =>
    obtain ⟨-, -, hoperand⟩ := make_eq_ok_iff.mp made
    rw [hoperand]
    have hkeys : Bound.atLeast.key < Bound.atMost.key := by decide
    exact ⟨List.pairwise_pair.mpr hkeys,
      List.forall_mem_cons.mpr ⟨finite, List.forall_mem_singleton.mpr finite'⟩⟩
  | near made =>
    obtain ⟨place, hplace, made⟩ := near_eq_ok_iff.mp made
    obtain ⟨-, -, hoperand⟩ := make_eq_ok_iff.mp made
    rw [hoperand]
    exact Vicinity.lossless_of_make hplace
  | negate built ih => exact ih

theorem lossless_ofPredicate {p : Predicate} (h : p.operand.Lossless) :
    (Node.ofPredicate p).Lossless := by
  obtain ⟨field, criterion, negated, named⟩ := p
  cases criterion with
  | equals v => exact h
  | bounded b v => exact ⟨List.pairwise_singleton _ _, List.forall_mem_singleton.mpr h⟩
  | among vs => exact h
  | between first second => exact h
  | near place => exact h

theorem lossless_ofAlternative {p : Predicate} (h : p.operand.Lossless) :
    (Node.ofAlternative p).Lossless := by
  have hp := lossless_ofPredicate h
  unfold Node.ofAlternative
  split
  · simp [Node.Lossless, Node.AllLossless, hp]
  · exact hp

end Predicate

/-! ### Aggregations -/

theorem Aggregation.toJson_injective : Function.Injective toJson := by
  intro a b h
  obtain ⟨field, size⟩ := a
  obtain ⟨field', size'⟩ := b
  have hterms := Json.object.inj (Json.object_singleton_inj h).2
  obtain ⟨hfield, hsize⟩ := List.cons.inj hterms
  obtain rfl : field = field' := Json.string.inj (Prod.mk.inj hfield).2
  cases size with
  | none =>
    cases size' with
    | none => rfl
    | some n => exact nomatch hsize
  | some n =>
    cases size' with
    | none => exact nomatch hsize
    | some m =>
      obtain rfl : n = m := Json.ofWord_injective (Prod.mk.inj (List.cons.inj hsize).1).2
      rfl

section Named

variable {α : Type}

theorem mem_names_setNamed {name n : String} {value : α} {entries : List (String × α)}
    (h : n ∈ (setNamed name value entries).map (·.1)) : n = name ∨ n ∈ entries.map (·.1) := by
  induction entries with
  | nil => exact .inl (by simpa [setNamed] using h)
  | cons e rest ih =>
    obtain ⟨k, v⟩ := e
    rw [setNamed] at h
    split at h
    · exact .inr h
    · rcases List.mem_cons.mp h with rfl | h
      · exact .inr List.mem_cons_self
      · exact (ih h).imp_right (List.mem_cons_of_mem k)

theorem distinct_setNamed {entries : List (String × α)} (h : Distinct entries) (name : String)
    (value : α) : Distinct (setNamed name value entries) := by
  induction entries with
  | nil => exact List.nodup_singleton name
  | cons e rest ih =>
    obtain ⟨k, v⟩ := e
    obtain ⟨hfresh, hrest⟩ := List.nodup_cons.mp h
    rw [setNamed]
    split
    · exact h
    · next hne =>
      refine List.nodup_cons.mpr ⟨fun hmem => ?_, ih hrest⟩
      rcases mem_names_setNamed hmem with heq | hmem
      · exact hne heq
      · exact hfresh hmem

def namedOf (registrations : List (String × α)) : List (String × α) :=
  registrations.foldl (fun entries r => setNamed r.1 r.2 entries) []

/-- **Every name is registered once.** -/
theorem distinct_namedOf (registrations : List (String × α)) :
    Distinct (namedOf registrations) := by
  have hfold : ∀ entries : List (String × α), Distinct entries →
      Distinct (registrations.foldl (fun entries r => setNamed r.1 r.2 entries) entries) := by
    induction registrations with
    | nil => exact fun _ h => h
    | cons r rest ih => exact fun entries h => ih _ (distinct_setNamed h r.1 r.2)
  exact hfold [] List.nodup_nil

end Named

theorem Clauses.eq_empty {α : Type} {c : Clauses α} (h : c.isEmpty = true) : c = {} := by
  obtain ⟨must, should, mustNot⟩ := c
  simpa [isEmpty, and_assoc] using h

theorem Direction.key_injective : Function.Injective key := by
  intro direction direction' h
  cases direction <;> cases direction' <;> first | rfl | exact absurd h (by decide)

namespace Request

theorem member?_aggregationsJson {as : List (String × Aggregation)} (h : Distinct as)
    (name : String) :
    (aggregationsJson as).member? name = (Entries.find? name as).map Aggregation.toJson := by
  have hdistinct : Distinct (as.map fun a => (a.1, a.2.toJson)) := by
    simpa [Distinct, Function.comp_def] using h
  rw [aggregationsJson, Json.member?_ofMembers hdistinct]
  exact Entries.find?_map (fun _ => Aggregation.toJson) name as

theorem aggregationsJson_injective {as bs : List (String × Aggregation)} (h : Distinct as)
    (h' : Distinct bs) (heq : aggregationsJson as = aggregationsJson bs) : as.Perm bs := by
  refine Entries.perm_of_find? h h' fun name => ?_
  refine Option.map_injective Aggregation.toJson_injective ?_
  rw [← member?_aggregationsJson h, ← member?_aggregationsJson h', heq]

/-! ### Requests -/

/-- The request is known from its search body, up to the order of its aggregations. -/
structure Lossless (r : Request) : Prop where
  clauses : ∀ n ∈ r.clauses.must ++ r.clauses.should ++ r.clauses.mustNot, n.Lossless
  aggregations : Distinct r.aggregations

variable {r r' : Request}

theorem clauses_of_queryJson (h : r.Lossless) (h' : r'.Lossless)
    (heq : r.queryJson = r'.queryJson) : r.clauses = r'.clauses := by
  rw [queryJson, queryJson] at heq
  by_cases hempty : r.clauses.isEmpty = true <;> by_cases hempty' : r'.clauses.isEmpty = true
  · rw [Clauses.eq_empty hempty, Clauses.eq_empty hempty']
  · rw [if_pos hempty, if_neg hempty'] at heq
    exact absurd heq (by simp)
  · rw [if_neg hempty, if_pos hempty'] at heq
    exact absurd heq (by simp)
  · rw [if_neg hempty, if_neg hempty'] at heq
    refine Clauses.eq_of_toJson h.clauses h'.clauses ?_
    exact (Json.object_singleton_inj heq).2

theorem sortJson_injective : Function.Injective sortJson := by
  intro key key' h
  obtain ⟨field, direction⟩ := key
  obtain ⟨field', direction'⟩ := key'
  obtain ⟨hfield, hdirection⟩ := Json.object_singleton_inj h
  obtain rfl : field = field' := hfield
  obtain rfl : direction = direction' := Direction.key_injective (Json.string.inj hdirection)
  rfl

theorem sort_of_sortJson {sort sort' : List SortKey}
    (h : (if sort.isEmpty then none else some (Json.array (sort.map sortJson)))
      = if sort'.isEmpty then none else some (.array (sort'.map sortJson))) : sort = sort' := by
  have hfilled : ∀ keys : List SortKey,
      (if keys.isEmpty then none else some (Json.array (keys.map sortJson)))
        = Json.filled? (keys.map sortJson) := by
    intro keys
    rw [Json.filled?, List.isEmpty_map]
  rw [hfilled, hfilled] at h
  exact sortJson_injective.list_map (Json.filled?_injective h)

theorem perm_of_aggregationsJson {as bs : List (String × Aggregation)} (h : Distinct as)
    (h' : Distinct bs)
    (heq : (if as.isEmpty then none else some (aggregationsJson as))
      = if bs.isEmpty then none else some (aggregationsJson bs)) : as.Perm bs := by
  cases as with
  | nil =>
    cases bs with
    | nil => exact .nil
    | cons b rest' => exact nomatch heq
  | cons a rest =>
    cases bs with
    | nil => exact nomatch heq
    | cons b rest' => exact aggregationsJson_injective h h' (Option.some.inj heq)

/-- **Two requests with one search body are one request**, up to the order of aggregations. -/
theorem eq_of_toJson (h : r.Lossless) (h' : r'.Lossless) (heq : r.toJson = r'.toJson) :
    r'.aggregations.Perm r.aggregations ∧ r' = { r with aggregations := r'.aggregations } := by
  have hfields := fields_eq_of_toJson heq
  simp only [fields, List.cons.injEq, Prod.mk.injEq, Option.some.injEq, Json.string.injEq, true_and,
    and_true] at hfields
  obtain ⟨hindex, hquery, hlimit, hoffset, hsort, hhighlight, haggregations, hmatches⟩ := hfields
  have hflag : ∀ {a b : Bool}, (if a then some highlightJson else none)
      = (if b then some highlightJson else none) → a = b := by
    intro a b hab
    cases a <;> cases b <;> first | rfl | exact absurd hab (by simp)
  have hclauses := clauses_of_queryJson h h' hquery
  have hperm := perm_of_aggregationsJson h'.aggregations h.aggregations haggregations.symm
  obtain ⟨index, clauses, limit, offset, sort, highlight, aggregations, maxMatches⟩ := r
  obtain ⟨index', clauses', limit', offset', sort', highlight', aggregations', maxMatches'⟩ := r'
  obtain rfl : index = index' := hindex
  obtain rfl : clauses = clauses' := hclauses
  obtain rfl : limit = limit' := Option.map_injective Json.ofWord_injective hlimit
  obtain rfl : offset = offset' := Option.map_injective Json.ofWord_injective hoffset
  obtain rfl : sort = sort' := sort_of_sortJson hsort
  obtain rfl : highlight = highlight' := hflag hhighlight
  obtain rfl : maxMatches = maxMatches' := by
    refine Option.map_injective (fun n m hnm => ?_) hmatches
    exact Json.ofWord_injective (Json.object_singleton_inj hnm).2
  exact ⟨hperm, rfl⟩

end Request

/-! ### Queries -/

namespace Query

variable {κ : Type}

/-- Callers have built the predicates of the query, and registered its aggregations one after the
other. -/
structure Built (q : Query κ) : Prop where
  predicates : ∀ p ∈ q.clauses.must ++ q.clauses.should ++ q.clauses.mustNot, p.Built
  aggregations : ∃ registrations, q.aggregations = namedOf registrations

theorem lossless_request {q : Query κ} (h : q.Built) (index : String) (settings : Settings) :
    (q.request index settings).Lossless := by
  have hpredicates := h.predicates
  simp only [List.mem_append, or_imp, forall_and] at hpredicates
  obtain ⟨⟨hmust, hshould⟩, hmustNot⟩ := hpredicates
  have hnodes : ∀ {ps : List Predicate}, (∀ p ∈ ps, p.Built) → ∀ keep : Predicate → Bool,
      ∀ n ∈ (ps.filter keep).map Node.ofPredicate, n.Lossless := by
    intro ps hps keep n hn
    obtain ⟨p, hp, rfl⟩ := List.mem_map.mp hn
    exact Predicate.lossless_ofPredicate (hps p (List.mem_of_mem_filter hp)).lossless
  refine ⟨fun n hn => ?_, ?_⟩
  · simp only [request, Clauses.toNodes, List.mem_append] at hn
    -- Full-text clauses come first, and each list takes the negated predicates of the other.
    rcases hn with (((hn | hn) | hn) | hn) | hn | hn
    · obtain ⟨clause, -, rfl⟩ := List.mem_map.mp hn
      rw [Node.Lossless]
      trivial
    · exact hnodes hmust _ n hn
    · exact hnodes hmustNot _ n hn
    · obtain ⟨p, hp, rfl⟩ := List.mem_map.mp hn
      exact Predicate.lossless_ofAlternative (hshould p hp).lossless
    · exact hnodes hmust _ n hn
    · exact hnodes hmustNot _ n hn
  · obtain ⟨registrations, hregistered⟩ := h.aggregations
    show Distinct q.aggregations
    rw [hregistered]
    exact distinct_namedOf registrations

/-- **A search body determines the request.**  Two queries with one search body ask for the same
index, the same conditions in the same order, the same window, order, highlighting and bound on
matches, and the same aggregations up to their order. -/
theorem body_determines_request {q q' : Query κ} (h : q.Built) (h' : q'.Built)
    {index index' : String} {settings settings' : Settings}
    (heq : (q.request index settings).toJson = (q'.request index' settings').toJson) :
    q'.aggregations.Perm q.aggregations ∧ q'.request index' settings'
      = { q.request index settings with aggregations := q'.aggregations } :=
  Request.eq_of_toJson (lossless_request h index settings) (lossless_request h' index' settings')
    heq

/-- A negated test that must hold and one that must not, which change places, and an aggregation
that is registered again. -/
theorem body_determines_request_moved :
    let rated : Predicate :=
      { field := "rating", criterion := .bounded .atLeast (.float 4.5), negated := false
        named := by decide }
    let tagged : Predicate :=
      { field := "tag", criterion := .among [.text "5", .integer 5], negated := false
        named := by decide }
    let near : Predicate :=
      { field := "lat , lon", criterion := .near ⟨"lat", "lon", 1.0, -2.0, 1500.5⟩
        negated := false, named := by decide }
    let years : Predicate :=
      { field := "year", criterion := .between (.atLeast, .integer 1990) (.atMost, .float 2000.0)
        negated := false, named := by decide }
    let q : Query Unit :=
      { matching := [.anywhere "whale"]
        clauses :=
          { must := [rated, tagged.negate], should := [years.negate], mustNot := [near.negate] }
        limit := some 5
        aggregations := namedOf [("years", ⟨"year", none⟩), ("tags", ⟨"tag", some 3⟩),
          ("years", ⟨"year", some 10⟩)] }
    let q' : Query Unit :=
      { matching := [.anywhere "whale"]
        clauses := { must := [rated, near], should := [years.negate], mustNot := [tagged] }
        limit := some 5, maxMatches := some 1000
        aggregations := namedOf [("tags", ⟨"tag", some 3⟩), ("years", ⟨"year", some 10⟩)] }
    (q.request "books" {}).toJson = (q'.request "books" { maxMatches := none }).toJson
      ∧ q'.aggregations.Perm q.aggregations ∧ q'.aggregations ≠ q.aggregations
      ∧ q'.request "books" { maxMatches := none }
        = { q.request "books" {} with aggregations := q'.aggregations } := by
  intro rated tagged near years q q'
  have hrated : rated.Built := by
    refine @Predicate.Built.compare "rating" ">=" (.float 4.5) rated ?_ rfl
    rw [Scalar.Finite]
    decide +kernel
  have htagged : tagged.Built := by
    refine @Predicate.Built.isIn "tag" [.text "5", .integer 5] tagged ?_ rfl
    simp [Scalar.Finite]
  have hnear : near.Built := @Predicate.Built.near "lat , lon" 1.0 (-2.0) 1500.5 near rfl
  have hyears : years.Built := by
    refine @Predicate.Built.between "year" (.integer 1990) (.float 2000.0) years trivial ?_ rfl
    rw [Scalar.Finite]
    decide +kernel
  have hbuilt : q.Built :=
    { predicates := by simp [q, hrated, htagged.negate, hnear.negate, hyears.negate]
      aggregations := ⟨_, rfl⟩ }
  have hbuilt' : q'.Built :=
    { predicates := by simp [q', hrated, htagged, hnear, hyears.negate]
      aggregations := ⟨_, rfl⟩ }
  have hbody : (q.request "books" {}).toJson
      = (q'.request "books" { maxMatches := none }).toJson := rfl
  obtain ⟨hperm, hrequest⟩ := body_determines_request hbuilt hbuilt' hbody
  exact ⟨hbody, hperm, by decide, hrequest⟩

end Query

end SearchQuery

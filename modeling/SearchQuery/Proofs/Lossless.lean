import SearchQuery.Proofs.Decimal.ReadBack
import SearchQuery.Proofs.Json.Members
import SearchQuery.Proofs.Range

/-!
# Query trees are known from search bodies

Two query trees that a search body shows alike are one tree, if nothing in them is written like
something else: numbers are finite, bounds are of different kinds and in order, and the fields of a
vicinity have no comma in their names (`Node.Lossless`).

The proof goes down the two trees at once.  What a search body shows of a condition is one member,
whose name tells the kind (`Node.sameKind_of_toJson`), and then each kind has its own parts.

* `Scalar.toJson_injective`, `boundsJson_injective`, `vicinityJson_injective`: the leaves.
* `groupJson_injective`: the three lists of a group, each of which may be left out.
* `Node.eq_of_toJson`, `Clauses.eq_of_toJson`: trees and their three lists.
-/

namespace SearchQuery

theorem eq_of_map_eq {α β : Type} {f : α → β} {as bs : List α}
    (hf : ∀ a ∈ as, ∀ b ∈ bs, f a = f b → a = b) (h : as.map f = bs.map f) : as = bs := by
  induction as generalizing bs with
  | nil => exact (List.map_eq_nil_iff.mp h.symm).symm
  | cons a as ih =>
    obtain ⟨b, rest, rfl, hfirst, hrest⟩ := List.map_eq_cons_iff.mp h.symm
    have hhead : a = b := hf a List.mem_cons_self b List.mem_cons_self hfirst.symm
    have htail : as = rest := by
      refine ih (fun c hc d hd => ?_) hrest.symm
      exact hf c (List.mem_cons_of_mem a hc) d (List.mem_cons_of_mem b hd)
    rw [hhead, htail]

/-! ### Values -/

theorem Json.ofFloat_injective {x y : Float} (hx : x.isFinite = true) (hy : y.isFinite = true)
    (h : ofFloat x = ofFloat y) : x = y := by
  rw [ofFloat_eq, ofFloat_eq, if_pos hx, if_pos hy] at h
  exact Number.float.inj (number.inj h)

theorem Scalar.toJson_injective {v w : Scalar} (hv : v.Finite) (hw : w.Finite)
    (h : v.toJson = w.toJson) : v = w := by
  have hread := ofJson?_toJson hv
  rw [h, ofJson?_toJson hw] at hread
  exact (Option.some.inj hread).symm

theorem Bound.key_injective {b c : Bound} (h : b.key = c.key) : b = c := by
  have hread := ofKey?_key b
  rw [h, ofKey?_key] at hread
  exact (Option.some.inj hread).symm

/-! ### Vicinities -/

/-- The vicinity is known from a search body: its numbers are finite, and its two fields are told
apart at the only comma. -/
structure Vicinity.Lossless (place : Vicinity) : Prop extends place.Finite where
  latitudeField : ',' ∉ place.latitudeField.toList
  longitudeField : ',' ∉ place.longitudeField.toList

theorem Vicinity.Lossless.fields_of_source {place other : Vicinity} (h : place.Lossless)
    (heq : place.source = other.source) :
    place.latitudeField = other.latitudeField ∧ place.longitudeField = other.longitudeField := by
  have hsource : ∀ v : Vicinity, v.source.toList
      = v.latitudeField.toList ++ ',' :: v.longitudeField.toList := by
    intro v
    simp [source]
  have hchars := congrArg String.toList heq
  rw [hsource, hsource, List.append_cons_inj_of_notMem h.latitudeField h.longitudeField] at hchars
  exact ⟨String.toList_inj.mp hchars.1, String.toList_inj.mp hchars.2.2⟩

namespace Node

def vicinityMembers (v : Vicinity) : List (String × Json) :=
  [("location_anchor", .object [("lat", .ofFloat v.latitude), ("lon", .ofFloat v.longitude)]),
    ("location_source", .string v.source),
    ("distance_type", .string "adaptive"),
    ("distance", .string (Decimal.plain.text v.distance ++ " m"))]

theorem vicinityJson_eq (v : Vicinity) :
    vicinityJson v = .object [("geo_distance", .ofMembers (vicinityMembers v))] :=
  rfl

theorem distinct_vicinityMembers (v : Vicinity) : Entries.Distinct (vicinityMembers v) := by
  show ["location_anchor", "location_source", "distance_type", "distance"].Nodup
  decide

theorem vicinityJson_injective {place other : Vicinity} (h : place.Lossless) (h' : other.Lossless)
    (heq : vicinityJson place = vicinityJson other) : place = other := by
  rw [vicinityJson_eq, vicinityJson_eq] at heq
  have hmembers : vicinityMembers place = vicinityMembers other := by
    refine Json.eq_of_ofMembers rfl (distinct_vicinityMembers place) ?_
    exact (Json.object_singleton_inj heq).2
  simp only [vicinityMembers, List.cons.injEq, Prod.mk.injEq, Json.object.injEq, Json.string.injEq,
    true_and, and_true] at hmembers
  obtain ⟨⟨hlatitude, hlongitude⟩, hsource, hdistance⟩ := hmembers
  obtain ⟨hlatitudeField, hlongitudeField⟩ := h.fields_of_source hsource
  have hsame : place.distance = other.distance := by
    refine Decimal.text_plain_injective h.distance h'.distance ?_
    exact String.append_left_inj _ |>.mp hdistance
  obtain ⟨latitudeField, longitudeField, latitude, longitude, distance⟩ := place
  obtain rfl : latitudeField = other.latitudeField := hlatitudeField
  obtain rfl : longitudeField = other.longitudeField := hlongitudeField
  obtain rfl : latitude = other.latitude :=
    Json.ofFloat_injective h.latitude h'.latitude hlatitude
  obtain rfl : longitude = other.longitude :=
    Json.ofFloat_injective h.longitude h'.longitude hlongitude
  obtain rfl : distance = other.distance := hsame
  rfl

/-! ### Bounds -/

/-- Bounds of different kinds in the order of their names, with finite values. -/
structure BoundsLossless (bounds : List (Bound × Scalar)) : Prop where
  sorted : bounds.Pairwise fun a b => a.1.key < b.1.key
  finite : ∀ b ∈ bounds, b.2.Finite

theorem BoundsLossless.boundsJson_eq {bounds : List (Bound × Scalar)} (h : BoundsLossless bounds) :
    boundsJson bounds = .object (bounds.map fun b => (b.1.key, b.2.toJson)) :=
  Json.ofMembers_of_sorted (List.pairwise_map.mpr h.sorted)

theorem boundsJson_injective {bounds bounds' : List (Bound × Scalar)} (h : BoundsLossless bounds)
    (h' : BoundsLossless bounds') (heq : boundsJson bounds = boundsJson bounds') :
    bounds = bounds' := by
  rw [h.boundsJson_eq, h'.boundsJson_eq] at heq
  refine eq_of_map_eq (fun b hb c hc hbc => ?_) (Json.object.inj heq)
  obtain ⟨hkey, hvalue⟩ := Prod.mk.inj hbc
  exact Prod.ext (Bound.key_injective hkey)
    (Scalar.toJson_injective (h.finite b hb) (h'.finite c hc) hvalue)

/-! ### Groups -/

def groupFields (must should mustNot : List Json) : List (String × Option Json) :=
  [("must", Json.filled? must), ("should", Json.filled? should),
    ("must_not", Json.filled? mustNot)]

theorem groupJson_eq (must should mustNot : List Json) :
    groupJson must should mustNot
      = .ofMembers (Json.present (groupFields must should mustNot)) := by
  have hlist : ∀ (name : String) (nodes : List Json),
      (Json.filled? nodes).map (fun v => (name, v))
        = if nodes.isEmpty then none else some (name, .array nodes) := by
    intro name nodes
    cases nodes <;> rfl
  simp only [groupJson, Json.present_eq_filterMap, groupFields, List.map_cons, List.map_nil, hlist,
    List.filterMap_cons, List.filterMap_nil, id]

theorem groupJson_injective {must should mustNot must' should' mustNot' : List Json}
    (h : groupJson must should mustNot = groupJson must' should' mustNot') :
    must = must' ∧ should = should' ∧ mustNot = mustNot' := by
  rw [groupJson_eq, groupJson_eq] at h
  have hdistinct : Entries.Distinct (groupFields must should mustNot) := by
    show ["must", "should", "must_not"].Nodup
    decide
  have hfields : groupFields must should mustNot = groupFields must' should' mustNot' :=
    Json.eq_of_ofMembers_present rfl hdistinct h
  simp only [groupFields, List.cons.injEq, Prod.mk.injEq, true_and, and_true] at hfields
  obtain ⟨hmust, hshould, hmustNot⟩ := hfields
  exact ⟨Json.filled?_injective hmust, Json.filled?_injective hshould,
    Json.filled?_injective hmustNot⟩

/-! ### Trees -/

mutual

/-- Nothing in the tree is written in a search body like something else. -/
def Lossless : Node → Prop
  | .equals _ v => v.Finite
  | .among _ vs => ∀ v ∈ vs, v.Finite
  | .range _ bounds => BoundsLossless bounds
  | .near place => place.Lossless
  | .fullText _ => True
  | .group must should mustNot => AllLossless must ∧ AllLossless should ∧ AllLossless mustNot

def AllLossless : List Node → Prop
  | [] => True
  | n :: rest => n.Lossless ∧ AllLossless rest

end

theorem allLossless_iff {ns : List Node} : AllLossless ns ↔ ∀ n ∈ ns, n.Lossless := by
  induction ns with
  | nil => simp [AllLossless]
  | cons n rest ih => simp [AllLossless, ih]

inductive SameKind : Node → Node → Prop
  | equals {field field' : String} {v v' : Scalar} :
    SameKind (.equals field v) (.equals field' v')
  | among {field field' : String} {vs vs' : List Scalar} :
    SameKind (.among field vs) (.among field' vs')
  | range {field field' : String} {bounds bounds' : List (Bound × Scalar)} :
    SameKind (.range field bounds) (.range field' bounds')
  | near {place place' : Vicinity} : SameKind (.near place) (.near place')
  | fullText {clause clause' : FullText} : SameKind (.fullText clause) (.fullText clause')
  | group {must should mustNot must' should' mustNot' : List Node} :
    SameKind (.group must should mustNot) (.group must' should' mustNot')

def memberName : Node → String
  | .equals _ _ => "equals"
  | .among _ _ => "in"
  | .range _ _ => "range"
  | .near _ => "geo_distance"
  | .fullText _ => "match"
  | .group _ _ _ => "bool"

theorem exists_toJson (n : Node) : ∃ content, n.toJson = .object [(n.memberName, content)] := by
  cases n <;> rw [toJson] <;> exact ⟨_, rfl⟩

/-- The name of the member tells the kind of the condition. -/
theorem sameKind_of_toJson {n n' : Node} (h : n.toJson = n'.toJson) : SameKind n n' := by
  obtain ⟨content, hcontent⟩ := n.exists_toJson
  obtain ⟨content', hcontent'⟩ := n'.exists_toJson
  have hname : n.memberName = n'.memberName := by
    rw [hcontent, hcontent'] at h
    exact (Json.object_singleton_inj h).1
  cases n <;> cases n' <;> first | constructor | exact absurd hname (by simp [memberName])

theorem wrapped_injective {name field field' : String} {value value' : Json}
    (h : wrapped name field value = wrapped name field' value') :
    field = field' ∧ value = value' :=
  Json.object_singleton_inj (Json.object_singleton_inj h).2

mutual

/-- **Two trees that a search body shows alike are one tree.** -/
theorem eq_of_toJson : ∀ {n n' : Node}, n.Lossless → n'.Lossless → n.toJson = n'.toJson → n = n'
  | .equals field v, n', h, h', heq => by
    cases sameKind_of_toJson heq with
    | @equals _ field' _ v' =>
      rw [Lossless] at h h'
      rw [toJson, toJson] at heq
      obtain ⟨rfl, hvalue⟩ := wrapped_injective heq
      rw [Scalar.toJson_injective h h' hvalue]
  | .among field vs, n', h, h', heq => by
    cases sameKind_of_toJson heq with
    | @among _ field' _ vs' =>
      rw [Lossless] at h h'
      rw [toJson, toJson] at heq
      obtain ⟨rfl, hvalues⟩ := wrapped_injective heq
      have hsame : vs = vs' := by
        refine eq_of_map_eq (fun v hv w hw => ?_) (Json.array.inj hvalues)
        exact Scalar.toJson_injective (h v hv) (h' w hw)
      rw [hsame]
  | .range field bounds, n', h, h', heq => by
    cases sameKind_of_toJson heq with
    | @range _ field' _ bounds' =>
      rw [Lossless] at h h'
      rw [toJson, toJson] at heq
      obtain ⟨rfl, hbounds⟩ := wrapped_injective heq
      rw [boundsJson_injective h h' hbounds]
  | .near place, n', h, h', heq => by
    cases sameKind_of_toJson heq with
    | @near _ place' =>
      rw [Lossless] at h h'
      rw [toJson, toJson] at heq
      rw [vicinityJson_injective h h' heq]
  | .fullText clause, n', _, _, heq => by
    cases sameKind_of_toJson heq with
    | @fullText _ clause' =>
      rw [toJson, toJson] at heq
      obtain ⟨hfield, hkeywords⟩ := wrapped_injective heq
      obtain ⟨keywords, field⟩ := clause
      obtain rfl : field = clause'.field := hfield
      obtain rfl : keywords = clause'.keywords := Json.string.inj hkeywords
      rfl
  | .group must should mustNot, n', h, h', heq => by
    cases sameKind_of_toJson heq with
    | @group _ _ _ must' should' mustNot' =>
      rw [Lossless] at h h'
      rw [toJson, toJson] at heq
      have hgroup := (Json.object_singleton_inj heq).2
      obtain ⟨hmust, hshould, hmustNot⟩ := groupJson_injective hgroup
      rw [eq_of_listJson h.1 h'.1 hmust, eq_of_listJson h.2.1 h'.2.1 hshould,
        eq_of_listJson h.2.2 h'.2.2 hmustNot]

theorem eq_of_listJson : ∀ {ns ns' : List Node}, AllLossless ns → AllLossless ns' →
    listJson ns = listJson ns' → ns = ns'
  | [], [], _, _, _ => rfl
  | [], _ :: _, _, _, heq => nomatch heq
  | _ :: _, [], _, _, heq => nomatch heq
  | n :: rest, n' :: rest', h, h', heq => by
    rw [AllLossless] at h h'
    rw [listJson, listJson] at heq
    obtain ⟨hfirst, hrest⟩ := List.cons.inj heq
    rw [eq_of_toJson h.1 h'.1 hfirst, eq_of_listJson h.2 h'.2 hrest]

end

end Node

/-- **Two rows of lists that a search body shows alike are one row.** -/
theorem Clauses.eq_of_toJson {c c' : Clauses Node}
    (h : ∀ n ∈ c.must ++ c.should ++ c.mustNot, n.Lossless)
    (h' : ∀ n ∈ c'.must ++ c'.should ++ c'.mustNot, n.Lossless) (heq : c.toJson = c'.toJson) :
    c = c' := by
  have hparts : ∀ {d : Clauses Node}, (∀ n ∈ d.must ++ d.should ++ d.mustNot, n.Lossless) →
      Node.AllLossless d.must ∧ Node.AllLossless d.should ∧ Node.AllLossless d.mustNot := by
    intro d hd
    simpa [Node.allLossless_iff, or_imp, forall_and] using hd
  obtain ⟨hmust, hshould, hmustNot⟩ := Node.groupJson_injective heq
  obtain ⟨must, should, mustNot⟩ := c
  obtain rfl : must = c'.must := Node.eq_of_listJson (hparts h).1 (hparts h').1 hmust
  obtain rfl : should = c'.should := Node.eq_of_listJson (hparts h).2.1 (hparts h').2.1 hshould
  obtain rfl : mustNot = c'.mustNot :=
    Node.eq_of_listJson (hparts h).2.2 (hparts h').2.2 hmustNot
  rfl

end SearchQuery

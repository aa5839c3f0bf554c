import SearchQuery.Proofs.Json.Fields
import SearchQuery.Stored

/-!
# Operands are read back from their stored form

An operand is written under the name of its shape, and its values under no name at all: a truth
value, a number or a string tells the kind of a scalar.  Therefore it matters that the three kinds
of numbers are never mixed up, and that a number that JSON does not have is written as `null`, which
is no scalar.  So the operand that is read is always the one that was written, and one is read
exactly if all floating-point numbers in it are finite (`Operand.Finite`).

An operand may have been read from another form than its own: from an array of the parts of a
vicinity, from the name of a bound in an object, or from a whole number beyond 64 bits with sign.
Its numbers are finite all the same, so that it is read back from its own form.

* `Scalar.ofJson?_toJson_iff`, `Operand.boundOfJson?_toJson_iff`, `Vicinity.ofJson?_toJson_iff`:
  the parts of operands.
* `Json.listOf?_map_iff`: lists of such parts.
* `Operand.ofJson?_toJson_iff`: what is read of what was written.
* `Operand.finite_of_ofJson?`: what is read of any value.
* `Operand.read?_toJson`: the text of the stored form.
* `Operand.kept_in_storage`: the three together.
-/

namespace SearchQuery

/-! ### Numbers in operands -/

def Scalar.floats : Scalar → List Float
  | .float x => [x]
  | _ => []

namespace Operand

def floats : Operand → List Float
  | .scalar v => v.floats
  | .list vs => vs.flatMap Scalar.floats
  | .range bs => bs.flatMap fun b => b.2.floats
  | .vicinity place => [place.latitude, place.longitude, place.distance]

def Finite (o : Operand) : Prop :=
  ∀ x ∈ o.floats, x.isFinite = true

end Operand

theorem Scalar.finite_iff_floats {v : Scalar} : v.Finite ↔ ∀ x ∈ v.floats, x.isFinite = true := by
  cases v <;> simp [Finite, floats]

theorem Vicinity.finite_iff {place : Vicinity} :
    place.Finite ↔ place.latitude.isFinite = true ∧ place.longitude.isFinite = true
      ∧ place.distance.isFinite = true :=
  ⟨fun h => ⟨h.latitude, h.longitude, h.distance⟩, fun h => ⟨h.1, h.2.1, h.2.2⟩⟩

namespace Operand

theorem finite_iff (o : Operand) :
    o.Finite ↔ match o with
      | .scalar v => v.Finite
      | .list vs => ∀ v ∈ vs, v.Finite
      | .range bs => ∀ b ∈ bs, b.2.Finite
      | .vicinity place => place.Finite := by
  cases o with
  | scalar v => exact Scalar.finite_iff_floats.symm
  | list vs => simp only [Finite, floats, List.forall_mem_flatMap, Scalar.finite_iff_floats]
  | range bs => simp only [Finite, floats, List.forall_mem_flatMap, Scalar.finite_iff_floats]
  | vicinity place => simp [Finite, floats, Vicinity.finite_iff]

end Operand

/-! ### What is read of what was written -/

theorem Json.asFloat?_ofFloat_iff {x y : Float} :
    (ofFloat x).asFloat? = some y ↔ y = x ∧ x.isFinite = true := by
  rw [ofFloat_eq]
  cases x.isFinite <;> simp [asFloat?, eq_comm]

theorem Scalar.ofJson?_toJson_iff {v u : Scalar} :
    ofJson? v.toJson = some u ↔ u = v ∧ v.Finite := by
  constructor
  · exact eq_of_ofJson?_toJson
  · rintro ⟨rfl, h⟩
    exact ofJson?_toJson h

/-- Items of which each is read as itself or not at all make a list that is so read. -/
theorem Json.listOf?_map_iff {α : Type} {write : α → Json} {read : Json → Option α}
    {Kept : α → Prop} (h : ∀ {a b}, read (write a) = some b ↔ b = a ∧ Kept a) {as bs : List α} :
    listOf? read (.array (as.map write)) = some bs ↔ bs = as ∧ ∀ a ∈ as, Kept a := by
  show (as.map write).mapM read = some bs ↔ _
  induction as generalizing bs with
  | nil => simp [eq_comm]
  | cons a as ih =>
    rw [List.map_cons, List.mapM_cons, List.forall_mem_cons]
    simp only [Option.bind_eq_bind, Option.bind_eq_some_iff, h, ih]
    constructor
    · rintro ⟨_, ⟨rfl, ha⟩, _, ⟨rfl, hrest⟩, hbs⟩
      exact ⟨(Option.some.inj hbs).symm, ha, hrest⟩
    · rintro ⟨rfl, ha, hrest⟩
      exact ⟨a, ⟨rfl, ha⟩, as, ⟨rfl, hrest⟩, rfl⟩

theorem Bound.ofJson?_toJson (b : Bound) : ofJson? b.toJson = some b :=
  ofKey?_key b

theorem Operand.boundOfJson?_toJson_iff {b c : Bound × Scalar} :
    boundOfJson? (boundToJson b) = some c ↔ c = b ∧ b.2.Finite := by
  show (Bound.ofJson? b.1.toJson).bind (fun bound => (Scalar.ofJson? b.2.toJson).bind
    fun v => some (bound, v)) = some c ↔ _
  rw [Bound.ofJson?_toJson, Option.bind_some, Option.bind_eq_some_iff]
  simp only [Scalar.ofJson?_toJson_iff]
  constructor
  · rintro ⟨v, ⟨rfl, hfinite⟩, hc⟩
    exact ⟨(Option.some.inj hc).symm, hfinite⟩
  · rintro ⟨rfl, hfinite⟩
    exact ⟨c.2, ⟨rfl, hfinite⟩, rfl⟩

namespace Vicinity

def fields : List (String × Json.Presence) :=
  [("lat_field", .required), ("lon_field", .required), ("lat", .required), ("lon", .required),
    ("distance_meters", .required)]

theorem ofJson?_eq_some_iff {v : Json} {place : Vicinity} :
    ofJson? v = some place ↔ ∃ latitudeField longitudeField latitude longitude distance,
      v.fields? fields = some [some latitudeField, some longitudeField, some latitude,
        some longitude, some distance]
      ∧ latitudeField.asString? = some place.latitudeField
      ∧ longitudeField.asString? = some place.longitudeField
      ∧ latitude.asFloat? = some place.latitude
      ∧ longitude.asFloat? = some place.longitude
      ∧ distance.asFloat? = some place.distance := by
  constructor
  · intro hread
    obtain ⟨found, hfound, hread⟩ := Option.bind_eq_some_iff.mp hread
    split at hread
    · next latitudeField longitudeField latitude longitude distance =>
      obtain ⟨_, hlatitudeField, hread⟩ := Option.bind_eq_some_iff.mp hread
      obtain ⟨_, hlongitudeField, hread⟩ := Option.bind_eq_some_iff.mp hread
      obtain ⟨_, hlatitude, hread⟩ := Option.bind_eq_some_iff.mp hread
      obtain ⟨_, hlongitude, hread⟩ := Option.bind_eq_some_iff.mp hread
      obtain ⟨_, hdistance, hread⟩ := Option.bind_eq_some_iff.mp hread
      obtain rfl := Option.some.inj hread
      exact ⟨_, _, _, _, _, hfound, hlatitudeField, hlongitudeField, hlatitude, hlongitude,
        hdistance⟩
    · exact nomatch hread
  · rintro ⟨_, _, _, _, _, hfound, hlatitudeField, hlongitudeField, hlatitude, hlongitude,
      hdistance⟩
    show (v.fields? fields).bind _ = some place
    rw [hfound, Option.bind_some]
    dsimp only
    rw [hlatitudeField, hlongitudeField, hlatitude, hlongitude, hdistance]
    rfl

def members (place : Vicinity) : List (String × Json) :=
  [("lat_field", .string place.latitudeField), ("lon_field", .string place.longitudeField),
    ("lat", .ofFloat place.latitude), ("lon", .ofFloat place.longitude),
    ("distance_meters", .ofFloat place.distance)]

theorem toJson_eq (place : Vicinity) : place.toJson = .ofMembers place.members := by
  rw [toJson, members]

theorem distinct_members (place : Vicinity) : Entries.Distinct place.members := by
  show ["lat_field", "lon_field", "lat", "lon", "distance_meters"].Nodup
  decide

theorem fields?_toJson (place : Vicinity) :
    place.toJson.fields? fields = some [some (.string place.latitudeField),
      some (.string place.longitudeField), some (.ofFloat place.latitude),
      some (.ofFloat place.longitude), some (.ofFloat place.distance)] := by
  have hfind : ∀ name, Entries.find? name (Entries.ofList place.members)
      = Entries.find? name place.members :=
    Json.member?_ofMembers place.distinct_members
  rw [toJson_eq, Json.ofMembers]
  simp only [fields, Json.fields?, Json.named?, hfind]
  rfl

theorem ofJson?_toJson_iff {place other : Vicinity} :
    ofJson? place.toJson = some other ↔ other = place ∧ place.Finite := by
  rw [ofJson?_eq_some_iff, fields?_toJson, finite_iff]
  constructor
  · rintro ⟨_, _, _, _, _, hfound, hlatitudeField, hlongitudeField, hlatitude, hlongitude,
      hdistance⟩
    cases hfound
    rw [Json.asFloat?_ofFloat_iff] at hlatitude hlongitude hdistance
    obtain ⟨latitudeField, longitudeField, latitude, longitude, distance⟩ := other
    obtain rfl : place.latitudeField = latitudeField := Option.some.inj hlatitudeField
    obtain rfl : place.longitudeField = longitudeField := Option.some.inj hlongitudeField
    obtain ⟨rfl, hlatitude⟩ := hlatitude
    obtain ⟨rfl, hlongitude⟩ := hlongitude
    obtain ⟨rfl, hdistance⟩ := hdistance
    exact ⟨rfl, hlatitude, hlongitude, hdistance⟩
  · rintro ⟨rfl, hlatitude, hlongitude, hdistance⟩
    exact ⟨_, _, _, _, _, rfl, rfl, rfl, Json.asFloat?_ofFloat_iff.mpr ⟨rfl, hlatitude⟩,
      Json.asFloat?_ofFloat_iff.mpr ⟨rfl, hlongitude⟩,
      Json.asFloat?_ofFloat_iff.mpr ⟨rfl, hdistance⟩⟩

end Vicinity

namespace Operand

theorem map_eq_some_iff_of {α : Type} {read : Option α} {a : α} {Kept : Prop}
    (h : ∀ {b}, read = some b ↔ b = a ∧ Kept) (shape : α → Operand) {u : Operand} :
    read.map shape = some u ↔ u = shape a ∧ Kept := by
  rw [Option.map_eq_some_iff]
  constructor
  · rintro ⟨b, hb, rfl⟩
    obtain ⟨rfl, hkept⟩ := h.mp hb
    exact ⟨rfl, hkept⟩
  · rintro ⟨rfl, hkept⟩
    exact ⟨a, h.mpr ⟨rfl, hkept⟩, rfl⟩

/-- **The operand that is read is the one that was written**, and one is read if it is finite. -/
theorem ofJson?_toJson_iff {o u : Operand} : ofJson? o.toJson = some u ↔ u = o ∧ o.Finite := by
  rw [finite_iff]
  cases o with
  | scalar v => exact map_eq_some_iff_of Scalar.ofJson?_toJson_iff scalar
  | list vs => exact map_eq_some_iff_of (Json.listOf?_map_iff Scalar.ofJson?_toJson_iff) list
  | range bs => exact map_eq_some_iff_of (Json.listOf?_map_iff boundOfJson?_toJson_iff) range
  | vicinity place => exact map_eq_some_iff_of Vicinity.ofJson?_toJson_iff vicinity

end Operand

/-! ### What is read of any value -/

theorem Scalar.finite_of_ofJson? {v : Json} (hv : v.isRepresentable = true) {u : Scalar}
    (h : ofJson? v = some u) : u.Finite := by
  cases u with
  | float x =>
    unfold ofJson? at h
    split at h
    · exact nomatch h
    · exact nomatch h
    · split at h
      · exact nomatch h
      · obtain ⟨y, hy, hx⟩ := Option.map_eq_some_iff.mp h
        obtain rfl : y = x := float.inj hx
        exact Json.isFinite_of_asFloat? hv hy
  | _ => trivial

theorem Json.isRepresentable_of_mem {items : List Json}
    (h : (Json.array items).isRepresentable = true) {v : Json} (hv : v ∈ items) :
    v.isRepresentable = true :=
  areRepresentable_iff.mp h v hv

theorem Json.forall_mem_of_listOf? {α : Type} {read : Json → Option α} {Kept : α → Prop}
    (hread : ∀ {v : Json}, v.isRepresentable = true → ∀ {a}, read v = some a → Kept a) {v : Json}
    (hv : v.isRepresentable = true) {as : List α} (h : listOf? read v = some as) :
    ∀ a ∈ as, Kept a := by
  intro a ha
  obtain ⟨items, rfl, item, hitem, hvalue⟩ := of_mem_listOf? h ha
  exact hread (isRepresentable_of_mem hv hitem) hvalue

theorem Operand.finite_of_boundOfJson? {v : Json} (hv : v.isRepresentable = true)
    {b : Bound × Scalar} (h : boundOfJson? v = some b) : b.2.Finite := by
  unfold boundOfJson? at h
  split at h
  · next bound value =>
    obtain ⟨k, -, h⟩ := Option.bind_eq_some_iff.mp h
    obtain ⟨u, hu, h⟩ := Option.bind_eq_some_iff.mp h
    obtain rfl : (k, u) = b := Option.some.inj h
    exact Scalar.finite_of_ofJson? (Json.isRepresentable_of_mem hv (by simp)) hu
  · exact nomatch h

theorem Vicinity.finite_of_ofJson? {v : Json} (hv : v.isRepresentable = true) {place : Vicinity}
    (h : ofJson? v = some place) : place.Finite := by
  obtain ⟨_, _, latitude, longitude, distance, hfound, -, -, hlatitude, hlongitude, hdistance⟩ :=
    ofJson?_eq_some_iff.mp h
  have hpart : ∀ w : Json, some w ∈ [some latitude, some longitude, some distance] →
      w.isRepresentable = true := by
    intro w hw
    refine Json.isRepresentable_of_fields? hv hfound ?_
    exact List.mem_cons_of_mem _ (List.mem_cons_of_mem _ hw)
  exact {
    latitude := Json.isFinite_of_asFloat? (hpart _ (by simp)) hlatitude
    longitude := Json.isFinite_of_asFloat? (hpart _ (by simp)) hlongitude
    distance := Json.isFinite_of_asFloat? (hpart _ (by simp)) hdistance }

namespace Operand

/-- **What is read is finite**, in whatever form it stood. -/
theorem finite_of_ofJson? {v : Json} (hv : v.isRepresentable = true) {o : Operand}
    (h : ofJson? v = some o) : o.Finite := by
  rw [finite_iff]
  unfold ofJson? at h
  split at h
  · next shape content =>
    have hcontent : content.isRepresentable = true :=
      Json.membersRepresentable_iff.mp hv _ List.mem_cons_self
    split at h
    · obtain ⟨u, hu, rfl⟩ := Option.map_eq_some_iff.mp h
      exact Scalar.finite_of_ofJson? hcontent hu
    · obtain ⟨us, hus, rfl⟩ := Option.map_eq_some_iff.mp h
      exact Json.forall_mem_of_listOf? Scalar.finite_of_ofJson? hcontent hus
    · obtain ⟨bs, hbs, rfl⟩ := Option.map_eq_some_iff.mp h
      exact Json.forall_mem_of_listOf? finite_of_boundOfJson? hcontent hbs
    · obtain ⟨place, hplace, rfl⟩ := Option.map_eq_some_iff.mp h
      exact Vicinity.finite_of_ofJson? hcontent hplace
    · exact nomatch h
  · exact nomatch h

end Operand

/-! ### The text of the stored form -/

/-- The text of the number is read as this number and not as a neighbour. -/
def Json.ReadsBack (x : Float) : Prop :=
  ∀ depth, read? depth (ofFloat x).text.toList = some (ofFloat x)

theorem Json.readsBack_of_readNumber? {x : Float} (hx : x.isFinite = true)
    (h : readNumber? false (ofFloat x).text.toList = some (.float x, [])) : ReadsBack x := by
  obtain ⟨c, digits, hcs, hc⟩ := readNumber?_isDigit h
  intro depth
  have hread : ∀ fuel, readValue? (fuel + 1) depth (ofFloat x).text.toList
      = some (ofFloat x, []) := by
    intro fuel
    rw [hcs] at h ⊢
    rw [readValue?_of_isDigit hc (skipSpaces_of_isDigit hc digits), h, ofFloat_eq, if_pos hx]
    rfl
  exact Option.bind_eq_some_iff.mpr ⟨_, hread _, rfl⟩

theorem Json.read?_ofMembers {depth : Nat} {ms : List (String × Json)}
    (h : ∀ m ∈ ms, read? depth m.2.text.toList = some m.2) :
    read? (depth + 1) (ofMembers ms).text.toList = some (ofMembers ms) := by
  have hread := read?_object fun m hm => h m (Entries.mem_ofList hm)
  rwa [ofMembers_of_sorted (Entries.sorted_ofList ms)] at hread

theorem Scalar.read?_toJson {v : Scalar} (h : ∀ x ∈ v.floats, Json.ReadsBack x) (depth : Nat) :
    Json.read? depth v.toJson.text.toList = some v.toJson := by
  cases v with
  | boolean b => cases b <;> rfl
  | integer n =>
    have hfits : Json.Fits n.toInt := .inr (by rw [signedWord?_toInt]; rfl)
    exact Json.read?_integer hfits depth
  | float x => exact h x List.mem_cons_self depth
  | text s => exact Json.read?_string s depth

theorem Operand.read?_boundToJson {b : Bound × Scalar} (h : ∀ x ∈ b.2.floats, Json.ReadsBack x)
    (depth : Nat) :
    Json.read? (depth + 1) (boundToJson b).text.toList = some (boundToJson b) := by
  have hread : ∀ v ∈ [b.1.toJson, b.2.toJson],
      Json.read? depth (id v).text.toList = some (id v) := by
    simpa using ⟨Json.read?_string b.1.key depth, Scalar.read?_toJson h depth⟩
  have harray := Json.read?_array hread
  rwa [List.map_id] at harray

theorem Vicinity.read?_toJson {place : Vicinity}
    (h : ∀ x ∈ [place.latitude, place.longitude, place.distance], Json.ReadsBack x) (depth : Nat) :
    Json.read? (depth + 1) place.toJson.text.toList = some place.toJson := by
  rw [toJson_eq]
  refine Json.read?_ofMembers fun m hm => ?_
  simp only [members, List.mem_cons, List.not_mem_nil, or_false] at hm
  rcases hm with rfl | rfl | rfl | rfl | rfl
  · exact Json.read?_string _ depth
  · exact Json.read?_string _ depth
  · exact h _ (by simp) depth
  · exact h _ (by simp) depth
  · exact h _ (by simp) depth

namespace Operand

theorem read?_shape {name : String} {content : Json} {depth : Nat}
    (h : Json.read? depth content.text.toList = some content) :
    Json.read? (depth + 1) (Json.object [(name, content)]).text.toList
      = some (.object [(name, content)]) := by
  have hsorted : Entries.Sorted [(name, content)] := List.pairwise_singleton ..
  have hread : Json.read? (depth + 1) (Json.ofMembers [(name, content)]).text.toList
      = some (.ofMembers [(name, content)]) :=
    Json.read?_ofMembers (List.forall_mem_singleton.mpr h)
  rwa [Json.ofMembers_of_sorted hsorted] at hread

/-- **The text of the stored form is read back** if the numbers in it are. -/
theorem read?_toJson {o : Operand} (h : ∀ x ∈ o.floats, Json.ReadsBack x) (depth : Nat) :
    Json.read? (depth + 3) o.toJson.text.toList = some o.toJson := by
  cases o with
  | scalar v => exact read?_shape (Scalar.read?_toJson h _)
  | list vs =>
    refine read?_shape (Json.read?_array fun v hv => Scalar.read?_toJson (fun x hx => ?_) _)
    exact h x (List.mem_flatMap.mpr ⟨v, hv, hx⟩)
  | range bs =>
    refine read?_shape (Json.read?_array fun b hb => read?_boundToJson (fun x hx => ?_) _)
    exact h x (List.mem_flatMap.mpr ⟨b, hb, hx⟩)
  | vicinity place => exact read?_shape (Vicinity.read?_toJson h _)

/-- **Operands survive storage.**  What is read of the stored form of an operand is the operand with
the kinds of its values, and it is read if its numbers are finite.  Every operand that was read of
a JSON value, in whatever form it stood there, is read of its own form.  And if the numbers in an
operand are read back from their text, all this is true of the text of the stored form. -/
theorem kept_in_storage (o : Operand) :
    (∀ u, ofJson? o.toJson = some u ↔ u = o ∧ o.Finite)
      ∧ (∀ v : Json, v.isRepresentable = true → ofJson? v = some o → ofJson? o.toJson = some o)
      ∧ ((∀ x ∈ o.floats, Json.ReadsBack x) →
        ∀ u, (Json.read? Json.depthLimit o.toJson.text.toList).bind ofJson? = some u
          ↔ u = o ∧ o.Finite) := by
  refine ⟨fun _ => ofJson?_toJson_iff, fun v hv h => ?_, fun h u => ?_⟩
  · exact ofJson?_toJson_iff.mpr ⟨rfl, finite_of_ofJson? hv h⟩
  · have htext : Json.read? Json.depthLimit o.toJson.text.toList = some o.toJson :=
      read?_toJson h 124
    rw [htext, Option.bind_some]
    exact ofJson?_toJson_iff

/-- A range whose first bound is named by an object and has the least whole number that is beyond 64
bits with sign, and whose last value is a text that looks like a number. -/
theorem kept_in_storage_mixed :
    let v : Json := .object [("Range", .array [
      .array [.object [("gte", .null)], .ofInt 9223372036854775808],
      .array [.string "lt", .ofInt 3], .array [.string "lte", .string "12"]])]
    let x := Float.ofInt 9223372036854775808
    let o : Operand :=
      .range [(.atLeast, .float x), (.below, .integer 3), (.atMost, .text "12")]
    v.isRepresentable = true ∧ ofJson? v = some o ∧ ofJson? o.toJson = some o
      ∧ o.Finite ∧ (∀ y ∈ o.floats, Json.ReadsBack y)
      ∧ (Json.read? Json.depthLimit o.toJson.text.toList).bind ofJson? = some o := by
  intro v x o
  have hv : v.isRepresentable = true := by decide
  have hread : ofJson? v = some o := by rfl
  have hkept : ofJson? o.toJson = some o := (kept_in_storage o).2.1 v hv hread
  have hfinite : o.Finite := ((kept_in_storage o).1 o |>.mp hkept).2
  have hx : Json.ReadsBack x :=
    Json.readsBack_of_readNumber? (by decide +kernel) (by decide +kernel)
  have htext : ∀ y ∈ o.floats, Json.ReadsBack y := List.forall_mem_singleton.mpr hx
  exact ⟨hv, hread, hkept, hfinite, htext,
    ((kept_in_storage o).2.2 htext o).mpr ⟨rfl, hfinite⟩⟩

end Operand

end SearchQuery

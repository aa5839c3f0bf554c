import SearchQuery.Hydration
import SearchQuery.Record.Document
import SearchQuery.Proofs.Resolution

/-!
# The primary key of a record

What becomes of the identifier of a hit.  It joins the fields under the name `id`, and from there it
is renamed as any other field: the primary key may take it, an attribute of another name may take
it, or it keeps its name and moves to the primary key if that has no value.

* `Cast.isBlank_apply`: a cast neither fills a blank value nor blanks a filled one.
* `Schema.filled_promoteId`: what moving the identifier does to the primary key.
* `Document.primaryKey_filled_iff`: when the record of a hit with an identifier has its primary key.
-/

namespace SearchQuery

open Correspondence

/-! ### The name of the identifier -/

theorem Spelling.apply_id (spelling : Spelling) : spelling.apply "id" = "id" := by
  cases spelling <;> decide

/-- Without overrides only the key `id` has grounds to stand for an attribute of that name. -/
theorem Correspondence.Grounds.source_eq_id {keys attributes : List String}
    {primaryKey source target : String} (h : Grounds keys primaryKey attributes [] source target)
    (hmem : "id" ∈ keys) (htarget : target = "id") : source = "id" := by
  have hid : lookup? keys "id" = some "id" := lookup?_of_mem hmem
  cases h with
  | override declared _ => exact absurd declared List.not_mem_nil
  | spelled _ spelling found =>
    rw [htarget, spelling.apply_id, hid] at found
    exact (Option.some.inj found).symm
  | id found => exact (Option.some.inj (hid.symm.trans found)).symm

/-! ### Blank values -/

/-- A value that is not blank stands under the name. -/
def Dictionary.Filled (d : Dictionary Json) (name : String) : Prop :=
  ∃ v, d.get? name = some v ∧ v.isBlank = false

theorem Text.isBlank_of_isDigit {c : Char} (h : c.isDigit = true) : Text.isBlank c = false := by
  have hbounds : 48 ≤ c.toNat ∧ c.toNat ≤ 57 := by
    simpa [Char.isDigit, UInt32.le_iff_toNat_le] using h
  simp only [Text.isBlank, Bool.or_eq_false_iff, Bool.and_eq_false_iff, decide_eq_false_iff_not,
    beq_eq_false_iff_ne]
  omega

theorem Json.isBlank_of_asSecond? {v : Json} {second : Int} (h : v.asSecond? = some second) :
    v.isBlank = false := by
  cases v with
  | string s =>
    rw [asSecond?] at h
    split at h
    · next hdigits =>
      obtain ⟨hfilled, hall⟩ := Bool.and_eq_true_iff.mp hdigits
      cases hs : s.toList with
      | nil => simp [hs] at hfilled
      | cons c rest =>
        have hc : c.isDigit = true := List.all_eq_true.mp hall c (hs ▸ List.mem_cons_self)
        simp [isBlank, Text.isBlankText, hs, Text.isBlank_of_isDigit hc]
    · exact nomatch h
  | null => exact nomatch h
  | _ => rfl

theorem Json.isBlank_of_asFlag? {v : Json} {b : Bool} (h : v.asFlag? = some b) :
    v.isBlank = false := by
  unfold asFlag? at h
  split at h
  · rfl
  · rfl
  · decide
  · decide
  · exact nomatch h

/-- A cast neither fills a blank value nor blanks a filled one. -/
theorem Cast.isBlank_apply (cast : Option Cast) (v : Json) :
    (Cast.apply cast v).isBlank = v.isBlank := by
  unfold Cast.apply
  split
  · split
    · next t h =>
      obtain ⟨second, hsecond, -⟩ := Option.bind_eq_some_iff.mp h
      exact (Json.isBlank_of_asSecond? hsecond).symm
    · rfl
  · split
    · next b h => exact (Json.isBlank_of_asFlag? h).symm
    · rfl
  · rfl

namespace Schema

/-! ### The identifier among the fields -/

theorem get?_withId {id : Json} (h : id.isBlank = false) (data : Dictionary Json) (name : String) :
    (withId (some id) data).get? name = if "id" = name then some id else data.get? name := by
  rw [withId, Option.filter_some, if_pos (by simp [h]), Dictionary.get?_insert]

theorem promoteId_of_primaryKey {s : Schema} (hkey : s.primaryKey = "id")
    (attributes : Dictionary Json) : s.promoteId attributes = attributes := by
  rw [promoteId, if_pos (beq_iff_eq.mpr hkey)]

/-- What moving the identifier does: the primary key has a value if it had one or if the identifier
was there. -/
theorem filled_promoteId {s : Schema} (hkey : s.primaryKey ≠ "id") (attributes : Dictionary Json) :
    (s.promoteId attributes).Filled s.primaryKey
      ↔ attributes.Filled s.primaryKey ∨ attributes.Filled "id" := by
  rw [promoteId, if_neg (by simpa using hkey)]
  by_cases hfilled : attributes.Filled s.primaryKey
  · obtain ⟨v, hv, hblank⟩ := hfilled
    rw [if_pos (by simp [hv, hblank])]
    exact iff_of_true ⟨v, hv, hblank⟩ (.inl ⟨v, hv, hblank⟩)
  · have hblank : (attributes.get? s.primaryKey).all Json.isBlank = true := by
      cases hv : attributes.get? s.primaryKey with
      | none => rfl
      | some v =>
        rw [Option.all_some]
        exact Bool.not_eq_false _ ▸ fun h => hfilled ⟨v, hv, h⟩
    rw [if_neg (by simp [hblank]), or_iff_right hfilled]
    cases hid : attributes.get? "id" with
    | none =>
      refine iff_of_false hfilled ?_
      rintro ⟨v, hv, -⟩
      exact nomatch hid.symm.trans hv
    | some id =>
      by_cases hblank : id.isBlank = true
      · simp only [if_pos hblank]
        refine iff_of_false hfilled ?_
        rintro ⟨v, hv, hv'⟩
        obtain rfl := Option.some.inj (hid.symm.trans hv)
        simp [hblank] at hv'
      · simp only [if_neg hblank]
        have hid' := eq_false_of_ne_true hblank
        exact iff_of_true ⟨id, by rw [Dictionary.get?_insert, if_pos rfl], hid'⟩ ⟨id, hid, hid'⟩

/-! ### The identifier under the names of attributes -/

section Fields

variable {s : Schema} {raw : Dictionary Json}

def renamed (s : Schema) (raw : Dictionary Json) : Dictionary Json :=
  (s.correspondence raw.names).apply raw

theorem injective_correspondence (s : Schema) (keys : List String) :
    (s.correspondence keys).Injective :=
  injective_build ..

theorem get?_renamed_primaryKey (hname : s.primaryKey ≠ "") (hoverrides : s.overrides = []) :
    (s.renamed raw).get? s.primaryKey
      = ((s.correspondence raw.names).source? s.primaryKey).bind raw.get? := by
  rw [renamed, (s.injective_correspondence raw.names).get?_apply]
  by_cases hmem : s.primaryKey ∈ raw.names
  · have htarget : (s.correspondence raw.names).target? s.primaryKey = some s.primaryKey := by
      rw [(s.injective_correspondence raw.names).target?_eq_some_iff, correspondence, hoverrides]
      exact mem_build_primaryKey hname hmem
    rw [if_neg (by simp [htarget]), Option.or_none]
  · have hnone : raw.get? s.primaryKey = none := by
      refine Option.eq_none_iff_forall_ne_some.mpr fun v hv => hmem ?_
      exact Dictionary.mem_names.mpr ⟨v, hv⟩
    rw [hnone, ite_self, Option.or_none]

theorem source?_id (hmem : "id" ∈ raw.names) (hoverrides : s.overrides = []) {key : String}
    (h : (s.correspondence raw.names).source? "id" = some key) : key = "id" := by
  have hpair := (s.injective_correspondence raw.names).source?_eq_some_iff.mp h
  rw [correspondence, hoverrides] at hpair
  exact (grounds_of_mem_build hpair).source_eq_id hmem rfl

theorem get?_renamed_id (hmem : "id" ∈ raw.names) (hoverrides : s.overrides = []) :
    (s.renamed raw).get? "id"
      = if ∀ a, (s.correspondence raw.names).target? "id" = some a → a = "id" then raw.get? "id"
        else none := by
  have hinjective := s.injective_correspondence raw.names
  rw [renamed, hinjective.get?_apply]
  cases htarget : (s.correspondence raw.names).target? "id" with
  | none =>
    rw [if_pos rfl, if_pos (by simp)]
    cases hsource : (s.correspondence raw.names).source? "id" with
    | none => rfl
    | some key =>
      obtain rfl := source?_id hmem hoverrides hsource
      rw [hinjective.source?_eq_some_iff, ← hinjective.target?_eq_some_iff, htarget] at hsource
      exact nomatch hsource
  | some a =>
    rw [if_neg (by simp), Option.or_none]
    by_cases ha : a = "id"
    · subst ha
      have hsource : (s.correspondence raw.names).source? "id" = some "id" := by
        rwa [hinjective.source?_eq_some_iff, ← hinjective.target?_eq_some_iff]
      rw [hsource, Option.bind_some, if_pos (by simp)]
    · have hsource : (s.correspondence raw.names).source? "id" = none := by
        refine Option.eq_none_iff_forall_ne_some.mpr fun key hkey => ha ?_
        obtain rfl := source?_id hmem hoverrides hkey
        rw [hinjective.source?_eq_some_iff, ← hinjective.target?_eq_some_iff, htarget] at hkey
        exact Option.some.inj hkey
      rw [hsource, Option.bind_none, if_neg (by simpa using ha)]

/-- The primary key has a value before the identifier is moved exactly if a field with a value
stands for it. -/
theorem filled_renamed_primaryKey (hname : s.primaryKey ≠ "") (hoverrides : s.overrides = []) :
    (s.renamed raw).Filled s.primaryKey
      ↔ ∃ key, (s.correspondence raw.names).target? key = some s.primaryKey ∧ raw.Filled key := by
  have hinjective := s.injective_correspondence raw.names
  simp only [Dictionary.Filled, get?_renamed_primaryKey hname hoverrides, Option.bind_eq_some_iff,
    hinjective.source?_eq_some_iff, ← hinjective.target?_eq_some_iff]
  constructor
  · rintro ⟨v, ⟨key, hkey, hv⟩, hblank⟩
    exact ⟨key, hkey, v, hv, hblank⟩
  · rintro ⟨key, hkey, v, hv, hblank⟩
    exact ⟨v, ⟨key, hkey, hv⟩, hblank⟩

theorem filled_renamed_id (hfilled : raw.Filled "id") (hoverrides : s.overrides = []) :
    (s.renamed raw).Filled "id"
      ↔ ∀ a, (s.correspondence raw.names).target? "id" = some a → a = "id" := by
  obtain ⟨id, hid, hblank⟩ := hfilled
  have hmem : "id" ∈ raw.names := Dictionary.mem_names.mpr ⟨id, hid⟩
  constructor
  · rintro ⟨v, hv, -⟩
    rw [get?_renamed_id hmem hoverrides] at hv
    split at hv
    · next hkept => exact hkept
    · exact nomatch hv
  · intro hkept
    exact ⟨id, by rw [get?_renamed_id hmem hoverrides, if_pos hkept, hid], hblank⟩

theorem target?_id_of_primaryKey (hkey : s.primaryKey = "id") (hmem : "id" ∈ raw.names)
    (hoverrides : s.overrides = []) :
    (s.correspondence raw.names).target? "id" = some "id" := by
  rw [(s.injective_correspondence raw.names).target?_eq_some_iff, correspondence, hoverrides, hkey]
  exact mem_build_primaryKey (by decide) hmem

theorem filled_promoteId_renamed (hname : s.primaryKey ≠ "") (hoverrides : s.overrides = [])
    (hfilled : raw.Filled "id") :
    (s.promoteId (s.renamed raw)).Filled s.primaryKey
      ↔ (∀ a, (s.correspondence raw.names).target? "id" = some a
            → a = s.primaryKey ∨ a = "id")
        ∨ ∃ key, (s.correspondence raw.names).target? key = some s.primaryKey
            ∧ raw.Filled key := by
  by_cases hkey : s.primaryKey = "id"
  · obtain ⟨id, hid, -⟩ := id hfilled
    have htarget := target?_id_of_primaryKey hkey (Dictionary.mem_names.mpr ⟨id, hid⟩) hoverrides
    have hkept : ∀ a, (s.correspondence raw.names).target? "id" = some a → a = "id" := by
      intro a ha
      exact (Option.some.inj (htarget.symm.trans ha)).symm
    rw [promoteId_of_primaryKey hkey, hkey]
    exact iff_of_true ((filled_renamed_id hfilled hoverrides).mpr hkept)
      (.inl fun a ha => .inr (hkept a ha))
  · rw [filled_promoteId hkey, filled_renamed_primaryKey hname hoverrides,
      filled_renamed_id hfilled hoverrides]
    constructor
    · rintro (hown | hkept)
      · exact .inr hown
      · exact .inl fun a ha => .inr (hkept a ha)
    · rintro (hgoes | hown)
      · by_cases htarget : (s.correspondence raw.names).target? "id" = some s.primaryKey
        · exact .inl ⟨"id", htarget, hfilled⟩
        · refine .inr fun a ha => (hgoes a ha).resolve_left fun heq => htarget ?_
          rw [ha, heq]
      · exact .inl hown

theorem target?_id (hoverrides : s.overrides = []) {a : String}
    (h : (s.correspondence raw.names).target? "id" = some a) :
    a = s.primaryKey ∨ a ∈ s.fillable ∧ ∃ spelling : Spelling,
      Text.lowercase (spelling.apply a) = "id" := by
  have hpair := (s.injective_correspondence raw.names).target?_eq_some_iff.mp h
  rw [correspondence, hoverrides] at hpair
  cases grounds_of_mem_build hpair with
  | override declared _ => exact absurd declared List.not_mem_nil
  | spelled declared spelling found =>
    refine (List.mem_cons.mp declared).imp id fun hfillable => ⟨hfillable, spelling, ?_⟩
    rw [← lowercase_of_lookup? found]
    decide
  | id _ => exact .inl rfl

end Fields

end Schema

/-! ### The primary key -/

namespace Document

theorem get?_normalize (s : Schema) (id : Option Json) (data : Dictionary Json)
    (highlight : Option Json) (name : String) :
    (s.normalize id data highlight).attributes.get? name
      = ((s.promoteId (s.renamed (Schema.withId id data))).get? name).map
          (Cast.apply (s.castOf? name)) :=
  Dictionary.get?_mapValues ..

theorem filled_normalize (s : Schema) (id : Option Json) (data : Dictionary Json)
    (highlight : Option Json) (name : String) :
    (∃ v, (s.normalize id data highlight).attributes.get? name = some v ∧ v.isBlank = false)
      ↔ (s.promoteId (s.renamed (Schema.withId id data))).Filled name := by
  simp only [get?_normalize, Option.map_eq_some_iff, Dictionary.Filled]
  constructor
  · rintro ⟨_, ⟨v, hv, rfl⟩, hblank⟩
    exact ⟨v, hv, by rwa [Cast.isBlank_apply] at hblank⟩
  · rintro ⟨v, hv, hblank⟩
    exact ⟨_, ⟨v, hv, rfl⟩, by rwa [Cast.isBlank_apply]⟩

theorem primaryKey_ne_empty (d : Document) : d.primaryKey ≠ "" := by
  rw [primaryKey]
  split
  · decide
  · next h => simpa using h

/-- **The record of a hit with an identifier has its primary key** exactly if the identifier goes to
no other attribute, or if a field with a value stands for the primary key.  It goes to another only
if that is declared and spelled like it; and a primary key of the name `id` is the identifier
itself. -/
theorem primaryKey_filled_iff {d : Document} (hoverrides : d.declared.overrides = []) {id : Json}
    (hid : id.isBlank = false) (data : Dictionary Json) (highlight : Option Json) :
    let fields := Schema.withId (some id) data
    let c := d.schema.correspondence fields.names
    let attributes := (d.schema.normalize (some id) data highlight).attributes
    let present := ∃ v, attributes.get? d.primaryKey = some v ∧ v.isBlank = false
    (present
        ↔ (∀ a, c.target? "id" = some a → a = d.primaryKey ∨ a = "id")
          ∨ ∃ key, c.target? key = some d.primaryKey ∧ fields.Filled key)
      ∧ ((∀ a ∈ d.declared.fillable, a = d.primaryKey ∨ a = "id"
            ∨ ∀ spelling : Spelling, Text.lowercase (spelling.apply a) ≠ "id") → present)
      ∧ (d.primaryKey = "id"
          → attributes.get? "id" = some (Cast.apply (d.schema.castOf? "id") id)) := by
  intro fields c attributes present
  have hfound : fields.get? "id" = some id := by rw [Schema.get?_withId hid, if_pos rfl]
  have hmem : "id" ∈ fields.names := Dictionary.mem_names.mpr ⟨id, hfound⟩
  have hname : d.schema.primaryKey ≠ "" := d.primaryKey_ne_empty
  have hfilled : fields.Filled "id" := ⟨id, hfound, hid⟩
  have hpresent := (filled_normalize d.schema (some id) data highlight d.primaryKey).trans
    (Schema.filled_promoteId_renamed hname hoverrides hfilled)
  refine ⟨hpresent, fun hfillable => hpresent.mpr (.inl fun a ha => ?_), fun hkey => ?_⟩
  · have hsource := Schema.target?_id (s := d.schema) hoverrides ha
    rcases hsource with heq | ⟨hdeclared, spelling, hspelled⟩
    · exact .inl heq
    · rcases hfillable a hdeclared with heq | heq | hother
      · exact .inl heq
      · exact .inr heq
      · exact absurd hspelled (hother spelling)
  · have htarget := Schema.target?_id_of_primaryKey (s := d.schema) hkey hmem hoverrides
    have hkept : ∀ a, c.target? "id" = some a → a = "id" := by
      intro a ha
      exact (Option.some.inj (htarget.symm.trans ha)).symm
    rw [get?_normalize, Schema.promoteId_of_primaryKey (s := d.schema) hkey,
      Schema.get?_renamed_id (s := d.schema) hmem hoverrides, if_pos hkept, hfound, Option.map_some]

/-- A field in another letter case stands for the primary key but is `null`, so that the identifier
moves there. -/
theorem primaryKey_filled_null :
    let d : Document := { declared := {
      primaryKey := "entityId", fillable := ["title", "id"], casts := [("entityId", .boolean)] } }
    let data := Dictionary.ofList [("ENTITYID", .null), ("Id", .ofInt 99), ("title", .string "a")]
    d.declared.overrides = [] ∧ (Json.ofInt 7).isBlank = false
      ∧ ∃ v, (d.schema.normalize (some (.ofInt 7)) data none).attributes.get? "entityId" = some v
        ∧ v.isBlank = false := by
  refine ⟨rfl, rfl, (primaryKey_filled_iff rfl rfl _ none).2.1 ?_⟩
  intro a ha
  rcases List.mem_cons.mp ha with rfl | ha
  · exact .inr (.inr fun spelling => by cases spelling <;> decide)
  · exact .inr (.inl (List.mem_singleton.mp ha))

/-- A declared attribute that is spelled like the identifier takes it, and the record has no primary
key. -/
theorem identifier_lost_to_attribute :
    ¬ ∀ (d : Document) (id : Json) (data : Dictionary Json), d.declared.overrides = []
      → id.isBlank = false
      → ∃ v, (d.schema.normalize (some id) data none).attributes.get? d.primaryKey = some v
        ∧ v.isBlank = false := by
  intro h
  let d : Document := { declared := { primaryKey := "entity_id", fillable := ["ID"] } }
  obtain ⟨v, hv, -⟩ := h d (.ofInt 7) .empty rfl rfl
  have hnone : ((d.schema.normalize (some (.ofInt 7)) .empty none).attributes.get?
      "entity_id").isNone = true := by decide +kernel
  rw [Option.isNone_iff_eq_none] at hnone
  exact nomatch hnone.symm.trans hv

end Document

end SearchQuery

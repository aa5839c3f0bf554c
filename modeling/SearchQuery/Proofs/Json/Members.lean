import SearchQuery.Json.Basic
import SearchQuery.Proofs.Dictionary

/-!
# Rows of members

An object is often made of a fixed row of names, some of which have no value and are left out
(`Json.present`).  Such an object says under each name what the row says, so that it determines the
row.

* `Json.member?_ofMembers`: with distinct names, what is found is what was put in.
* `Json.eq_of_ofMembers`: so an object determines the row that it was made of.
* `Json.eq_of_ofMembers_present`: two rows of the same names that make one object are one row.
-/

namespace SearchQuery.Json

open Entries (Distinct)

variable {α : Type}

theorem object_singleton_inj {name name' : String} {v v' : Json}
    (h : object [(name, v)] = object [(name', v')]) : name = name' ∧ v = v' :=
  Prod.mk.inj (List.cons.inj (object.inj h)).1

theorem member?_ofMembers {members : List (String × Json)} (h : Distinct members) (name : String) :
    (ofMembers members).member? name = Entries.find? name members := by
  rw [ofMembers, member?, ← Dictionary.entries_ofList]
  exact Dictionary.get?_ofList h name

theorem eq_of_ofMembers {members members' : List (String × Json)}
    (hnames : members.map (·.1) = members'.map (·.1)) (h : Distinct members)
    (heq : ofMembers members = ofMembers members') : members = members' := by
  have h' : Distinct members' := by rwa [Distinct, ← hnames]
  refine Entries.eq_of_find? hnames h fun name => ?_
  rw [← member?_ofMembers h, ← member?_ofMembers h', heq]

theorem ofMembers_of_sorted {ms : List (String × Json)} (h : Entries.Sorted ms) :
    ofMembers ms = .object ms := by
  have hentries : Dictionary.ofList ms = ⟨ms, h⟩ := Dictionary.ofList_entries ⟨ms, h⟩
  rw [ofMembers, ← Dictionary.entries_ofList, hentries]

def present (fields : List (String × Option α)) : List (String × α) :=
  fields.filterMap fun f => f.2.map fun v => (f.1, v)

theorem present_eq_filterMap (fields : List (String × Option α)) :
    present fields = (fields.map fun f => f.2.map fun v => (f.1, v)).filterMap id := by
  rw [present, List.filterMap_map]
  rfl

theorem present_cons (name : String) (value : Option α) (fields : List (String × Option α)) :
    present ((name, value) :: fields)
      = (value.map fun v => (name, v)).toList ++ present fields := by
  cases value <;> rfl

theorem mem_present {fields : List (String × Option α)} {e : String × α} (h : e ∈ present fields) :
    (e.1, some e.2) ∈ fields := by
  obtain ⟨⟨name, value⟩, hmem, hvalue⟩ := List.mem_filterMap.mp h
  obtain ⟨v, rfl, rfl⟩ := Option.map_eq_some_iff.mp hvalue
  exact hmem

theorem distinct_present {fields : List (String × Option α)} (h : Distinct fields) :
    Distinct (present fields) := by
  induction fields with
  | nil => exact List.nodup_nil
  | cons f fields ih =>
    obtain ⟨name, value⟩ := f
    obtain ⟨hfresh, hrest⟩ := List.nodup_cons.mp h
    cases value with
    | none => exact ih hrest
    | some v =>
      refine List.nodup_cons.mpr ⟨fun hmem => hfresh ?_, ih hrest⟩
      obtain ⟨e, he, hname⟩ := List.mem_map.mp hmem
      exact List.mem_map.mpr ⟨_, mem_present he, hname⟩

theorem find?_present {fields : List (String × Option α)} (h : Distinct fields) (name : String) :
    Entries.find? name (present fields) = (Entries.find? name fields).join := by
  induction fields with
  | nil => rfl
  | cons f fields ih =>
    obtain ⟨n, value⟩ := f
    obtain ⟨hfresh, hrest⟩ := List.nodup_cons.mp h
    by_cases hname : n = name
    · subst hname
      rw [Entries.find?, if_pos rfl, Option.join_some]
      cases value with
      | none =>
        refine Entries.find?_eq_none_iff.mpr fun e he hn => hfresh ?_
        exact List.mem_map.mpr ⟨_, mem_present he, hn⟩
      | some v => exact if_pos rfl
    · rw [Entries.find?, if_neg hname, ← ih hrest, present_cons]
      cases value with
      | none => rfl
      | some v => exact if_neg hname

theorem member?_present {fields : List (String × Option Json)} (h : Distinct fields)
    (name : String) :
    (ofMembers (present fields)).member? name = (Entries.find? name fields).join := by
  rw [member?_ofMembers (distinct_present h), find?_present h]

/-- Rows of the same names that say the same under each name are one row. -/
theorem eq_of_join_find? {fields fields' : List (String × Option α)}
    (hnames : fields.map (·.1) = fields'.map (·.1)) (h : Distinct fields)
    (hfind : ∀ name, (Entries.find? name fields).join = (Entries.find? name fields').join) :
    fields = fields' := by
  refine Entries.eq_of_find? hnames h fun name => ?_
  have hsome : (Entries.find? name fields).isSome = true
      ↔ (Entries.find? name fields').isSome = true := by
    rw [Entries.isSome_find?, Entries.isSome_find?, hnames]
  have hjoin := hfind name
  cases hvalue : Entries.find? name fields with
  | none =>
    rw [hvalue] at hsome
    exact (Option.not_isSome_iff_eq_none.mp fun h' => Bool.false_ne_true (hsome.mpr h')).symm
  | some value =>
    obtain ⟨value', hvalue'⟩ := Option.isSome_iff_exists.mp (hsome.mp (by rw [hvalue]; rfl))
    rw [hvalue, hvalue', Option.join_some, Option.join_some] at hjoin
    rw [hvalue', hjoin]

/-- **An object made of the entries that have a value determines the row.** -/
theorem eq_of_ofMembers_present {fields fields' : List (String × Option Json)}
    (hnames : fields.map (·.1) = fields'.map (·.1)) (h : Distinct fields)
    (heq : ofMembers (present fields) = ofMembers (present fields')) : fields = fields' := by
  have h' : Distinct fields' := by rwa [Distinct, ← hnames]
  refine eq_of_join_find? hnames h fun name => ?_
  rw [← member?_present h, ← member?_present h', heq]

/-- An array that is left out if it has no items. -/
def filled? (items : List Json) : Option Json :=
  if items.isEmpty then none else some (.array items)

theorem filled?_injective {items items' : List Json} (h : filled? items = filled? items') :
    items = items' := by
  cases items with
  | nil =>
    cases items' with
    | nil => rfl
    | cons v' rest' => exact nomatch h
  | cons v rest =>
    cases items' with
    | nil => exact nomatch h
    | cons v' rest' => exact array.inj (Option.some.inj h)

end SearchQuery.Json

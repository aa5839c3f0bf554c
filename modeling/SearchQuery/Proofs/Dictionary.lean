import Mathlib.Data.List.Nodup
import SearchQuery.Dictionary

/-!
# What is found in dictionaries

What stands under each name after the operations on dictionaries.

* `Entries.find?_eq_some_iff`: with distinct names, what is found is what is there.
* `Entries.perm_of_find?`: so what is found determines the entries up to their order.
* `Dictionary.get?_insertAll`: entries with distinct names stand before those that were there.
* `Dictionary.ofList_entries`: a dictionary is made of its entries.
-/

namespace SearchQuery

variable {α : Type}

namespace Entries

def Distinct (entries : List (String × α)) : Prop :=
  (entries.map (·.1)).Nodup

instance (entries : List (String × α)) : Decidable (Sorted entries) :=
  inferInstanceAs (Decidable (entries.Pairwise fun a b => a.1 < b.1))

theorem Sorted.distinct {entries : List (String × α)} (h : Sorted entries) : Distinct entries := by
  rw [Distinct, List.nodup_iff_pairwise_ne, List.pairwise_map]
  refine h.imp fun {a b} hlt heq => ?_
  exact String.lt_irrefl b.1 (heq ▸ hlt)

theorem find?_eq_none_iff {name : String} {entries : List (String × α)} :
    find? name entries = none ↔ ∀ e ∈ entries, e.1 ≠ name := by
  induction entries with
  | nil => simp [find?]
  | cons e rest ih =>
    rw [find?, List.forall_mem_cons]
    by_cases hname : e.1 = name
    · simp [hname]
    · rw [if_neg hname, ih]
      exact (and_iff_right hname).symm

theorem find?_eq_some_iff {entries : List (String × α)} (h : Distinct entries) {name : String}
    {value : α} : find? name entries = some value ↔ (name, value) ∈ entries := by
  induction entries with
  | nil => simp [find?]
  | cons e rest ih =>
    obtain ⟨hfresh, hrest⟩ := List.nodup_cons.mp h
    rw [find?, List.mem_cons]
    by_cases hname : e.1 = name
    · subst hname
      have hother : (e.1, value) ∉ rest := fun hmem =>
        hfresh (List.mem_map.mpr ⟨_, hmem, rfl⟩)
      rw [if_pos rfl, Option.some.injEq]
      constructor
      · intro hvalue
        exact .inl (hvalue ▸ rfl)
      · intro hmem
        exact (Prod.mk.inj (hmem.resolve_right hother)).2.symm
    · rw [if_neg hname, ih hrest]
      constructor
      · exact .inr
      · intro hmem
        exact hmem.resolve_left fun heq => hname (heq ▸ rfl)

/-- Entries with distinct names that say the same under each name are the same up to order. -/
theorem perm_of_find? {entries other : List (String × α)}
    (h : Distinct entries) (h' : Distinct other)
    (hfind : ∀ name, find? name entries = find? name other) : entries.Perm other := by
  refine (List.perm_ext_iff_of_nodup (List.Nodup.of_map _ h) (List.Nodup.of_map _ h')).mpr ?_
  intro ⟨name, value⟩
  rw [← find?_eq_some_iff h, ← find?_eq_some_iff h', hfind]

theorem eq_of_find? {entries other : List (String × α)}
    (hnames : entries.map (·.1) = other.map (·.1)) (h : Distinct entries)
    (hfind : ∀ name, find? name entries = find? name other) : entries = other := by
  have hself : ∀ {es : List (String × α)}, Distinct es →
      (es.map (·.1)).map (fun name => (name, find? name es)) = es.map fun e => (e.1, some e.2) := by
    intro es hes
    rw [List.map_map]
    refine List.map_congr_left fun e he => ?_
    exact Prod.ext rfl ((find?_eq_some_iff hes).mpr he)
  have hinjective : Function.Injective fun e : String × α => (e.1, some e.2) := by
    intro e f hef
    obtain ⟨hname, hvalue⟩ := Prod.mk.inj hef
    exact Prod.ext hname (Option.some.inj hvalue)
  have h' : Distinct other := by rwa [Distinct, ← hnames]
  refine hinjective.list_map ?_
  rw [← hself h, ← hself h', hnames]
  simp only [hfind]

theorem isSome_find? {name : String} {entries : List (String × α)} :
    (find? name entries).isSome = true ↔ name ∈ entries.map (·.1) := by
  rw [← not_iff_not, Bool.not_eq_true, Option.isSome_eq_false_iff, Option.isNone_iff_eq_none,
    find?_eq_none_iff, List.mem_map]
  simp only [not_exists, not_and]

theorem find?_map {β : Type} (f : String → α → β) (name : String) (entries : List (String × α)) :
    find? name (entries.map fun e => (e.1, f e.1 e.2)) = (find? name entries).map (f name) := by
  induction entries with
  | nil => rfl
  | cons e rest ih =>
    rw [List.map_cons, find?, find?]
    by_cases hname : e.1 = name
    · rw [if_pos hname, if_pos hname, hname, Option.map_some]
    · rw [if_neg hname, if_neg hname, ih]

end Entries

namespace Dictionary

open Entries (Distinct)

@[simp] theorem get?_empty (name : String) : (empty : Dictionary α).get? name = none :=
  rfl

theorem distinct_entries (d : Dictionary α) : Distinct d.entries :=
  d.sorted.distinct

theorem get?_eq_some_iff {d : Dictionary α} {name : String} {value : α} :
    d.get? name = some value ↔ (name, value) ∈ d.entries :=
  Entries.find?_eq_some_iff d.distinct_entries

theorem mem_names {d : Dictionary α} {name : String} :
    name ∈ d.names ↔ ∃ value, d.get? name = some value := by
  simp [names, get?_eq_some_iff]

theorem get?_mapValues {β : Type} (f : String → α → β) (d : Dictionary α) (name : String) :
    (d.mapValues f).get? name = (d.get? name).map (f name) :=
  Entries.find?_map f name d.entries

theorem names_mapValues {β : Type} (f : String → α → β) (d : Dictionary α) :
    (d.mapValues f).names = d.names := by
  rw [names, mapValues, List.map_map]
  rfl

/-- Entries with distinct names stand before those that were there. -/
theorem get?_insertAll (d : Dictionary α) {entries : List (String × α)} (h : Distinct entries)
    (name : String) :
    (d.insertAll entries).get? name = (Entries.find? name entries).or (d.get? name) := by
  induction entries generalizing d with
  | nil => rfl
  | cons e rest ih =>
    obtain ⟨hfresh, hrest⟩ := List.nodup_cons.mp h
    have hinsert : d.insertAll (e :: rest) = (d.insert e.1 e.2).insertAll rest := rfl
    rw [hinsert, ih (d.insert e.1 e.2) hrest, get?_insert, Entries.find?]
    by_cases hname : e.1 = name
    · subst hname
      have hnone : Entries.find? e.1 rest = none := by
        rw [Entries.find?_eq_none_iff]
        intro b hb heq
        exact hfresh (List.mem_map.mpr ⟨b, hb, heq⟩)
      rw [if_pos rfl, if_pos rfl, hnone, Option.none_or, Option.some_or]
    · rw [if_neg hname, if_neg hname]

theorem get?_ofList {entries : List (String × α)} (h : Distinct entries) (name : String) :
    (ofList entries).get? name = Entries.find? name entries := by
  rw [ofList, get?_insertAll empty h, get?_empty, Option.or_none]

theorem entries_insertAll (d : Dictionary α) (entries : List (String × α)) :
    (d.insertAll entries).entries
      = entries.foldl (fun es e => Entries.insert e.1 e.2 es) d.entries := by
  induction entries generalizing d with
  | nil => rfl
  | cons e rest ih => exact ih (d.insert e.1 e.2)

theorem entries_ofList (entries : List (String × α)) :
    (ofList entries).entries = Entries.ofList entries :=
  entries_insertAll empty entries

theorem ofList_entries (d : Dictionary α) : ofList d.entries = d :=
  ext_get? fun name => get?_ofList d.distinct_entries name

end Dictionary

end SearchQuery

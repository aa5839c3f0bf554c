import SearchQuery.Dictionary

/-!
# Entries put one after the other

What remains of entries that are put one after the other into an empty list: each name, with one of
the values it came with.

* `sorted_ofList`, `mem_ofList`, `exists_mem_ofList`: the names increase, every entry is one of
  those put in, and no name is lost.
* `Sorted.unique`: one entry a name.
-/

namespace SearchQuery.Entries

variable {α : Type}

theorem Sorted.unique {entries : List (String × α)} (h : Sorted entries) {name : String} {a b : α}
    (ha : (name, a) ∈ entries) (hb : (name, b) ∈ entries) : a = b := by
  induction entries with
  | nil => exact absurd ha List.not_mem_nil
  | cons e rest ih =>
    have hrest : ∀ d ∈ rest, e.1 < d.1 := fun _ => List.rel_of_pairwise_cons h
    rcases List.mem_cons.mp ha with rfl | ha'
    · rcases List.mem_cons.mp hb with heq | hb
      · exact (Prod.mk.inj heq).2.symm
      · exact absurd (hrest _ hb) (String.lt_irrefl name)
    · rcases List.mem_cons.mp hb with rfl | hb'
      · exact absurd (hrest _ ha') (String.lt_irrefl name)
      · exact ih (List.Pairwise.of_cons h) ha' hb'

theorem mem_insert_self (name : String) (value : α) (entries : List (String × α)) :
    (name, value) ∈ insert name value entries := by
  induction entries with
  | nil => exact List.mem_cons_self
  | cons e rest ih =>
    obtain ⟨n, v⟩ := e
    rw [insert]
    split
    · exact List.mem_cons_self
    · split
      · exact List.mem_cons_self
      · exact List.mem_cons_of_mem _ ih

theorem mem_insert_of_ne {name : String} {e : String × α} {entries : List (String × α)}
    (h : e ∈ entries) (hne : e.1 ≠ name) (value : α) : e ∈ insert name value entries := by
  induction entries with
  | nil => exact absurd h List.not_mem_nil
  | cons d rest ih =>
    obtain ⟨n, v⟩ := d
    rw [insert]
    split
    · exact List.mem_cons_of_mem _ h
    · split
      · next heq =>
        subst heq
        rcases List.mem_cons.mp h with rfl | h
        · exact absurd rfl hne
        · exact List.mem_cons_of_mem _ h
      · rcases List.mem_cons.mp h with rfl | h
        · exact List.mem_cons_self
        · exact List.mem_cons_of_mem _ (ih h)

theorem exists_mem_insert {e : String × α} {entries : List (String × α)} (h : e ∈ entries)
    (name : String) (value : α) : ∃ v, (e.1, v) ∈ insert name value entries := by
  by_cases hname : e.1 = name
  · exact ⟨value, hname ▸ mem_insert_self name value entries⟩
  · exact ⟨e.2, mem_insert_of_ne h hname value⟩

/-- Entries put into sorted ones: the names increase still, nothing else gets in, and no name is
lost. -/
theorem foldl_insert (es : List (String × α)) {entries : List (String × α)} (h : Sorted entries) :
    let result := es.foldl (fun acc e => insert e.1 e.2 acc) entries
    Sorted result ∧ (∀ e ∈ result, e ∈ entries ∨ e ∈ es)
      ∧ ∀ e, e ∈ entries ∨ e ∈ es → ∃ v, (e.1, v) ∈ result := by
  induction es generalizing entries with
  | nil =>
    refine ⟨h, fun e he => .inl he, fun e he => ?_⟩
    exact ⟨e.2, he.resolve_right List.not_mem_nil⟩
  | cons d es ih =>
    obtain ⟨hsorted, hmem, hname⟩ := ih (h.insert d.1 d.2)
    refine ⟨hsorted, fun e he => ?_, fun e he => ?_⟩
    · rcases hmem e he with he | he
      · rcases mem_insert he with rfl | he
        · exact .inr List.mem_cons_self
        · exact .inl he
      · exact .inr (List.mem_cons_of_mem d he)
    · rcases he with he | he
      · obtain ⟨v, hv⟩ := exists_mem_insert he d.1 d.2
        exact hname (e.1, v) (.inl hv)
      · rcases List.mem_cons.mp he with rfl | he
        · exact hname e (.inl (mem_insert_self e.1 e.2 entries))
        · exact hname e (.inr he)

variable {e : String × α} {es : List (String × α)}

theorem sorted_ofList (es : List (String × α)) : Sorted (ofList es) :=
  (foldl_insert es List.Pairwise.nil).1

theorem mem_ofList (h : e ∈ ofList es) : e ∈ es :=
  ((foldl_insert es List.Pairwise.nil).2.1 e h).resolve_left List.not_mem_nil

theorem exists_mem_ofList (h : e ∈ es) : ∃ v, (e.1, v) ∈ ofList es :=
  (foldl_insert es List.Pairwise.nil).2.2 e (.inr h)

end SearchQuery.Entries

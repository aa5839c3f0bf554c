/-!
# Dictionaries

Values under names, kept in the order of the names.  `Entries` holds the operations on the plain
list of entries, which is also what a JSON object is made of; `Dictionary` adds that the names
increase, so that two dictionaries with the same values under the same names are equal
(`Dictionary.ext_get?`).
-/

namespace SearchQuery

variable {α : Type}

namespace Entries

def insert (name : String) (value : α) : List (String × α) → List (String × α)
  | [] => [(name, value)]
  | (n, v) :: rest =>
    if name < n then (name, value) :: (n, v) :: rest
    else if name = n then (name, value) :: rest
    else (n, v) :: insert name value rest

def find? (name : String) : List (String × α) → Option α
  | [] => none
  | (n, v) :: rest => if n = name then some v else find? name rest

def erase (name : String) (entries : List (String × α)) : List (String × α) :=
  entries.filter fun e => e.1 != name

/-- The entries put one after the other into an empty list: of several values under one name the
last stays. -/
def ofList (entries : List (String × α)) : List (String × α) :=
  entries.foldl (fun es e => insert e.1 e.2 es) []

def Sorted (entries : List (String × α)) : Prop :=
  entries.Pairwise fun a b => a.1 < b.1

theorem find?_insert (name : String) (value : α) (n : String) (entries : List (String × α)) :
    find? n (insert name value entries) = if name = n then some value else find? n entries := by
  induction entries with
  | nil => simp [insert, find?]
  | cons e rest ih =>
    obtain ⟨k, v⟩ := e
    rw [insert]
    split
    · simp [find?]
    · split
      · next h => subst h; by_cases hn : name = n <;> simp [find?, hn]
      · next h =>
        by_cases hk : k = n
        · subst hk; simp [find?, h]
        · simp [find?, hk, ih]

theorem mem_insert {name : String} {value : α} {e : String × α} {entries : List (String × α)}
    (h : e ∈ insert name value entries) : e = (name, value) ∨ e ∈ entries := by
  induction entries with
  | nil => simpa [insert] using h
  | cons hd rest ih =>
    obtain ⟨k, v⟩ := hd
    rw [insert] at h
    split at h
    · simpa using h
    · split at h
      · rcases List.mem_cons.1 h with h | h
        · exact .inl h
        · exact .inr (List.mem_cons_of_mem _ h)
      · rcases List.mem_cons.1 h with h | h
        · exact .inr (h ▸ List.mem_cons_self)
        · exact (ih h).imp_right (List.mem_cons_of_mem _)

theorem Sorted.insert {entries : List (String × α)} (h : Sorted entries) (name : String)
    (value : α) : Sorted (Entries.insert name value entries) := by
  induction entries with
  | nil => exact List.pairwise_singleton ..
  | cons e rest ih =>
    obtain ⟨k, v⟩ := e
    have hrest : ∀ b ∈ rest, k < b.1 := fun _ => List.rel_of_pairwise_cons h
    have htail : Sorted rest := List.Pairwise.of_cons h
    rw [Entries.insert]
    split
    · next hlt =>
      refine List.pairwise_cons.2 ⟨fun b hb => ?_, h⟩
      rcases List.mem_cons.1 hb with rfl | hb
      · exact hlt
      · exact String.lt_trans hlt (hrest b hb)
    · split
      · next heq => subst heq; exact List.pairwise_cons.2 ⟨hrest, htail⟩
      · next hlt hne =>
        refine List.pairwise_cons.2 ⟨fun b hb => ?_, ih htail⟩
        rcases mem_insert hb with rfl | hb
        · refine Decidable.byContradiction fun hle => hne ?_
          exact String.le_antisymm (String.not_lt.1 hle) (String.not_lt.1 hlt)
        · exact hrest b hb

theorem Sorted.erase {entries : List (String × α)} (h : Sorted entries) (name : String) :
    Sorted (Entries.erase name entries) :=
  List.Pairwise.filter _ h

theorem find?_eq_none_of_lt {name : String} {entries : List (String × α)}
    (h : ∀ e ∈ entries, name < e.1) : find? name entries = none := by
  induction entries with
  | nil => rfl
  | cons e rest ih =>
    have hne : e.1 ≠ name := fun he => String.lt_irrefl name (he ▸ h e List.mem_cons_self)
    rw [find?, if_neg hne]
    exact ih fun b hb => h b (List.mem_cons_of_mem _ hb)

theorem Sorted.eq_of_find? {s t : List (String × α)} (hs : Sorted s) (ht : Sorted t)
    (h : ∀ n, find? n s = find? n t) : s = t := by
  induction s generalizing t with
  | nil =>
    cases t with
    | nil => rfl
    | cons e rest => have := h e.1; simp [find?] at this
  | cons e rest ih =>
    cases t with
    | nil => have := h e.1; simp [find?] at this
    | cons e' rest' =>
      have hlt : ∀ b ∈ rest, e.1 < b.1 := fun _ => List.rel_of_pairwise_cons hs
      have hlt' : ∀ b ∈ rest', e'.1 < b.1 := fun _ => List.rel_of_pairwise_cons ht
      have hname : e.1 = e'.1 := by
        refine String.le_antisymm (String.not_lt.1 fun hc => ?_) (String.not_lt.1 fun hc => ?_)
        · have hfind := h e'.1
          rw [find?, if_neg (fun he => String.lt_irrefl _ (he ▸ hc)), find?, if_pos rfl,
            find?_eq_none_of_lt fun b hb => String.lt_trans hc (hlt b hb)] at hfind
          exact nomatch hfind
        · have hfind := h e.1
          rw [find?, if_pos rfl, find?, if_neg (fun he => String.lt_irrefl _ (he ▸ hc)),
            find?_eq_none_of_lt fun b hb => String.lt_trans hc (hlt' b hb)] at hfind
          exact nomatch hfind
      have hvalue : e.2 = e'.2 := by
        have hfind := h e.1
        rw [find?, if_pos rfl, find?, if_pos hname.symm] at hfind
        exact Option.some.inj hfind
      have hrest : rest = rest' := by
        refine ih (List.Pairwise.of_cons hs) (List.Pairwise.of_cons ht) fun n => ?_
        by_cases hn : e.1 = n
        · rw [find?_eq_none_of_lt (hn ▸ hlt), find?_eq_none_of_lt (hn ▸ hname ▸ hlt')]
        · have hfind := h n
          rwa [find?, if_neg hn, find?, if_neg (hname ▸ hn)] at hfind
      rw [hrest, Prod.ext hname hvalue]

end Entries

/-- Values under names, in the order of the names. -/
structure Dictionary (α : Type) where
  entries : List (String × α)
  sorted : Entries.Sorted entries

namespace Dictionary

def empty : Dictionary α :=
  ⟨[], List.Pairwise.nil⟩

instance : Inhabited (Dictionary α) :=
  ⟨empty⟩

def get? (d : Dictionary α) (name : String) : Option α :=
  Entries.find? name d.entries

def insert (d : Dictionary α) (name : String) (value : α) : Dictionary α :=
  ⟨Entries.insert name value d.entries, d.sorted.insert name value⟩

def erase (d : Dictionary α) (name : String) : Dictionary α :=
  ⟨Entries.erase name d.entries, d.sorted.erase name⟩

def insertAll (d : Dictionary α) (entries : List (String × α)) : Dictionary α :=
  entries.foldl (fun d e => d.insert e.1 e.2) d

def ofList (entries : List (String × α)) : Dictionary α :=
  empty.insertAll entries

def names (d : Dictionary α) : List String :=
  d.entries.map (·.1)

def mapValues {β : Type} (f : String → α → β) (d : Dictionary α) : Dictionary β :=
  ⟨d.entries.map fun e => (e.1, f e.1 e.2),
    by simpa [Entries.Sorted, List.pairwise_map] using d.sorted⟩

theorem get?_insert (d : Dictionary α) (name : String) (value : α) (n : String) :
    (d.insert name value).get? n = if name = n then some value else d.get? n :=
  Entries.find?_insert name value n d.entries

theorem ext_get? {d e : Dictionary α} (h : ∀ n, d.get? n = e.get? n) : d = e := by
  obtain ⟨s, hs⟩ := d
  obtain ⟨t, ht⟩ := e
  obtain rfl : s = t := hs.eq_of_find? ht h
  rfl

end Dictionary

end SearchQuery

import SearchQuery.Correspondence
import SearchQuery.Proofs.Dictionary

/-!
# How correspondences grow

A correspondence is built by putting one pair after the other behind those that are there, each for
a key and an attribute that are both free.  `Extends` is this growth, and what every correspondence
that is built has in common follows from it.

* `Extends.isPrefix`, `Extends.injective`, `Extends.mem`: pairs stay, none shares its key or its
  attribute with another, and each new one has its grounds.
* `extends_build`: the growth of a correspondence from nothing, for the grounds `Grounds`.
* `build_keeps_fields_apart`: no key and no attribute comes twice.
* `Injective.get?_apply`: what a payload holds under the names of attributes; hence
  `renamed_keeps_values`.
-/

namespace SearchQuery.Correspondence

open Entries (Distinct)

variable {c d : Correspondence} {source target : String}

/-! ### Pairs -/

def swapped (c : Correspondence) : List (String × String) :=
  c.pairs.map Prod.swap

/-- No key stands for two attributes, and no attribute has two keys. -/
structure Injective (c : Correspondence) : Prop where
  sources : Distinct c.pairs
  targets : Distinct c.swapped

def source? (c : Correspondence) (target : String) : Option String :=
  Entries.find? target c.swapped

theorem target?_eq_find? (c : Correspondence) (source : String) :
    c.target? source = Entries.find? source c.pairs := by
  rw [target?]
  induction c.pairs with
  | nil => rfl
  | cons p rest ih =>
    rw [List.find?_cons, Entries.find?]
    by_cases hp : p.1 = source
    · rw [if_pos hp, beq_iff_eq.mpr hp, Option.map_some]
    · rw [if_neg hp, beq_false_of_ne hp, ih]

theorem mem_swapped : (target, source) ∈ c.swapped ↔ (source, target) ∈ c.pairs := by
  rw [swapped, List.mem_map]
  constructor
  · rintro ⟨p, hp, heq⟩
    rwa [show p = (source, target) from Prod.swap_inj.mp heq] at hp
  · intro hp
    exact ⟨_, hp, rfl⟩

theorem Injective.target?_eq_some_iff (h : c.Injective) :
    c.target? source = some target ↔ (source, target) ∈ c.pairs := by
  rw [target?_eq_find?, Entries.find?_eq_some_iff h.sources]

theorem Injective.source?_eq_some_iff (h : c.Injective) :
    c.source? target = some source ↔ (source, target) ∈ c.pairs := by
  rw [source?, Entries.find?_eq_some_iff h.targets, mem_swapped]

/-! ### Growth -/

/-- Neither the key nor the attribute is taken. -/
def Free (c : Correspondence) (source target : String) : Prop :=
  ∀ p ∈ c.pairs, p.1 ≠ source ∧ p.2 ≠ target

theorem claim?_of_free (h : c.Free source target) :
    c.claim? source target = some { pairs := c.pairs ++ [(source, target)] } := by
  rw [claim?, if_neg]
  rw [List.any_eq_true]
  rintro ⟨p, hp, htaken⟩
  obtain ⟨hsource, htarget⟩ := h p hp
  simp [hsource, htarget] at htaken

theorem claim?_of_not_free (h : ¬ c.Free source target) : c.claim? source target = none := by
  rw [claim?, if_pos]
  rw [List.any_eq_true]
  refine Classical.byContradiction fun hnone => h fun p hp => ?_
  constructor <;> intro heq <;> exact hnone ⟨p, hp, by simp [heq]⟩

/-- Pairs that are allowed and free are put behind the others, one after the other. -/
inductive Extends (allowed : String → String → Prop) : Correspondence → Correspondence → Prop where
  | refl (c : Correspondence) : Extends allowed c c
  | snoc {c d : Correspondence} {source target : String} (prior : Extends allowed c d)
      (grounds : allowed source target) (free : d.Free source target) :
      Extends allowed c { pairs := d.pairs ++ [(source, target)] }

namespace Extends

variable {allowed : String → String → Prop}

theorem trans {e : Correspondence} (h : Extends allowed c d) (g : Extends allowed d e) :
    Extends allowed c e := by
  induction g with
  | refl => exact h
  | snoc _ grounds free ih => exact .snoc ih grounds free

theorem isPrefix (h : Extends allowed c d) : c.pairs <+: d.pairs := by
  induction h with
  | refl => exact List.prefix_rfl
  | snoc _ _ _ ih => exact ih.trans (List.prefix_append _ _)

theorem mem (h : Extends allowed c d) {p : String × String} (hp : p ∈ d.pairs) :
    p ∈ c.pairs ∨ allowed p.1 p.2 := by
  induction h with
  | refl => exact .inl hp
  | snoc _ grounds _ ih =>
    rcases List.mem_append.mp hp with hp | hp
    · exact ih hp
    · obtain rfl := List.mem_singleton.mp hp
      exact .inr grounds

theorem injective (h : Extends allowed c d) (hc : c.Injective) : d.Injective := by
  induction h with
  | refl => exact hc
  | @snoc d source target _ _ free ih =>
    constructor
    · rw [Distinct, List.map_append, List.nodup_append]
      refine ⟨ih.sources, by simp, ?_⟩
      intro a ha b hb
      obtain ⟨p, hp, rfl⟩ := List.mem_map.mp ha
      obtain rfl : b = source := by simpa using hb
      exact (free p hp).1
    · rw [Distinct, swapped, List.map_append, List.map_append, List.nodup_append]
      refine ⟨ih.targets, by simp, ?_⟩
      intro a ha b hb
      obtain ⟨q, hq, rfl⟩ := List.mem_map.mp ha
      obtain ⟨p, hp, rfl⟩ := List.mem_map.mp hq
      obtain rfl : b = target := by simpa using hb
      exact (free p hp).2

theorem claim (c : Correspondence) (h : allowed source target) :
    Extends allowed c (c.claim source target) := by
  rw [Correspondence.claim]
  by_cases hfree : c.Free source target
  · rw [claim?_of_free hfree]
    exact .snoc (.refl c) h hfree
  · rw [claim?_of_not_free hfree]
    exact .refl c

theorem foldl {β : Type} {f : Correspondence → β → Correspondence} {bs : List β}
    (h : ∀ b ∈ bs, ∀ c, Extends allowed c (f c b)) (c : Correspondence) :
    Extends allowed c (bs.foldl f c) := by
  induction bs generalizing c with
  | nil => exact .refl c
  | cons b bs ih =>
    have hfirst := h b List.mem_cons_self c
    exact hfirst.trans (ih (fun b hb => h b (List.mem_cons_of_mem _ hb)) (f c b))

end Extends

theorem injective_empty : ({} : Correspondence).Injective :=
  ⟨List.nodup_nil, List.nodup_nil⟩

/-! ### Building -/

theorem mem_of_lookup? {keys : List String} {name key : String} (h : lookup? keys name = some key) :
    key ∈ keys := by
  rw [lookup?] at h
  split at h
  · next hmem => exact Option.some.inj h ▸ hmem
  · exact List.mem_of_find?_eq_some h

theorem lookup?_of_mem {keys : List String} {name : String} (h : name ∈ keys) :
    lookup? keys name = some name := by
  rw [lookup?, if_pos h]

/-- A key that is looked up differs from the name in letter case at most. -/
theorem lowercase_of_lookup? {keys : List String} {name key : String}
    (h : lookup? keys name = some key) : Text.lowercase key = Text.lowercase name := by
  rw [lookup?] at h
  split at h
  · rw [Option.some.inj h]
  · have hfolded := List.find?_some h
    exact beq_iff_eq.mp hfolded

/-- A spelling of the attribute, one that is not empty, finds the key. -/
def Spelled (keys : List String) (source target : String) : Prop :=
  ∃ spelling : Spelling, spelling.apply target ≠ ""
    ∧ lookup? keys (spelling.apply target) = some source

theorem claimSpelled?_eq_some_iff {keys : List String} {spelling : Spelling} :
    claimSpelled? keys c target spelling = some d ↔ spelling.apply target ≠ ""
      ∧ ∃ source, lookup? keys (spelling.apply target) = some source
        ∧ c.claim? source target = some d := by
  rw [claimSpelled?]
  by_cases hempty : spelling.apply target = ""
  · simp [hempty]
  · rw [if_neg (by simpa using hempty), Option.bind_eq_some_iff, and_iff_right hempty]

/-- What taking a key for an attribute does: it takes one that a spelling finds and that is free
with the attribute, or there is none. -/
theorem claimAttribute_cases (keys : List String) (c : Correspondence) (target : String) :
    (∃ source, Spelled keys source target ∧ c.Free source target
        ∧ claimAttribute keys c target = { pairs := c.pairs ++ [(source, target)] })
      ∨ (∀ source, Spelled keys source target → ¬ c.Free source target)
        ∧ claimAttribute keys c target = c := by
  rw [claimAttribute]
  cases hfound : Spelling.all.findSome? (claimSpelled? keys c target) with
  | some d =>
    obtain ⟨spelling, -, hclaimed⟩ := List.exists_of_findSome?_eq_some hfound
    obtain ⟨hspelled, source, hsource, hclaim⟩ := claimSpelled?_eq_some_iff.mp hclaimed
    by_cases hfree : c.Free source target
    · rw [claim?_of_free hfree] at hclaim
      exact .inl ⟨source, ⟨spelling, hspelled, hsource⟩, hfree, (Option.some.inj hclaim).symm⟩
    · rw [claim?_of_not_free hfree] at hclaim
      exact nomatch hclaim
  | none =>
    refine .inr ⟨?_, rfl⟩
    rintro source ⟨spelling, hspelled, hsource⟩ hfree
    have hall : spelling ∈ Spelling.all := by cases spelling <;> decide
    have hnone := List.findSome?_eq_none_iff.mp hfound spelling hall
    exact nomatch hnone.symm.trans
      (claimSpelled?_eq_some_iff.mpr ⟨hspelled, source, hsource, claim?_of_free hfree⟩)

theorem Extends.claimAttribute {allowed : String → String → Prop} {keys : List String}
    (c : Correspondence) (h : ∀ source, Spelled keys source target → allowed source target) :
    Extends allowed c (claimAttribute keys c target) := by
  rcases claimAttribute_cases keys c target with ⟨source, hspelled, hfree, heq⟩ | ⟨-, heq⟩
  · rw [heq]
    exact .snoc (.refl c) (h source hspelled) hfree
  · rw [heq]
    exact .refl c

theorem Extends.override {allowed : String → String → Prop} {keys : List String}
    (c : Correspondence) {o : String × String}
    (h : ∀ source, lookup? keys o.1 = some source → allowed source o.2) :
    Extends allowed c (override keys c o) := by
  rw [Correspondence.override]
  split
  · next source found => exact .claim c (h source found)
  · exact .refl c

theorem claimAttribute_of_own {keys : List String} {name : String} (hname : name ≠ "")
    (hkey : name ∈ keys) (hfree : c.Free name name) :
    claimAttribute keys c name = { pairs := c.pairs ++ [(name, name)] } := by
  have hdeclared : claimSpelled? keys c name .declared
      = some { pairs := c.pairs ++ [(name, name)] } :=
    claimSpelled?_eq_some_iff.mpr ⟨hname, name, lookup?_of_mem hkey, claim?_of_free hfree⟩
  rw [claimAttribute, Spelling.all, List.findSome?_cons, hdeclared]
  rfl

/-- Why a key may stand for an attribute. -/
inductive Grounds (keys : List String) (primaryKey : String) (attributes : List String)
    (overrides : List (String × String)) : String → String → Prop where
  /-- An override says so. -/
  | override {o : String × String} {source : String} (declared : o ∈ overrides)
      (found : lookup? keys o.1 = some source) :
      Grounds keys primaryKey attributes overrides source o.2
  /-- It is found under a spelling of the attribute. -/
  | spelled {target source : String} (declared : target ∈ primaryKey :: attributes)
      (spelling : Spelling) (found : lookup? keys (spelling.apply target) = some source) :
      Grounds keys primaryKey attributes overrides source target
  /-- It is the identifier, and the attribute is the primary key. -/
  | id {source : String} (found : lookup? keys "id" = some source) :
      Grounds keys primaryKey attributes overrides source primaryKey

/-- Behind the names that were seen come only new ones. -/
theorem foldl_distinctNames (names seen : List String) :
    ∃ fresh, names.foldl (fun seen name =>
        if name.isEmpty || seen.contains name then seen else seen ++ [name]) seen = seen ++ fresh
      ∧ ∀ name ∈ fresh, name ≠ "" ∧ name ∉ seen ∧ name ∈ names := by
  induction names generalizing seen with
  | nil =>
    refine ⟨[], (List.append_nil seen).symm, ?_⟩
    intro name hname
    exact absurd hname List.not_mem_nil
  | cons first names ih =>
    rw [List.foldl_cons]
    by_cases hskip : (first.isEmpty || seen.contains first) = true
    · obtain ⟨fresh, heq, hfresh⟩ := ih seen
      rw [if_pos hskip]
      refine ⟨fresh, heq, ?_⟩
      intro name hname
      obtain ⟨hne, hseen, hmem⟩ := hfresh name hname
      exact ⟨hne, hseen, List.mem_cons_of_mem first hmem⟩
    · obtain ⟨fresh, heq, hfresh⟩ := ih (seen ++ [first])
      have hfirst : first ≠ "" ∧ first ∉ seen := by simpa using hskip
      rw [if_neg hskip]
      refine ⟨first :: fresh, by rw [heq, List.append_assoc, List.singleton_append], ?_⟩
      intro name hname
      rcases List.mem_cons.mp hname with rfl | hname
      · exact ⟨hfirst.1, hfirst.2, List.mem_cons_self⟩
      · obtain ⟨hne, hseen, hmem⟩ := hfresh name hname
        refine ⟨hne, ?_, List.mem_cons_of_mem first hmem⟩
        intro hin
        exact hseen (List.mem_append_left [first] hin)

theorem mem_distinctNames {name : String} {names : List String} (h : name ∈ distinctNames names) :
    name ∈ names := by
  obtain ⟨fresh, heq, hfresh⟩ := foldl_distinctNames names []
  rw [distinctNames, heq, List.nil_append] at h
  exact (hfresh name h).2.2

/-- A name that is not empty joins the distinct names at its first place. -/
theorem exists_distinctNames_append {name : String} {before : List String} (hname : name ≠ "")
    (hbefore : name ∉ before) (after : List String) :
    ∃ others, distinctNames (before ++ name :: after) = distinctNames before ++ name :: others := by
  have hseen : name ∉ distinctNames before := fun hmem => hbefore (mem_distinctNames hmem)
  obtain ⟨others, hothers, -⟩ := foldl_distinctNames after (distinctNames before ++ [name])
  refine ⟨others, ?_⟩
  rw [distinctNames, List.foldl_append, List.foldl_cons, ← distinctNames,
    if_neg (by simpa using ⟨hname, hseen⟩), hothers, List.append_assoc, List.singleton_append]

theorem mem_distinctNames_of_mem {name : String} {names : List String} (hname : name ≠ "")
    (h : name ∈ names) : name ∈ distinctNames names := by
  obtain ⟨before, after, rfl, hbefore⟩ := List.eq_append_cons_of_mem h
  obtain ⟨others, hothers⟩ := exists_distinctNames_append hname hbefore after
  rw [hothers]
  exact List.mem_append_right _ List.mem_cons_self

section Build

variable (keys : List String) (primaryKey : String) (attributes : List String)
  (overrides : List (String × String))

theorem extends_override (c : Correspondence) {o : String × String} (h : o ∈ overrides) :
    Extends (Grounds keys primaryKey attributes overrides) c (override keys c o) :=
  .override c fun _ found => .override h found

theorem extends_claimAttribute (c : Correspondence) {name : String}
    (h : name ∈ primaryKey :: attributes) :
    Extends (Grounds keys primaryKey attributes overrides) c (claimAttribute keys c name) :=
  .claimAttribute c fun _ ⟨spelling, _, found⟩ => .spelled h spelling found

theorem extends_claimId (c : Correspondence) :
    Extends (Grounds keys primaryKey attributes overrides) c (claimId keys primaryKey c) := by
  rw [claimId]
  split
  · next source found => exact .claim c (.id found)
  · exact .refl c

def overridden : Correspondence :=
  overrides.foldl (override keys) {}

def named : Correspondence :=
  (distinctNames (primaryKey :: attributes)).foldl (claimAttribute keys)
    (overrides.foldl (override keys) {})

theorem build_eq : build keys primaryKey attributes overrides
    = claimId keys primaryKey (named keys primaryKey attributes overrides) :=
  rfl

theorem extends_overridden : Extends (Grounds keys primaryKey attributes overrides) {}
    (overridden keys overrides) :=
  .foldl (fun _ ho c => extends_override keys primaryKey attributes overrides c ho) {}

theorem extends_named : Extends (Grounds keys primaryKey attributes overrides)
    (overridden keys overrides) (named keys primaryKey attributes overrides) :=
  .foldl (fun _ hname c => extends_claimAttribute keys primaryKey attributes overrides c
    (mem_distinctNames hname)) _

/-- **A correspondence is built from nothing, each pair on its grounds.** -/
theorem extends_build : Extends (Grounds keys primaryKey attributes overrides) {}
    (build keys primaryKey attributes overrides) := by
  rw [build_eq]
  exact ((extends_overridden ..).trans (extends_named ..)).trans (extends_claimId ..)

theorem injective_build : (build keys primaryKey attributes overrides).Injective :=
  (extends_build keys primaryKey attributes overrides).injective injective_empty

variable {keys primaryKey attributes overrides}

theorem grounds_of_mem_build
    (h : (source, target) ∈ (build keys primaryKey attributes overrides).pairs) :
    Grounds keys primaryKey attributes overrides source target :=
  ((extends_build keys primaryKey attributes overrides).mem h).resolve_left List.not_mem_nil

theorem Grounds.mem_keys (h : Grounds keys primaryKey attributes overrides source target) :
    source ∈ keys := by
  cases h with
  | override _ found => exact mem_of_lookup? found
  | spelled _ _ found => exact mem_of_lookup? found
  | id found => exact mem_of_lookup? found

theorem mem_keys_of_mem_build
    (h : (source, target) ∈ (build keys primaryKey attributes overrides).pairs) : source ∈ keys :=
  (grounds_of_mem_build h).mem_keys

/-- **Fields are neither merged nor doubled.**  Every pair has one of the keys, and over overrides,
names and the identifier together no key comes twice and no attribute comes twice; so two keys do
not stand for one attribute. -/
theorem build_keeps_fields_apart (keys : List String) (primaryKey : String)
    (attributes : List String) (overrides : List (String × String)) :
    let c := build keys primaryKey attributes overrides
    (∀ p ∈ c.pairs, p.1 ∈ keys) ∧ (c.pairs.map (·.1)).Nodup ∧ (c.pairs.map (·.2)).Nodup
      ∧ ∀ a b target, c.target? a = some target → c.target? b = some target → a = b := by
  intro c
  have hinjective : c.Injective := injective_build ..
  refine ⟨fun p hp => mem_keys_of_mem_build hp, hinjective.sources, ?_, ?_⟩
  · have htargets := hinjective.targets
    rwa [Distinct, swapped, List.map_map] at htargets
  · intro a b target ha hb
    rw [hinjective.target?_eq_some_iff, ← hinjective.source?_eq_some_iff] at ha hb
    exact Option.some.inj (ha.symm.trans hb)

/-- Keys that differ in letter case, a capital outside ASCII among them: an override, an attribute
and the identifier compete for them. -/
theorem build_keeps_fields_apart_folded :
    let c := build ["ÉTAT", "état", "Id", "ID"] "key" ["état", "État", "id"] [("éTAT", "id")]
    c.target? "ÉTAT" = some "id" ∧ (∀ b, c.target? b = some "id" → b = "ÉTAT")
      ∧ ("Id", "key") ∈ c.pairs ∧ "Id" ∈ ["ÉTAT", "état", "Id", "ID"] := by
  intro c
  have hstate : c.target? "ÉTAT" = some "id" := by decide +kernel
  have hkey : ("Id", "key") ∈ c.pairs := by decide +kernel
  obtain ⟨hkeys, -, -, happart⟩ := build_keeps_fields_apart ["ÉTAT", "état", "Id", "ID"] "key"
    ["état", "État", "id"] [("éTAT", "id")]
  exact ⟨hstate, fun b hb => happart b "ÉTAT" "id" hb hstate, hkey, hkeys _ hkey⟩

end Build

/-! ### Payloads under the names of attributes -/

section Apply

variable {α : Type}

/-- The entries whose key stands for no attribute. -/
def kept (c : Correspondence) (payload : Dictionary α) : List (String × α) :=
  payload.entries.filter fun e => (c.target? e.1).isNone

/-- The entries whose key stands for an attribute, under the name of that. -/
def renamed (c : Correspondence) (payload : Dictionary α) : List (String × α) :=
  payload.entries.filterMap fun e => (c.target? e.1).map fun t => (t, e.2)

theorem apply_eq (c : Correspondence) (payload : Dictionary α) :
    c.apply payload = (Dictionary.ofList (c.kept payload)).insertAll (c.renamed payload) :=
  rfl

theorem distinct_kept (c : Correspondence) (payload : Dictionary α) :
    Distinct (c.kept payload) :=
  payload.distinct_entries.sublist (List.filter_sublist.map _)

theorem find?_kept (c : Correspondence) (payload : Dictionary α) (name : String) :
    Entries.find? name (c.kept payload)
      = if c.target? name = none then payload.get? name else none := by
  refine Option.ext fun value => ?_
  rw [Entries.find?_eq_some_iff (c.distinct_kept payload), kept, List.mem_filter,
    Option.isNone_iff_eq_none, ← Dictionary.get?_eq_some_iff]
  by_cases hname : c.target? name = none
  · rw [if_pos hname, and_iff_left hname]
  · rw [if_neg hname]
    simp [hname]

/-- Two keys do not stand for one attribute, so that no two entries are renamed to one name. -/
theorem Injective.distinct_renamed (h : c.Injective) (payload : Dictionary α) :
    Distinct (c.renamed payload) := by
  rw [Distinct, List.nodup_iff_pairwise_ne, List.pairwise_map, renamed, List.pairwise_filterMap]
  have hkeys := payload.distinct_entries
  rw [Distinct, List.nodup_iff_pairwise_ne, List.pairwise_map] at hkeys
  refine hkeys.imp fun {a b} hne a' ha b' hb heq => hne ?_
  obtain ⟨t, ht, rfl⟩ := Option.map_eq_some_iff.mp ha
  obtain ⟨u, hu, rfl⟩ := Option.map_eq_some_iff.mp hb
  obtain rfl : t = u := heq
  rw [h.target?_eq_some_iff, ← h.source?_eq_some_iff] at ht hu
  exact Option.some.inj (ht.symm.trans hu)

theorem Injective.find?_renamed (h : c.Injective) (payload : Dictionary α) (name : String) :
    Entries.find? name (c.renamed payload) = (c.source? name).bind payload.get? := by
  refine Option.ext fun value => ?_
  rw [Entries.find?_eq_some_iff (h.distinct_renamed payload), renamed, List.mem_filterMap,
    Option.bind_eq_some_iff]
  constructor
  · rintro ⟨⟨key, v⟩, hmem, hrenamed⟩
    obtain ⟨t, ht, heq⟩ := Option.map_eq_some_iff.mp hrenamed
    obtain ⟨rfl, rfl⟩ := Prod.mk.inj heq
    exact ⟨key, h.source?_eq_some_iff.mpr (h.target?_eq_some_iff.mp ht),
      Dictionary.get?_eq_some_iff.mpr hmem⟩
  · rintro ⟨key, hkey, hvalue⟩
    have htarget := h.target?_eq_some_iff.mpr (h.source?_eq_some_iff.mp hkey)
    exact ⟨(key, value), Dictionary.get?_eq_some_iff.mp hvalue, by rw [htarget, Option.map_some]⟩

/-- **A payload under the names of attributes**: under each name stands the value of its key, or
else the value that the payload has under a key of that name which stands for no attribute. -/
theorem Injective.get?_apply (h : c.Injective) (payload : Dictionary α) (name : String) :
    (c.apply payload).get? name = ((c.source? name).bind payload.get?).or
      (if c.target? name = none then payload.get? name else none) := by
  rw [apply_eq, Dictionary.get?_insertAll _ (h.distinct_renamed payload), h.find?_renamed,
    Dictionary.get?_ofList (c.distinct_kept payload), find?_kept]

/-- **A payload loses nothing but what another value stands for.**  A key that stands for a name is
the only one that does, it is a key of the payload, and its value stands under the name.  Under a
name that no key stands for stands the payload's own value, unless its key stands for another name.
So a value that keeps its name is missing only where a key stands for that name. -/
theorem renamed_keeps_values (payload : Dictionary α) (primaryKey : String)
    (attributes : List String) (overrides : List (String × String)) :
    let c := build payload.names primaryKey attributes overrides
    let result := c.apply payload
    (∀ key name, c.target? key = some name →
        (∃ value, payload.get? key = some value ∧ result.get? name = some value)
          ∧ ∀ other, c.target? other = some name → other = key)
      ∧ (∀ name, (∀ key, c.target? key ≠ some name) → c.target? name = none →
          result.get? name = payload.get? name)
      ∧ (∀ name, (∀ key, c.target? key ≠ some name) → c.target? name ≠ none →
          result.get? name = none)
      ∧ ∀ name value, payload.get? name = some value → c.target? name = none →
          result.get? name = some value
            ∨ ∃ key ∈ payload.names, key ≠ name ∧ c.target? key = some name := by
  intro c result
  have hinjective : c.Injective := injective_build ..
  have hresult : ∀ name, result.get? name = ((c.source? name).bind payload.get?).or
      (if c.target? name = none then payload.get? name else none) :=
    fun name => hinjective.get?_apply payload name
  have hsource : ∀ key name, c.target? key = some name ↔ c.source? name = some key := by
    intro key name
    rw [hinjective.target?_eq_some_iff, hinjective.source?_eq_some_iff]
  have hkeys : ∀ key name, c.target? key = some name → key ∈ payload.names := by
    intro key name hkey
    exact mem_keys_of_mem_build (hinjective.target?_eq_some_iff.mp hkey)
  have hunclaimed : ∀ name, (∀ key, c.target? key ≠ some name) → c.source? name = none := by
    intro name hnone
    refine Option.eq_none_iff_forall_ne_some.mpr fun key hkey => ?_
    exact hnone key ((hsource key name).mpr hkey)
  have hkept : ∀ name, (∀ key, c.target? key ≠ some name) → c.target? name = none →
      result.get? name = payload.get? name := by
    intro name hnone hname
    rw [hresult, hunclaimed name hnone, Option.bind_none, Option.none_or, if_pos hname]
  refine ⟨?_, hkept, ?_, ?_⟩
  · intro key name hkey
    have hclaimed := (hsource key name).mp hkey
    obtain ⟨value, hvalue⟩ := Dictionary.mem_names.mp (hkeys key name hkey)
    refine ⟨⟨value, hvalue, ?_⟩, ?_⟩
    · rw [hresult, hclaimed, Option.bind_some, hvalue, Option.some_or]
    · intro other hother
      exact Option.some.inj (((hsource other name).mp hother).symm.trans hclaimed)
  · intro name hnone hname
    rw [hresult, hunclaimed name hnone, Option.bind_none, Option.none_or, if_neg hname]
  · intro name value hvalue hname
    by_cases hclaimed : ∃ key, c.target? key = some name
    · obtain ⟨key, hkey⟩ := hclaimed
      refine .inr ⟨key, hkeys key name hkey, ?_, hkey⟩
      rintro rfl
      exact nomatch hname.symm.trans hkey
    · refine .inl ?_
      rw [hkept name (not_exists.mp hclaimed) hname, hvalue]

/-- Two keys change places, a third takes the name of a fourth, whose value is lost, and a fifth
keeps its name. -/
theorem renamed_keeps_values_swapped :
    let payload := Dictionary.ofList [("a", 1), ("b", 2), ("c", 3), ("d", 4), ("e", 5)]
    let c := build payload.names "id" [] [("a", "b"), ("B", "a"), ("c", "d")]
    let result := c.apply payload
    c.target? "a" = some "b" ∧ c.target? "b" = some "a" ∧ c.target? "d" = none
      ∧ result.get? "b" = some 1 ∧ result.get? "a" = some 2 ∧ result.get? "c" = none
      ∧ (∃ key ∈ payload.names, key ≠ "d" ∧ c.target? key = some "d")
      ∧ result.get? "e" = some 5 := by
  intro payload c result
  obtain ⟨hrenamed, hkept, hmoved, hmissing⟩ := renamed_keeps_values payload "id" []
    [("a", "b"), ("B", "a"), ("c", "d")]
  have hpairs : c.pairs = [("a", "b"), ("b", "a"), ("c", "d")] := by decide +kernel
  have hmem : ∀ key name, c.target? key = some name → (key, name) ∈ c.pairs := by
    intro key name hkey
    exact (injective_build ..).target?_eq_some_iff.mp hkey
  have hfirst : c.target? "a" = some "b" := by decide +kernel
  have hsecond : c.target? "b" = some "a" := by decide +kernel
  have hfourth : c.target? "d" = none := by decide +kernel
  obtain ⟨⟨one, hone, hb⟩, -⟩ := hrenamed "a" "b" hfirst
  obtain ⟨⟨two, htwo, ha⟩, -⟩ := hrenamed "b" "a" hsecond
  obtain rfl : 1 = one := Option.some.inj hone
  obtain rfl : 2 = two := Option.some.inj htwo
  have hlost : result.get? "d" ≠ some 4 := by decide +kernel
  refine ⟨hfirst, hsecond, hfourth, hb, ha, hmoved "c" ?_ (by decide +kernel),
    (hmissing "d" 4 rfl hfourth).resolve_left hlost, hkept "e" ?_ (by decide +kernel)⟩
  · intro key hkey
    have hpair := hmem key "c" hkey
    simp [hpairs] at hpair
  · intro key hkey
    have hpair := hmem key "e" hkey
    simp [hpairs] at hpair

end Apply

end SearchQuery.Correspondence

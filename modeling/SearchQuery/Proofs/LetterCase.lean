import Mathlib.Data.List.Forall2
import Mathlib.Data.List.Nodup
import SearchQuery.Proofs.Correspondence

/-!
# The letter case and the order of keys

Where no two keys differ in letter case alone, a correspondence is built the same whatever the case
of the keys and whatever their order: two runs over such lists of keys take one step for one, and
what they have taken so far stays `Alike`.

* `Recased.lookup?`: a name finds corresponding keys.
* `Recased.alike_build`: a step on both sides takes corresponding keys, and so does the whole run.
* `build_recased`: the two correspondences, and what payloads become under them.
-/

namespace SearchQuery.Correspondence

variable {keys keys' : List String} {c c' : Correspondence} {source source' target : String}

/-- Both lists have the same keys up to their order and letter case, and no list has two keys that
differ in letter case alone. -/
structure Recased (keys keys' : List String) : Prop where
  distinct : (keys.map Text.lowercase).Nodup
  distinct' : (keys'.map Text.lowercase).Nodup
  same : ∀ folded, folded ∈ keys.map Text.lowercase ↔ folded ∈ keys'.map Text.lowercase

theorem Recased.symm (h : Recased keys keys') : Recased keys' keys :=
  ⟨h.distinct', h.distinct, fun folded => (h.same folded).symm⟩

/-! ### Corresponding keys -/

structure SameKey (keys keys' : List String) (key key' : String) : Prop where
  mem : key ∈ keys
  mem' : key' ∈ keys'
  folded : Text.lowercase key' = Text.lowercase key

def recase (keys' : List String) (key : String) : String :=
  (keys'.find? fun k => Text.lowercase k == Text.lowercase key).getD key

namespace Recased

variable (h : Recased keys keys')
include h

theorem eq_iff {a b a' b' : String} (ha : SameKey keys keys' a a') (hb : SameKey keys keys' b b') :
    a = b ↔ a' = b' := by
  constructor
  · rintro rfl
    exact List.inj_on_of_nodup_map h.distinct' ha.mem' hb.mem' (ha.folded.trans hb.folded.symm)
  · rintro rfl
    exact List.inj_on_of_nodup_map h.distinct ha.mem hb.mem (ha.folded.symm.trans hb.folded)

theorem exists_sameKey {key : String} (hkey : key ∈ keys) :
    ∃ key', SameKey keys keys' key key' := by
  obtain ⟨key', hmem, hfolded⟩ := List.mem_map.mp ((h.same _).mp (List.mem_map_of_mem hkey))
  exact ⟨key', hkey, hmem, hfolded⟩

theorem sameKey_recase {key : String} (hkey : key ∈ keys) :
    SameKey keys keys' key (recase keys' key) := by
  obtain ⟨key', -, hmem, hfolded⟩ := h.exists_sameKey hkey
  rw [recase]
  cases hfound : keys'.find? fun k => Text.lowercase k == Text.lowercase key with
  | none => exact absurd hfolded (by simpa using List.find?_eq_none.mp hfound key' hmem)
  | some k =>
    exact ⟨hkey, List.mem_of_find?_eq_some hfound, by simpa using List.find?_some hfound⟩

theorem recase_eq_iff {key key' : String} (hkey : key ∈ keys) :
    key' = recase keys' key ↔ key' ∈ keys' ∧ Text.lowercase key' = Text.lowercase key := by
  constructor
  · rintro rfl
    exact ⟨(h.sameKey_recase hkey).mem', (h.sameKey_recase hkey).folded⟩
  · rintro ⟨hmem, hfolded⟩
    exact (h.eq_iff ⟨hkey, hmem, hfolded⟩ (h.sameKey_recase hkey)).mp rfl

theorem exists_lookup? {name key : String} (hkey : lookup? keys name = some key) :
    ∃ key', lookup? keys' name = some key' ∧ SameKey keys keys' key key' := by
  obtain ⟨key', hsame⟩ := h.exists_sameKey (mem_of_lookup? hkey)
  have hfolded : Text.lowercase key' = Text.lowercase name :=
    hsame.folded.trans (lowercase_of_lookup? hkey)
  cases hfound : lookup? keys' name with
  | none =>
    rw [lookup?] at hfound
    split at hfound
    · exact absurd hfound (by simp)
    · exact absurd hfolded (by simpa using List.find?_eq_none.mp hfound key' hsame.mem')
  | some found =>
    have heq : found = key' := List.inj_on_of_nodup_map h.distinct' (mem_of_lookup? hfound)
      hsame.mem' ((lowercase_of_lookup? hfound).trans hfolded.symm)
    exact ⟨key', by rw [heq], hsame⟩

/-- **A name finds corresponding keys**, or none in both lists. -/
theorem lookup? (name : String) :
    Option.Rel (SameKey keys keys') (Correspondence.lookup? keys name)
      (Correspondence.lookup? keys' name) := by
  cases hkey : Correspondence.lookup? keys name with
  | some key =>
    obtain ⟨key', hkey', hsame⟩ := h.exists_lookup? hkey
    rw [hkey']
    exact .some hsame
  | none =>
    cases hkey' : Correspondence.lookup? keys' name with
    | none => exact .none
    | some key' =>
      obtain ⟨key, hfound, -⟩ := h.symm.exists_lookup? hkey'
      exact nomatch hkey.symm.trans hfound

end Recased

/-! ### Two runs -/

/-- Corresponding keys stand for the same attributes, in the same order. -/
def Alike (keys keys' : List String) (c c' : Correspondence) : Prop :=
  List.Forall₂ (fun p p' => SameKey keys keys' p.1 p'.1 ∧ p.2 = p'.2) c.pairs c'.pairs

theorem alike_empty : Alike keys keys' {} {} :=
  .nil

section Options

variable {α β γ : Type} {r : β → γ → Prop}

theorem rel_bind {s : α → α → Prop} {a a' : Option α} (ha : Option.Rel s a a') {f : α → Option β}
    {g : α → Option γ} (hfg : ∀ b b', s b b' → Option.Rel r (f b) (g b')) :
    Option.Rel r (a.bind f) (a'.bind g) := by
  cases ha with
  | none => exact .none
  | some hs => exact hfg _ _ hs

theorem rel_findSome? {f : α → Option β} {g : α → Option γ} (h : ∀ a, Option.Rel r (f a) (g a))
    (as : List α) : Option.Rel r (as.findSome? f) (as.findSome? g) := by
  induction as with
  | nil => exact .none
  | cons a as ih =>
    have ha := h a
    rw [List.findSome?_cons, List.findSome?_cons]
    revert ha
    cases f a <;> cases g a <;> intro ha
    · exact ih
    · exact nomatch ha
    · exact nomatch ha
    · exact ha

theorem rel_getD {o : Option β} {o' : Option γ} (ho : Option.Rel r o o') {b : β} {g : γ}
    (hb : r b g) : r (o.getD b) (o'.getD g) := by
  cases ho with
  | none => exact hb
  | some hr => exact hr

end Options

namespace Recased

variable (h : Recased keys keys')
include h

theorem free_iff (hc : Alike keys keys' c c') (hsource : SameKey keys keys' source source') :
    c.Free source target ↔ c'.Free source' target := by
  rw [Free, Free]
  rw [Alike] at hc
  generalize c.pairs = pairs at hc
  generalize c'.pairs = pairs' at hc
  induction hc with
  | nil => simp
  | cons hp _ ih => rw [List.forall_mem_cons, List.forall_mem_cons, ih, Ne, Ne, hp.2,
      h.eq_iff hp.1 hsource]

theorem alike_claim? (hc : Alike keys keys' c c') (hsource : SameKey keys keys' source source') :
    Option.Rel (Alike keys keys') (c.claim? source target) (c'.claim? source' target) := by
  have hfree : c.Free source target ↔ c'.Free source' target := h.free_iff hc hsource
  by_cases hfirst : c.Free source target
  · rw [claim?_of_free hfirst, claim?_of_free (hfree.mp hfirst)]
    exact .some (List.rel_append hc (.cons ⟨hsource, rfl⟩ .nil))
  · rw [claim?_of_not_free hfirst, claim?_of_not_free fun hsecond => hfirst (hfree.mpr hsecond)]
    exact .none

theorem alike_claim (hc : Alike keys keys' c c') (hsource : SameKey keys keys' source source') :
    Alike keys keys' (c.claim source target) (c'.claim source' target) :=
  rel_getD (h.alike_claim? hc hsource) hc

theorem alike_override (hc : Alike keys keys' c c') (o : String × String) :
    Alike keys keys' (override keys c o) (override keys' c' o) := by
  have hfound := h.lookup? o.1
  rw [override, override]
  revert hfound
  cases Correspondence.lookup? keys o.1 <;> cases Correspondence.lookup? keys' o.1 <;> intro hfound
  · exact hc
  · cases hfound
  · cases hfound
  · cases hfound with
    | some hsame => exact h.alike_claim hc hsame

theorem alike_claimSpelled? (hc : Alike keys keys' c c') (target : String) (spelling : Spelling) :
    Option.Rel (Alike keys keys') (claimSpelled? keys c target spelling)
      (claimSpelled? keys' c' target spelling) := by
  rw [claimSpelled?, claimSpelled?]
  split
  · exact .none
  · exact rel_bind (h.lookup? _) fun _ _ hsame => h.alike_claim? hc hsame

theorem alike_claimAttribute (hc : Alike keys keys' c c') (target : String) :
    Alike keys keys' (claimAttribute keys c target) (claimAttribute keys' c' target) :=
  rel_getD (rel_findSome? (h.alike_claimSpelled? hc target) Spelling.all) hc

theorem alike_claimId (hc : Alike keys keys' c c') (primaryKey : String) :
    Alike keys keys' (claimId keys primaryKey c) (claimId keys' primaryKey c') :=
  h.alike_override hc ("id", primaryKey)

/-- **Two runs over the same keys in another letter case and order take corresponding keys.** -/
theorem alike_build (primaryKey : String) (attributes : List String)
    (overrides : List (String × String)) :
    Alike keys keys' (build keys primaryKey attributes overrides)
      (build keys' primaryKey attributes overrides) := by
  have hoverrides : Alike keys keys' (overrides.foldl (override keys) {})
      (overrides.foldl (override keys') {}) :=
    List.foldl_rel alike_empty fun o _ _ _ hc => h.alike_override hc o
  have hnamed : Alike keys keys' (named keys primaryKey attributes overrides)
      (named keys' primaryKey attributes overrides) :=
    List.foldl_rel hoverrides fun name _ _ _ hc => h.alike_claimAttribute hc name
  exact h.alike_claimId hnamed primaryKey

/-! ### Corresponding payloads -/

theorem pairs_eq_map (hc : Alike keys keys' c c') :
    c'.pairs = c.pairs.map fun p => (recase keys' p.1, p.2) := by
  rw [Alike] at hc
  generalize c.pairs = pairs at hc
  generalize c'.pairs = pairs' at hc
  induction hc with
  | nil => rfl
  | cons hp _ ih =>
    have hkey := (h.recase_eq_iff hp.1.mem).mpr ⟨hp.1.mem', hp.1.folded⟩
    rw [List.map_cons, ← ih, ← hkey, hp.2]

theorem source?_eq_map (hc : Alike keys keys' c c') (target : String) :
    c'.source? target = (c.source? target).map (recase keys') := by
  have hswapped : c'.swapped = c.swapped.map fun e => (e.1, recase keys' e.2) := by
    rw [swapped, swapped, h.pairs_eq_map hc, List.map_map, List.map_map]
    rfl
  rw [source?, source?, hswapped, Entries.find?_map fun _ => recase keys']

end Recased

/-- With all its keys mapped, a payload has under the names of attributes only what stands under
their keys. -/
theorem Injective.get?_apply_of_mapped {α : Type} (hc : c.Injective) {payload : Dictionary α}
    (hmapped : ∀ key ∈ payload.names, (c.target? key).isSome = true) (name : String) :
    (c.apply payload).get? name = (c.source? name).bind payload.get? := by
  rw [hc.get?_apply]
  by_cases hname : c.target? name = none
  · have hnone : payload.get? name = none := by
      refine Option.eq_none_iff_forall_ne_some.mpr fun value hvalue => ?_
      have hsome := hmapped name (Dictionary.mem_names.mpr ⟨value, hvalue⟩)
      rw [hname] at hsome
      exact Bool.false_ne_true hsome
    rw [hnone, ite_self, Option.or_none]
  · rw [if_neg hname, Option.or_none]

/-- **The letter case and the order of keys do not matter** where no two keys differ in letter case
alone: in another case and order the same attributes have the corresponding keys, in the same order
of resolution, and with every key mapped payloads with the same values under corresponding keys
become the same. -/
theorem build_recased {α : Type} (h : Recased keys keys') (primaryKey : String)
    (attributes : List String) (overrides : List (String × String)) :
    let c := build keys primaryKey attributes overrides
    let c' := build keys' primaryKey attributes overrides
    (∀ key ∈ keys, ∀ key', key' = recase keys' key
        ↔ key' ∈ keys' ∧ Text.lowercase key' = Text.lowercase key)
      ∧ c'.pairs = c.pairs.map (fun p => (recase keys' p.1, p.2))
      ∧ ((∀ key ∈ keys, (c.target? key).isSome = true) → ∀ d d' : Dictionary α,
          (∀ key, key ∈ d.names ↔ key ∈ keys) → (∀ key, key ∈ d'.names ↔ key ∈ keys')
          → (∀ key ∈ keys, d'.get? (recase keys' key) = d.get? key) → c'.apply d' = c.apply d) := by
  intro c c'
  have halike : Alike keys keys' c c' := h.alike_build primaryKey attributes overrides
  have hinjective : c.Injective := injective_build ..
  have hinjective' : c'.Injective := injective_build ..
  refine ⟨fun key hkey key' => h.recase_eq_iff hkey, h.pairs_eq_map halike, ?_⟩
  intro hmapped d d' hnames hnames' hvalues
  have hmapped' : ∀ key' ∈ keys', (c'.target? key').isSome = true := by
    intro key' hkey'
    obtain ⟨key, hkey, hmem, hfolded⟩ := h.symm.exists_sameKey hkey'
    obtain ⟨target, htarget⟩ := Option.isSome_iff_exists.mp (hmapped key hmem)
    have hrecase : key' = recase keys' key := (h.recase_eq_iff hmem).mpr ⟨hkey, hfolded.symm⟩
    have hpair : (key', target) ∈ c'.pairs := by
      rw [h.pairs_eq_map halike, hrecase]
      exact List.mem_map.mpr ⟨_, hinjective.target?_eq_some_iff.mp htarget, rfl⟩
    rw [hinjective'.target?_eq_some_iff.mpr hpair, Option.isSome_some]
  refine Dictionary.ext_get? fun name => ?_
  rw [hinjective.get?_apply_of_mapped fun key hkey => hmapped key ((hnames key).mp hkey),
    hinjective'.get?_apply_of_mapped fun key hkey => hmapped' key ((hnames' key).mp hkey),
    h.source?_eq_map halike]
  cases hsource : c.source? name with
  | none => rfl
  | some key =>
    have hkey : key ∈ keys :=
      mem_keys_of_mem_build (hinjective.source?_eq_some_iff.mp hsource)
    rw [Option.map_some, Option.bind_some, Option.bind_some, hvalues key hkey]

/-- Three keys in another order and in other letter case, within ASCII and outside. -/
theorem build_recased_mixed :
    let keys := ["Title", "ENTITYID", "ÉTAT"]
    let keys' := ["entityId", "état", "TITLE"]
    let c := build keys "entity_id" ["title", "entityid"] [("État", "state")]
    let c' := build keys' "entity_id" ["title", "entityid"] [("État", "state")]
    let d := Dictionary.ofList [("Title", 1), ("ENTITYID", 2), ("ÉTAT", 3)]
    let d' := Dictionary.ofList [("entityId", 2), ("état", 3), ("TITLE", 1)]
    Recased keys keys'
      ∧ c'.pairs = [("état", "state"), ("entityId", "entity_id"), ("TITLE", "title")]
      ∧ c'.apply d' = c.apply d := by
  intro keys keys' c c' d d'
  have hkeys : keys.map Text.lowercase = ["title", "entityid", "état"] := by decide +kernel
  have hkeys' : keys'.map Text.lowercase = ["entityid", "état", "title"] := by decide +kernel
  have h : Recased keys keys' := by
    refine ⟨by rw [hkeys]; decide, by rw [hkeys']; decide, fun folded => ?_⟩
    rw [hkeys, hkeys']
    exact (show ["title", "entityid", "état"].Perm ["entityid", "état", "title"] by decide).mem_iff
  have hnames : d.names.Perm keys := by decide +kernel
  have hnames' : d'.names.Perm keys' := by decide +kernel
  obtain ⟨-, -, happly⟩ := build_recased (α := Nat) h "entity_id" ["title", "entityid"]
    [("État", "state")]
  refine ⟨h, by decide +kernel, happly (by decide +kernel) d d' (fun _ => hnames.mem_iff)
    (fun _ => hnames'.mem_iff) (by decide +kernel)⟩

end SearchQuery.Correspondence

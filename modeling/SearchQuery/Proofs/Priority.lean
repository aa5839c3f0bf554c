import SearchQuery.Proofs.Resolution

/-!
# What is declared first goes first

Overrides, the primary key and the attributes get their keys one after the other, and no turn looks
ahead or gives back what an earlier one took.  So declarations at the end change nothing for those
before them: the pairs of the shorter list stand at the front of the pairs of the longer one.

* `Extends.target?_eq_some`, `Extends.source?_eq`: what growth leaves as it is.
* `extends_overridden_append`, `extends_named_append`: what declarations at the end add.
* `build_cases`: the identifier comes last and adds one pair at most.
* `earlier_undisturbed`: all three together.
-/

namespace SearchQuery.Correspondence

variable {keys : List String} {c d : Correspondence} {source target : String}

/-! ### What growth leaves as it is -/

section Growth

variable {allowed : String → String → Prop}

theorem Extends.target?_eq_some (h : Extends allowed c d) (hc : c.Injective)
    (htarget : c.target? source = some target) : d.target? source = some target := by
  have hd : d.Injective := h.injective hc
  rw [hd.target?_eq_some_iff]
  rw [hc.target?_eq_some_iff] at htarget
  exact h.isPrefix.subset htarget

/-- An attribute for which no new pair is allowed keeps the key that it had, or has none still. -/
theorem Extends.source?_eq (h : Extends allowed c d) (hc : c.Injective)
    (hnew : ∀ source, ¬ allowed source target) : d.source? target = c.source? target := by
  have hd : d.Injective := h.injective hc
  refine Option.ext fun source => ?_
  rw [hd.source?_eq_some_iff, hc.source?_eq_some_iff]
  constructor
  · intro hp
    exact (h.mem hp).resolve_right (hnew source)
  · intro hp
    exact h.isPrefix.subset hp

end Growth

/-! ### Declarations at the end -/

/-- The distinct names of a longer list: those of the shorter one, and behind them only names that
do not occur in it. -/
theorem distinctNames_append (names more : List String) :
    ∃ fresh, distinctNames (names ++ more) = distinctNames names ++ fresh
      ∧ ∀ name ∈ fresh, name ∉ names := by
  obtain ⟨fresh, heq, hfresh⟩ := foldl_distinctNames more (distinctNames names)
  refine ⟨fresh, by rw [distinctNames, List.foldl_append, ← distinctNames, heq], ?_⟩
  intro name hname hmem
  obtain ⟨hne, hseen, -⟩ := hfresh name hname
  exact hseen (mem_distinctNames_of_mem hne hmem)

section Append

variable (keys : List String) (primaryKey : String) (attributes more : List String)
  (overrides others : List (String × String))

theorem extends_overridden_append :
    Extends (fun source target => ∃ o ∈ others, lookup? keys o.1 = some source ∧ o.2 = target)
      (overridden keys overrides) (overridden keys (overrides ++ others)) := by
  rw [overridden, overridden, List.foldl_append]
  refine .foldl ?_ _
  intro o ho c
  exact .override c fun source found => ⟨o, ho, found, rfl⟩

theorem extends_named_append :
    Extends (fun source target => target ∉ primaryKey :: attributes ∧ Spelled keys source target)
      (named keys primaryKey attributes overrides)
      (named keys primaryKey (attributes ++ more) overrides) := by
  obtain ⟨fresh, hfresh, hnew⟩ := distinctNames_append (primaryKey :: attributes) more
  rw [named, named, ← List.cons_append, hfresh, List.foldl_append]
  refine .foldl ?_ _
  intro name hname c
  exact .claimAttribute c fun source hspelled => ⟨hnew name hname, hspelled⟩

theorem injective_overridden : (overridden keys overrides).Injective :=
  (extends_overridden keys "" [] overrides).injective injective_empty

theorem injective_named : (named keys primaryKey attributes overrides).Injective :=
  (extends_named keys primaryKey attributes overrides).injective (injective_overridden ..)

/-- The identifier comes last: it adds nothing, or one pair for the primary key. -/
theorem build_cases :
    build keys primaryKey attributes overrides = named keys primaryKey attributes overrides
      ∨ ∃ key, lookup? keys "id" = some key
        ∧ (build keys primaryKey attributes overrides).pairs
          = (named keys primaryKey attributes overrides).pairs ++ [(key, primaryKey)] := by
  rw [build_eq, claimId]
  cases hid : lookup? keys "id" with
  | none => exact .inl rfl
  | some key =>
    by_cases hfree : (named keys primaryKey attributes overrides).Free key primaryKey
    · refine .inr ⟨key, rfl, ?_⟩
      show (claim _ key primaryKey).pairs = _
      rw [claim, claim?_of_free hfree]
      rfl
    · refine .inl ?_
      show claim _ key primaryKey = _
      rw [claim, claim?_of_not_free hfree]
      rfl

end Append

/-- **What is declared first is never disturbed by what comes later.**  The identifier adds one pair
at most, behind all others.  Apart from that, the pairs for some attributes are the first ones for
these and more attributes; and the pairs of some overrides are the first ones of these and more
overrides, and also of everything that is built on them.  So a key that an override, the primary key
or an attribute got stays with it, and the primary key and the attributes have the same keys, or
none, whatever attributes come after them. -/
theorem earlier_undisturbed (keys : List String) (primaryKey : String)
    (attributes more : List String) (overrides others : List (String × String)) :
    let shorter := named keys primaryKey attributes overrides
    let longer := named keys primaryKey (attributes ++ more) overrides
    (∀ names, build keys primaryKey names overrides = named keys primaryKey names overrides
        ∨ ∃ key, lookup? keys "id" = some key
          ∧ (build keys primaryKey names overrides).pairs
            = (named keys primaryKey names overrides).pairs ++ [(key, primaryKey)])
      ∧ shorter.pairs <+: longer.pairs
      ∧ (overridden keys overrides).pairs <+: (overridden keys (overrides ++ others)).pairs
      ∧ (∀ name names,
          (overridden keys overrides).pairs <+: (build keys name names overrides).pairs)
      ∧ (∀ source target, (overridden keys overrides).target? source = some target →
          ∀ name names, (build keys name names overrides).target? source = some target)
      ∧ (∀ source target, shorter.target? source = some target →
          (build keys primaryKey (attributes ++ more) overrides).target? source = some target)
      ∧ ∀ target ∈ primaryKey :: attributes, longer.source? target = shorter.source? target := by
  intro shorter longer
  have hgrown := extends_named_append keys primaryKey attributes more overrides
  have hlonger : longer.Injective := injective_named ..
  refine ⟨fun names => build_cases .., hgrown.isPrefix,
    (extends_overridden_append keys overrides others).isPrefix, ?_, ?_, ?_, ?_⟩
  · intro name names
    exact (extends_overridden_build keys name names overrides).isPrefix
  · intro source target htarget name names
    have hbuilt := extends_overridden_build keys name names overrides
    exact hbuilt.target?_eq_some (injective_overridden ..) htarget
  · intro source target htarget
    have hnamed : longer.target? source = some target :=
      hgrown.target?_eq_some (injective_named ..) htarget
    have hbuilt := extends_claimId keys primaryKey (attributes ++ more) overrides longer
    exact hbuilt.target?_eq_some hlonger hnamed
  · intro target htarget
    refine hgrown.source?_eq (injective_named ..) ?_
    intro source hnew
    exact hnew.1 htarget

/-- The key of the primary key's own name goes to an override, and that of a later attribute's own
name to an earlier attribute; two later attributes change neither. -/
theorem earlier_undisturbed_contested :
    let keys := ["created_at", "key", "ID"]
    let overrides := [("KEY", "title")]
    let shorter := named keys "key" ["createdAt"] overrides
    let longer := named keys "key" ["createdAt", "created_at", "id"] overrides
    let built := build keys "key" ["createdAt", "created_at", "id"] overrides
    shorter.pairs = [("key", "title"), ("created_at", "createdAt")]
      ∧ longer.pairs = [("key", "title"), ("created_at", "createdAt"), ("ID", "id")]
      ∧ built.target? "key" = some "title"
      ∧ built.target? "created_at" = some "createdAt"
      ∧ longer.source? "createdAt" = some "created_at" ∧ longer.source? "key" = none := by
  intro keys overrides shorter longer built
  obtain ⟨-, -, -, -, hoverride, hattribute, hsame⟩ :=
    earlier_undisturbed keys "key" ["createdAt"] ["created_at", "id"] overrides []
  have hcreated : longer.source? "createdAt" = shorter.source? "createdAt" :=
    hsame "createdAt" (by decide)
  have hkey : longer.source? "key" = shorter.source? "key" := hsame "key" (by decide)
  refine ⟨by decide +kernel, by decide +kernel,
    hoverride "key" "title" (by decide +kernel) "key" ["createdAt", "created_at", "id"],
    hattribute "created_at" "createdAt" (by decide +kernel), ?_, ?_⟩
  · rw [hcreated]
    decide +kernel
  · rw [hkey]
    decide +kernel

end SearchQuery.Correspondence

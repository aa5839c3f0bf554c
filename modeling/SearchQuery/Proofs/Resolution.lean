import SearchQuery.Proofs.Correspondence

/-!
# Which key an attribute gets

A correspondence takes what it finds, and what is taken stays taken.  So a key that is left over in
the end was left over at every step, and an attribute without a key found none that was free at its
turn.

* `pairs_have_grounds`: what every pair rests on.
* `settled_claimAttribute`, `settled_build`: an attribute gets a key, or all that its spellings find
  are taken; hence `no_match_missed`.
* `mem_build_of_not_used`, `exists_of_used`: a key with the name of an attribute stands for it,
  unless an attribute that is declared before takes it; hence `own_key_kept_iff`.
-/

namespace SearchQuery.Correspondence

variable {keys : List String} {c d : Correspondence} {source target primaryKey : String}
  {attributes : List String} {overrides : List (String × String)}

/-! ### What pairs rest on -/

/-- **Every pair has its grounds.**  An override says so, up to letter case; or the attribute is
declared and one of its spellings is the key up to letter case; or the key is the identifier and the
attribute the primary key, where `ID`, `Id` and `iD` are the identifier too if no key is `id`. -/
theorem pairs_have_grounds
    (h : (source, target) ∈ (build keys primaryKey attributes overrides).pairs) :
    (∃ o ∈ overrides, o.2 = target ∧ Text.lowercase o.1 = Text.lowercase source)
      ∨ (target ∈ primaryKey :: attributes ∧ ∃ spelling : Spelling,
          Text.lowercase (spelling.apply target) = Text.lowercase source)
      ∨ target = primaryKey
        ∧ (source = "id" ∨ "id" ∉ keys ∧ Text.lowercase source = "id") := by
  cases grounds_of_mem_build h with
  | @override o _ declared found =>
    exact .inl ⟨o, declared, rfl, (lowercase_of_lookup? found).symm⟩
  | spelled declared spelling found =>
    exact .inr (.inl ⟨declared, spelling, (lowercase_of_lookup? found).symm⟩)
  | id found =>
    refine .inr (.inr ⟨rfl, ?_⟩)
    by_cases hid : "id" ∈ keys
    · rw [lookup?_of_mem hid] at found
      exact .inl (Option.some.inj found).symm
    · refine .inr ⟨hid, ?_⟩
      rw [lowercase_of_lookup? found]
      decide

/-- The identifier in capitals, beside an override in another case and a spelling: it stands for the
primary key on the last of the grounds. -/
theorem pairs_have_grounds_folded :
    let keys := ["ÉTAT", "created_at", "ID"]
    let c := build keys "key" ["createdAt"] [("état", "state")]
    c.pairs = [("ÉTAT", "state"), ("created_at", "createdAt"), ("ID", "key")]
      ∧ "id" ∉ keys ∧ Text.lowercase "ID" = "id" := by
  intro keys c
  have hpairs : c.pairs = [("ÉTAT", "state"), ("created_at", "createdAt"), ("ID", "key")] := by
    decide +kernel
  have hmem : ("ID", "key") ∈ c.pairs := by
    rw [hpairs]
    decide
  refine ⟨hpairs, ?_⟩
  rcases pairs_have_grounds hmem with ⟨o, ho, htarget, -⟩ | ⟨-, spelling, hspelled⟩ | ⟨-, hid⟩
  · obtain rfl := List.mem_singleton.mp ho
    exact absurd htarget (by decide)
  · revert hspelled
    cases spelling <;> decide
  · exact hid.resolve_left (by decide)

/-- The identifier is taken in another letter case, too, for a primary key that is not spelled like
it. -/
theorem identifier_taken_folded :
    ¬ ∀ (keys : List String) (primaryKey : String) (attributes : List String)
        (overrides : List (String × String)),
      ∀ p ∈ (build keys primaryKey attributes overrides).pairs,
        (∃ o ∈ overrides, o.2 = p.2 ∧ Text.lowercase o.1 = Text.lowercase p.1)
          ∨ (p.2 ∈ primaryKey :: attributes ∧ ∃ spelling : Spelling,
              Text.lowercase (spelling.apply p.2) = Text.lowercase p.1)
          ∨ p.1 = "id" ∧ p.2 = primaryKey := by
  intro h
  have hmem : ("ID", "entity_id") ∈ (build ["ID"] "entity_id" [] []).pairs := by decide +kernel
  rcases h ["ID"] "entity_id" [] [] _ hmem with ⟨o, ho, -⟩ | ⟨-, spelling, hspelled⟩ | ⟨hid, -⟩
  · exact List.not_mem_nil ho
  · revert hspelled
    cases spelling <;> decide
  · exact absurd hid (by decide)

/-! ### What is taken -/

def Used (c : Correspondence) (source : String) : Prop :=
  ∃ p ∈ c.pairs, p.1 = source

def Served (c : Correspondence) (target : String) : Prop :=
  ∃ p ∈ c.pairs, p.2 = target

instance (c : Correspondence) (source : String) : Decidable (c.Used source) :=
  inferInstanceAs (Decidable (∃ p ∈ c.pairs, p.1 = source))

theorem not_free_iff : ¬ c.Free source target ↔ c.Used source ∨ c.Served target := by
  simp only [Free, Used, Served, not_forall, not_and_or, not_not, ← exists_or, ← and_or_left,
    exists_prop]

theorem Used.mono (hgrown : c.pairs <+: d.pairs) (h : c.Used source) : d.Used source :=
  h.imp fun _ hp => ⟨hgrown.subset hp.1, hp.2⟩

theorem Served.mono (hgrown : c.pairs <+: d.pairs) (h : c.Served target) : d.Served target :=
  h.imp fun _ hp => ⟨hgrown.subset hp.1, hp.2⟩

theorem used_or_served_claim (c : Correspondence) (source target : String) :
    (c.claim source target).Used source ∨ (c.claim source target).Served target := by
  by_cases hfree : c.Free source target
  · rw [claim, claim?_of_free hfree]
    exact .inl ⟨(source, target), List.mem_append_right _ List.mem_cons_self, rfl⟩
  · rw [claim, claim?_of_not_free hfree]
    exact not_free_iff.mp hfree

/-- The attribute has a key, or each key that a spelling of it finds is taken. -/
def Settled (keys : List String) (c : Correspondence) (target : String) : Prop :=
  c.Served target ∨ ∀ source, Spelled keys source target → c.Used source

theorem Settled.mono (hgrown : c.pairs <+: d.pairs) (h : Settled keys c target) :
    Settled keys d target :=
  h.imp (.mono hgrown) fun hused source hspelled => (hused source hspelled).mono hgrown

theorem settled_claimAttribute (keys : List String) (c : Correspondence) (target : String) :
    Settled keys (claimAttribute keys c target) target := by
  rcases claimAttribute_cases keys c target with ⟨source, -, -, heq⟩ | ⟨htaken, heq⟩
  · rw [heq]
    exact .inl ⟨(source, target), List.mem_append_right _ List.mem_cons_self, rfl⟩
  · rw [heq]
    by_cases hserved : c.Served target
    · exact .inl hserved
    · refine .inr fun source hspelled => ?_
      exact (not_free_iff.mp (htaken source hspelled)).resolve_right hserved

/-- What one step reaches, and growth keeps, a run with that step reaches. -/
theorem Extends.foldl_of_mem {β : Type} {allowed : String → String → Prop}
    {f : Correspondence → β → Correspondence} {P : Correspondence → Prop} {bs : List β}
    (h : ∀ b ∈ bs, ∀ c, Extends allowed c (f c b))
    (kept : ∀ c d : Correspondence, c.pairs <+: d.pairs → P c → P d) {b : β} (hb : b ∈ bs)
    (reached : ∀ c, P (f c b)) (c : Correspondence) : P (bs.foldl f c) := by
  obtain ⟨before, after, rfl⟩ := List.append_of_mem hb
  rw [List.foldl_append, List.foldl_cons]
  refine kept _ _ (Extends.foldl (fun b hb => h b ?_) _).isPrefix (reached _)
  exact List.mem_append_right _ (List.mem_cons_of_mem _ hb)

/-! ### Nothing is missed -/

section Build

variable (keys : List String) (primaryKey : String) (attributes : List String)
  (overrides : List (String × String))

theorem prefix_named_build : (named keys primaryKey attributes overrides).pairs
    <+: (build keys primaryKey attributes overrides).pairs :=
  (extends_claimId keys primaryKey attributes overrides _).isPrefix

theorem extends_overridden_build : Extends (Grounds keys primaryKey attributes overrides)
    (overridden keys overrides) (build keys primaryKey attributes overrides) := by
  rw [build_eq]
  exact (extends_named ..).trans (extends_claimId ..)

variable {keys primaryKey attributes overrides}

theorem settled_build (hname : target ≠ "") (h : target ∈ primaryKey :: attributes) :
    Settled keys (build keys primaryKey attributes overrides) target := by
  have hgrows : ∀ name ∈ distinctNames (primaryKey :: attributes), ∀ c,
      Extends (Grounds keys primaryKey attributes overrides) c (claimAttribute keys c name) :=
    fun name hmem c => extends_claimAttribute _ _ _ _ c (mem_distinctNames hmem)
  have hnamed : Settled keys (named keys primaryKey attributes overrides) target :=
    Extends.foldl_of_mem hgrows (fun _ _ => Settled.mono) (mem_distinctNames_of_mem hname h)
      (fun c => settled_claimAttribute keys c target) _
  exact hnamed.mono (prefix_named_build ..)

theorem used_or_served_override {o : String × String} (h : o ∈ overrides)
    (found : lookup? keys o.1 = some source) :
    (build keys primaryKey attributes overrides).Used source
      ∨ (build keys primaryKey attributes overrides).Served o.2 := by
  have hgrows : ∀ o ∈ overrides, ∀ c,
      Extends (Grounds keys primaryKey attributes overrides) c (override keys c o) :=
    fun o ho c => extends_override _ _ _ _ c ho
  have hreached : ∀ c, (override keys c o).Used source ∨ (override keys c o).Served o.2 := by
    intro c
    rw [override, found]
    exact used_or_served_claim c source o.2
  have hoverridden := Extends.foldl_of_mem hgrows
    (fun _ _ hgrown => Or.imp (Used.mono hgrown) (Served.mono hgrown)) h hreached {}
  have hgrown := (extends_overridden_build keys primaryKey attributes overrides).isPrefix
  exact hoverridden.imp (.mono hgrown) (.mono hgrown)

theorem used_or_served_id (found : lookup? keys "id" = some source) :
    (build keys primaryKey attributes overrides).Used source
      ∨ (build keys primaryKey attributes overrides).Served primaryKey := by
  rw [build_eq, claimId, found]
  exact used_or_served_claim _ source primaryKey

/-- **No match is missed.**  If an attribute is left without a key, each key that one of its
spellings finds stands for something else; a key that an override finds stands for something, or the
attribute of the override has another key; and so it is with the identifier and the primary key. -/
theorem no_match_missed (keys : List String) (primaryKey : String) (attributes : List String)
    (overrides : List (String × String)) :
    let c := build keys primaryKey attributes overrides
    (∀ target ∈ primaryKey :: attributes, target ≠ "" → (∀ p ∈ c.pairs, p.2 ≠ target)
        → ∀ spelling : Spelling, spelling.apply target ≠ ""
        → ∀ source, lookup? keys (spelling.apply target) = some source
        → ∃ p ∈ c.pairs, p.1 = source)
      ∧ (∀ o ∈ overrides, ∀ source, lookup? keys o.1 = some source
        → (∃ p ∈ c.pairs, p.1 = source) ∨ ∃ p ∈ c.pairs, p.2 = o.2)
      ∧ ∀ source, lookup? keys "id" = some source
        → (∃ p ∈ c.pairs, p.1 = source) ∨ ∃ p ∈ c.pairs, p.2 = primaryKey := by
  intro c
  refine ⟨?_, fun o ho source => used_or_served_override ho, fun source => used_or_served_id⟩
  intro target hdeclared hname hnone spelling hspelled source found
  have hsettled : Settled keys c target := settled_build hname hdeclared
  rcases hsettled with ⟨p, hp, htarget⟩ | hused
  · exact absurd htarget (hnone p hp)
  · exact hused source ⟨spelling, hspelled, found⟩

/-- An attribute whose only key goes to one that is declared before it, and an override whose key
goes to an earlier one. -/
theorem no_match_missed_contested :
    let keys := ["created_at", "Label", "ID"]
    let c := build keys "key" ["createdAt", "Created-At"] [("label", "title"), ("LABEL", "name")]
    c.pairs = [("Label", "title"), ("created_at", "createdAt"), ("ID", "key")]
      ∧ lookup? keys (Spelling.snakeCase.apply "Created-At") = some "created_at"
      ∧ (∃ p ∈ c.pairs, p.1 = "created_at")
      ∧ lookup? keys "LABEL" = some "Label"
      ∧ ((∃ p ∈ c.pairs, p.1 = "Label") ∨ ∃ p ∈ c.pairs, p.2 = "name") := by
  intro keys c
  have hpairs : c.pairs = [("Label", "title"), ("created_at", "createdAt"), ("ID", "key")] := by
    decide +kernel
  have hspelled : lookup? keys (Spelling.snakeCase.apply "Created-At") = some "created_at" := by
    decide +kernel
  have hlabel : lookup? keys "LABEL" = some "Label" := by decide +kernel
  obtain ⟨hmissed, hoverride, -⟩ := no_match_missed keys "key" ["createdAt", "Created-At"]
    [("label", "title"), ("LABEL", "name")]
  refine ⟨hpairs, hspelled, hmissed "Created-At" (by decide) (by decide) ?_ .snakeCase
    (by decide +kernel) _ hspelled, hlabel,
    hoverride ("LABEL", "name") (by decide) _ hlabel⟩
  show ∀ p ∈ c.pairs, p.2 ≠ "Created-At"
  rw [hpairs]
  decide

end Build

/-! ### Keys with the name of an attribute -/

def ofNames (keys names : List String) : Correspondence :=
  names.foldl (claimAttribute keys) {}

theorem extends_ofNames (keys names : List String) :
    Extends (fun source target => target ∈ names ∧ Spelled keys source target) {}
      (ofNames keys names) :=
  .foldl (fun _ hname c => .claimAttribute c fun _ hspelled => ⟨hname, hspelled⟩) {}

theorem own_claimAttribute {name : String} (hkey : name ∈ keys) (hown : ∀ p ∈ c.pairs, p.1 = p.2) :
    ∀ p ∈ (claimAttribute keys c name).pairs, p.1 = p.2 := by
  rcases claimAttribute_cases keys c name with
    ⟨source, ⟨spelling, hspelled, -⟩, hfree, -⟩ | ⟨-, heq⟩
  · have hname : name ≠ "" := by
      rintro rfl
      exact hspelled (by cases spelling <;> decide)
    -- Free with another key, the attribute is free with its own, since no pair so far is mixed.
    have hself : c.Free name name := by
      intro p hp
      have htarget := (hfree p hp).2
      exact ⟨fun hsource => htarget ((hown p hp).symm.trans hsource), htarget⟩
    rw [claimAttribute_of_own hname hkey hself]
    intro p hp
    rcases List.mem_append.mp hp with hp | hp
    · exact hown p hp
    · rw [List.mem_singleton.mp hp]
  · rwa [heq]

theorem own_ofNames {names : List String} (h : ∀ name ∈ names, name ∈ keys) :
    ∀ p ∈ (ofNames keys names).pairs, p.1 = p.2 :=
  List.foldlRecOn (motive := fun c => ∀ p ∈ c.pairs, p.1 = p.2) names (claimAttribute keys)
    (fun _ hp => absurd hp List.not_mem_nil)
    fun _ hown name hname => own_claimAttribute (h name hname) hown

section Own

variable {key : String} {before after : List String}

/-- What the attributes before a name take stays taken, and then the turn is at the name. -/
theorem prefix_ofNames_build (keys : List String) (hkey : key ≠ "") (hbefore : key ∉ before)
    (hnames : primaryKey :: attributes = before ++ key :: after) :
    (claimAttribute keys (ofNames keys (distinctNames before)) key).pairs
      <+: (build keys primaryKey attributes []).pairs := by
  obtain ⟨others, hothers⟩ := exists_distinctNames_append hkey hbefore after
  have hnamed : named keys primaryKey attributes []
      = others.foldl (claimAttribute keys)
          (claimAttribute keys (ofNames keys (distinctNames before)) key) := by
    rw [named, hnames, hothers, List.foldl_append, List.foldl_cons]
    rfl
  have hgrows : Extends (fun _ _ => True)
      (claimAttribute keys (ofNames keys (distinctNames before)) key)
      (named keys primaryKey attributes []) := by
    rw [hnamed]
    exact .foldl (fun _ _ c => .claimAttribute c fun _ _ => trivial) _
  exact hgrows.isPrefix.trans (prefix_named_build ..)

theorem Spelled.source_ne_empty (h : Spelled keys source target) : source ≠ "" := by
  obtain ⟨spelling, hspelled, found⟩ := h
  rintro rfl
  exact hspelled (Text.eq_empty_of_lowercase (lowercase_of_lookup? found).symm)

theorem target?_empty (keys : List String) (primaryKey : String) (attributes : List String) :
    (build keys primaryKey attributes []).target? "" = none := by
  have hnamed : Extends (fun source _ => source ≠ "") {} (named keys primaryKey attributes []) := by
    have hstep : ∀ name ∈ distinctNames (primaryKey :: attributes), ∀ c,
        Extends (fun source _ => source ≠ "") c (claimAttribute keys c name) := by
      intro name _ c
      exact .claimAttribute c fun _ hspelled => hspelled.source_ne_empty
    exact .foldl hstep {}
  have hid : Extends (fun source _ => source ≠ "") (named keys primaryKey attributes [])
      (build keys primaryKey attributes []) := by
    rw [build_eq, claimId]
    split
    · next source found =>
      refine .claim _ ?_
      rintro rfl
      exact absurd (lowercase_of_lookup? found) (by decide)
    · exact .refl _
  refine Option.eq_none_iff_forall_ne_some.mpr fun target htarget => ?_
  have hp := (injective_build keys primaryKey attributes []).target?_eq_some_iff.mp htarget
  exact ((hnamed.trans hid).mem hp).elim List.not_mem_nil fun hne => hne rfl

theorem mem_build_of_not_used (hempty : key ≠ "") (hkey : key ∈ keys) (hbefore : key ∉ before)
    (hnames : primaryKey :: attributes = before ++ key :: after)
    (hfree : ¬ (ofNames keys (distinctNames before)).Used key) :
    (key, key) ∈ (build keys primaryKey attributes []).pairs := by
  have hown : (ofNames keys (distinctNames before)).Free key key := by
    intro p hp
    refine ⟨fun hsource => hfree ⟨p, hp, hsource⟩, fun htarget => hbefore ?_⟩
    have hname := (extends_ofNames keys (distinctNames before)).mem hp
    exact mem_distinctNames (htarget ▸ (hname.resolve_left List.not_mem_nil).1)
  have hgrown := prefix_ofNames_build keys hempty hbefore hnames
  rw [claimAttribute_of_own hempty hkey hown] at hgrown
  exact hgrown.subset (List.mem_append_right _ List.mem_cons_self)

theorem mem_build_primaryKey (hname : primaryKey ≠ "") (hkey : primaryKey ∈ keys) :
    (primaryKey, primaryKey) ∈ (build keys primaryKey attributes []).pairs :=
  mem_build_of_not_used hname hkey List.not_mem_nil (List.nil_append _).symm
    fun ⟨_, hp, _⟩ => absurd hp List.not_mem_nil

theorem eq_of_not_used (hkey : key ∈ keys) (hbefore : key ∉ before)
    (hnames : primaryKey :: attributes = before ++ key :: after)
    (hfree : ¬ (ofNames keys (distinctNames before)).Used key) {a : String}
    (ha : (build keys primaryKey attributes []).target? key = some a) : a = key := by
  have hempty : key ≠ "" := by
    rintro rfl
    exact nomatch ha.symm.trans (target?_empty keys primaryKey attributes)
  have hpair := mem_build_of_not_used hempty hkey hbefore hnames hfree
  have htarget := (injective_build keys primaryKey attributes []).target?_eq_some_iff.mpr hpair
  exact Option.some.inj (ha.symm.trans htarget)

theorem exists_of_used (hbefore : key ∉ before)
    (hnames : primaryKey :: attributes = before ++ key :: after)
    (hused : (ofNames keys (distinctNames before)).Used key) :
    ∃ a ∈ before, Spelled keys key a
      ∧ (build keys primaryKey attributes []).target? key = some a := by
  obtain ⟨⟨source, a⟩, hp, rfl⟩ := hused
  have hgrounds := (extends_ofNames keys (distinctNames before)).mem hp
  obtain ⟨hname, hspelled⟩ := hgrounds.resolve_left List.not_mem_nil
  refine ⟨a, mem_distinctNames hname, hspelled, ?_⟩
  have hgrows : Extends (fun _ _ => True) (ofNames keys (distinctNames before))
      (claimAttribute keys (ofNames keys (distinctNames before)) source) :=
    .claimAttribute _ fun _ _ => trivial
  have hgrown := prefix_ofNames_build keys hspelled.source_ne_empty hbefore hnames
  rw [(injective_build ..).target?_eq_some_iff]
  exact (hgrows.isPrefix.trans hgrown).subset hp

theorem resolve_eq_self_iff : c.resolve key = key ↔ ∀ a, c.target? key = some a → a = key := by
  rw [resolve]
  cases c.target? key with
  | none => simp
  | some a => simp

theorem takeWhile_bne_append (h : key ∉ before) (after : List String) :
    (before ++ key :: after).takeWhile (· != key) = before := by
  have hall : ∀ a ∈ before, (a != key) = true := by
    intro a ha
    exact bne_iff_ne.mpr fun heq => h (heq ▸ ha)
  rw [List.takeWhile_append_of_pos hall, List.takeWhile_cons_of_neg (by simp), List.append_nil]

/-- **A key with the name of an attribute** keeps its name exactly if the attributes that are
declared before leave it free; otherwise it stands for one of them, of which a spelling finds it.
So it keeps its name if no spelling of those finds it, and also if each of those has a key of its
own name. -/
theorem own_key_kept_iff (hkey : key ∈ keys) (hdeclared : key ∈ primaryKey :: attributes) :
    let c := build keys primaryKey attributes []
    let before := (primaryKey :: attributes).takeWhile (· != key)
    (c.resolve key = key ↔ ¬ (ofNames keys (distinctNames before)).Used key)
      ∧ (∀ a, c.target? key = some a → a = key ∨ a ∈ before ∧ Spelled keys key a)
      ∧ ((∀ a ∈ before, ¬ Spelled keys key a) → c.resolve key = key)
      ∧ ((∀ a ∈ before, a ∈ keys) → c.resolve key = key) := by
  intro c
  obtain ⟨before, after, hnames, hbefore⟩ := List.eq_append_cons_of_mem hdeclared
  rw [hnames, takeWhile_bne_append hbefore]
  have hkept : c.resolve key = key ↔ ¬ (ofNames keys (distinctNames before)).Used key := by
    constructor
    · intro hself hused
      obtain ⟨a, hmem, -, ha⟩ := exists_of_used hbefore hnames hused
      exact hbefore (resolve_eq_self_iff.mp hself a ha ▸ hmem)
    · intro hfree
      exact resolve_eq_self_iff.mpr fun a => eq_of_not_used hkey hbefore hnames hfree
  have hgoes : ∀ a, c.target? key = some a → a = key ∨ a ∈ before ∧ Spelled keys key a := by
    intro a ha
    by_cases hused : (ofNames keys (distinctNames before)).Used key
    · obtain ⟨b, hmem, hspelled, hb⟩ := exists_of_used hbefore hnames hused
      obtain rfl := Option.some.inj (ha.symm.trans hb)
      exact .inr ⟨hmem, hspelled⟩
    · exact .inl (eq_of_not_used hkey hbefore hnames hused ha)
  refine ⟨hkept, hgoes, fun hapart => ?_, fun hown => hkept.mpr ?_⟩
  · refine resolve_eq_self_iff.mpr fun a ha => ?_
    exact (hgoes a ha).resolve_right fun htaken => hapart a htaken.1 htaken.2
  · rintro ⟨p, hp, hsource⟩
    have hself := own_ofNames (fun a ha => hown a (mem_distinctNames ha)) p hp
    have hname := ((extends_ofNames keys _).mem hp).resolve_left List.not_mem_nil
    exact hbefore (mem_distinctNames ((hself.symm.trans hsource) ▸ hname.1))

/-- A spelling of an attribute before finds the key, but an earlier spelling finds another one. -/
theorem own_key_kept_beside_another :
    let keys := ["created_at", "CREATEDAT"]
    "created_at" ∈ keys ∧ "created_at" ∈ ["id", "createdAt", "created_at"]
      ∧ Spelled keys "created_at" "createdAt"
      ∧ (build keys "id" ["createdAt", "created_at"] []).resolve "created_at" = "created_at" := by
  intro keys
  have hkey : "created_at" ∈ keys := by decide
  have hdeclared : "created_at" ∈ ["id", "createdAt", "created_at"] := by decide
  obtain ⟨hkept, -⟩ := own_key_kept_iff hkey hdeclared
  exact ⟨hkey, hdeclared, ⟨.snakeCase, by decide, by decide +kernel⟩,
    hkept.mpr (by decide +kernel)⟩

/-- An attribute that is declared before takes the key of another's name by its spelling. -/
theorem own_key_lost_to_spelling :
    ¬ ∀ (keys : List String) (primaryKey : String) (attributes : List String),
      ∀ key ∈ keys, key ∈ primaryKey :: attributes
        → (build keys primaryKey attributes []).resolve key = key := by
  intro h
  have hkept := h ["created_at"] "id" ["createdAt", "created_at"] "created_at" (by decide)
    (by decide)
  exact absurd hkept (by decide +kernel)

end Own

end SearchQuery.Correspondence

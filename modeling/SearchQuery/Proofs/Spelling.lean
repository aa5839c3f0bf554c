import Mathlib.Data.List.Chain
import SearchQuery.Spelling

/-!
# Names with their words joined

Joining the words of a name by underscores changes nothing but the letter case and what stands
between the words.  `Joins` says so of a name and what is written for it: the characters of the name
in their order, capitals in lower case, without spaces and hyphens, and with underscores put in, but
neither at the start nor behind another.  It leaves open where a word starts; the laws of the
spelling do not depend on that.

* `snakeCaseFrom_capital`, `snakeCaseFrom_gap`, `snakeCaseFrom_other`: one character.
* `joins_snakeCaseFrom`: what is written of a name.
* `Joins.plain`, `Joins.filter_eq`, `Joins.isChain`: what this says of plain names.
* `snakeCaseFrom_eq_self`: what is written stays as it is.
* `snakeCase_of_ascii`: the spelling of plain names.
-/

namespace SearchQuery.Spelling

open Text (isUppercase isLowercase lowerChar)

/-! ### One character -/

def isGap (c : Char) : Bool :=
  c == ' ' || c == '-'

def lowered (c : Char) : List Char :=
  if isUppercase c then lowerChar c else [c]

/-- Whether a capital starts a word, by the characters behind it and the one before it. -/
def startsWord (rest : List Char) : Option Char → Bool
  | none => false
  | some p => isLowercase p || p.isDigit || (isUppercase p && rest.head?.any isLowercase)

theorem isUppercase_of_isGap {c : Char} (h : isGap c = true) : isUppercase c = false := by
  simp only [isGap, Bool.or_eq_true, beq_iff_eq] at h
  rcases h with rfl | rfl <;> decide

theorem startsWord_of_isGap {p : Char} (h : isGap p = true) (rest : List Char) :
    startsWord rest (some p) = false := by
  rw [startsWord, isUppercase_of_isGap h, Bool.false_and, Bool.or_false]
  simp only [isGap, Bool.or_eq_true, beq_iff_eq] at h
  rcases h with rfl | rfl <;> decide

section Step

variable {last previous : Option Char} {c : Char} {rest : List Char}

theorem snakeCaseFrom_capital (h : isUppercase c = true) :
    snakeCaseFrom last previous (c :: rest)
      = (if startsWord rest previous && last != some '_' then ['_'] else [])
        ++ (lowerChar c ++ snakeCaseFrom (lowerChar c).getLast? (some c) rest) := by
  rw [← List.append_assoc, snakeCaseFrom.eq_def]
  dsimp only
  rw [if_pos h]
  cases previous <;> rfl

theorem snakeCaseFrom_gap (h : isGap c = true) :
    snakeCaseFrom last previous (c :: rest)
      = if last.isSome && last != some '_' then '_' :: snakeCaseFrom (some '_') (some c) rest
        else snakeCaseFrom last (some c) rest := by
  rw [snakeCaseFrom.eq_def]
  dsimp only
  rw [if_neg (by rw [isUppercase_of_isGap h]; decide), ← isGap, if_pos h]

theorem snakeCaseFrom_other (hcapital : isUppercase c = false) (hgap : isGap c = false) :
    snakeCaseFrom last previous (c :: rest) = c :: snakeCaseFrom (some c) (some c) rest := by
  rw [snakeCaseFrom.eq_def]
  dsimp only
  rw [if_neg (Bool.not_eq_true _ ▸ hcapital), ← isGap, if_neg (Bool.not_eq_true _ ▸ hgap)]

end Step

/-! ### What is written -/

/-- Behind `last`, `out` has the characters of `cs` but the gaps, capitals in lower case, and
underscores put in neither at the start nor behind another. -/
inductive Joins : Option Char → List Char → List Char → Prop
  | done {last : Option Char} : Joins last [] []
  | keep {last : Option Char} {c : Char} {rest out : List Char} (hc : isGap c = false)
      (hrest : Joins (lowered c).getLast? rest out) : Joins last (c :: rest) (lowered c ++ out)
  | skip {last : Option Char} {c : Char} {rest out : List Char} (hc : isGap c = true)
      (hrest : Joins last rest out) : Joins last (c :: rest) out
  | join {last : Option Char} {cs out : List Char} (hstart : last ≠ none)
      (hbeside : last ≠ some '_') (hout : Joins (some '_') cs out) : Joins last cs ('_' :: out)

/-- As long as nothing is written, nothing but gaps has been read. -/
def Behind (last previous : Option Char) : Prop :=
  last = none → ∀ p ∈ previous, isGap p = true

theorem behind_some (c : Char) (previous : Option Char) : Behind (some c) previous :=
  nofun

theorem Behind.ne_none {last previous : Option Char} (h : Behind last previous) {rest : List Char}
    (hstarts : startsWord rest previous = true) : last ≠ none := by
  intro hlast
  cases previous with
  | none => exact Bool.false_ne_true hstarts
  | some p =>
    rw [startsWord_of_isGap (h hlast p rfl)] at hstarts
    exact Bool.false_ne_true hstarts

/-- **A name is written with its words joined**, whatever its characters are. -/
theorem joins_snakeCaseFrom {last previous : Option Char} (h : Behind last previous)
    (cs : List Char) : Joins last cs (snakeCaseFrom last previous cs) := by
  induction cs generalizing last previous with
  | nil => exact .done
  | cons c rest ih =>
    cases hgap : isGap c with
    | true =>
      rw [snakeCaseFrom_gap hgap]
      split
      · next hjoint =>
        rw [Bool.and_eq_true, bne_iff_ne, Option.isSome_iff_ne_none] at hjoint
        exact .join hjoint.1 hjoint.2 (.skip hgap (ih (behind_some _ _)))
      · have hbehind : Behind last (some c) := fun _ p hp => Option.some.inj hp ▸ hgap
        exact .skip hgap (ih hbehind)
    | false =>
      have hkeep : ∀ last, Behind (lowered c).getLast? (some c) → Joins last (c :: rest)
          (lowered c ++ snakeCaseFrom (lowered c).getLast? (some c) rest) :=
        fun last hbehind => .keep hgap (ih hbehind)
      cases hcapital : isUppercase c with
      | true =>
        have hlowered : lowered c = lowerChar c := if_pos hcapital
        have hbehind : Behind (lowered c).getLast? (some c) := by
          intro hnone
          rw [hlowered, List.getLast?_eq_none_iff] at hnone
          exact absurd hnone (Text.lowerChar_ne_nil c)
        rw [snakeCaseFrom_capital hcapital, ← hlowered]
        split
        · next hjoint =>
          rw [Bool.and_eq_true, bne_iff_ne] at hjoint
          exact .join (h.ne_none hjoint.1) hjoint.2 (hkeep (some '_') hbehind)
        · exact hkeep last hbehind
      | false =>
        have hlowered : lowered c = [c] := if_neg (by rw [hcapital]; decide)
        rw [hlowered] at hkeep
        rw [snakeCaseFrom_other hcapital hgap]
        exact hkeep last (behind_some c (some c))

theorem snakeCaseFrom_eq_self {cs : List Char}
    (h : ∀ c ∈ cs, isUppercase c = false ∧ isGap c = false) (last previous : Option Char) :
    snakeCaseFrom last previous cs = cs := by
  induction cs generalizing last previous with
  | nil => rfl
  | cons c rest ih =>
    obtain ⟨hc, hrest⟩ := List.forall_mem_cons.mp h
    rw [snakeCaseFrom_other hc.1 hc.2, ih hrest]

/-! ### Plain names -/

/-- What holds of the first 128 characters, one by one, holds of any plain character. -/
theorem forall_ascii {p : Char → Prop} (h : ∀ n : Fin 128, p (Char.ofNat n)) {c : Char}
    (hc : c.toNat < 128) : p c := by
  have hn := h ⟨c.toNat, hc⟩
  rwa [Char.ofNat_toNat] at hn

section Plain

variable {c : Char} (hc : c.toNat < 128)
include hc

theorem lowered_of_ascii : lowered c = [c.toLower] :=
  forall_ascii (p := fun c => lowered c = [c.toLower]) (by decide +kernel) hc

theorem isUppercase_toLower : isUppercase c.toLower = false :=
  forall_ascii (p := fun c => isUppercase c.toLower = false) (by decide +kernel) hc

theorem isGap_toLower : isGap c.toLower = isGap c :=
  forall_ascii (p := fun c => isGap c.toLower = isGap c) (by decide +kernel) hc

theorem toLower_eq_underscore : c.toLower = '_' ↔ c = '_' :=
  forall_ascii (p := fun c => c.toLower = '_' ↔ c = '_') (by decide +kernel) hc

end Plain

theorem lowercaseAfter_of_ascii {cs : List Char} (h : ∀ c ∈ cs, c.toNat < 128)
    (before : List Char) : Text.lowercaseAfter before cs = cs.map Char.toLower := by
  induction cs generalizing before with
  | nil => rfl
  | cons c rest ih =>
    obtain ⟨hc, hrest⟩ := List.forall_mem_cons.mp h
    have hsigma : (c == 'Σ') = false := beq_false_of_ne fun heq => absurd hc (by rw [heq]; decide)
    rw [Text.lowercaseAfter, hsigma, ih hrest, lowerChar, if_pos hc]
    rfl

theorem toList_lowercase_of_ascii {text : String} (h : ∀ c ∈ text.toList, c.toNat < 128) :
    (Text.lowercase text).toList = text.toList.map Char.toLower := by
  rw [Text.lowercase, String.toList_ofList, lowercaseAfter_of_ascii h]

namespace Joins

variable {last : Option Char} {cs out : List Char}

theorem plain (h : Joins last cs out) (hascii : ∀ c ∈ cs, c.toNat < 128) :
    ∀ c ∈ out, isUppercase c = false ∧ isGap c = false := by
  induction h with
  | done => exact nofun
  | keep hgap _ ih =>
    obtain ⟨hc, hrest⟩ := List.forall_mem_cons.mp hascii
    rw [lowered_of_ascii hc, List.singleton_append, List.forall_mem_cons, isGap_toLower hc]
    exact ⟨⟨isUppercase_toLower hc, hgap⟩, ih hrest⟩
  | skip _ _ ih => exact ih (List.forall_mem_cons.mp hascii).2
  | join _ _ _ ih => exact List.forall_mem_cons.mpr ⟨by decide, ih hascii⟩

/-- But for underscores, gaps and the letter case, what is written is what was read. -/
theorem filter_eq (h : Joins last cs out) (hascii : ∀ c ∈ cs, c.toNat < 128) :
    out.filter (· != '_') = (cs.map Char.toLower).filter fun c => c != '_' && !isGap c := by
  induction h with
  | done => rfl
  | keep hgap _ ih =>
    obtain ⟨hc, hrest⟩ := List.forall_mem_cons.mp hascii
    rw [lowered_of_ascii hc, List.singleton_append, List.map_cons, List.filter_cons,
      List.filter_cons, ih hrest, isGap_toLower hc, hgap, Bool.not_false, Bool.and_true]
  | skip hgap _ ih =>
    obtain ⟨hc, hrest⟩ := List.forall_mem_cons.mp hascii
    rw [List.map_cons, List.filter_cons_of_neg (by rw [isGap_toLower hc, hgap]; simp), ih hrest]
  | join _ _ _ ih => rw [List.filter_cons_of_neg (by decide), ih hascii]

/-- In a name without underscores the words are joined by single ones, of which none stands at the
start: where nothing is written yet, an underscore stands as little as behind another. -/
theorem isChain (h : Joins last cs out) (hascii : ∀ c ∈ cs, c.toNat < 128) (hname : '_' ∉ cs) :
    List.IsChain (fun a b => a ≠ '_' ∨ b ≠ '_') (last.getD '_' :: out) := by
  induction h with
  | done => exact .singleton _
  | keep _ _ ih =>
    obtain ⟨hc, hrest⟩ := List.forall_mem_cons.mp hascii
    obtain ⟨hne, hname⟩ := not_or.mp (mt List.mem_cons.mpr hname)
    have hchain := ih hrest hname
    rw [lowered_of_ascii hc] at hchain ⊢
    exact .cons_cons (.inr (mt (toLower_eq_underscore hc).mp (Ne.symm hne))) hchain
  | skip _ _ ih =>
    exact ih (List.forall_mem_cons.mp hascii).2 fun hmem => hname (List.mem_cons_of_mem _ hmem)
  | @join last _ _ hstart hbeside _ ih =>
    cases last with
    | none => exact absurd rfl hstart
    | some d => exact .cons_cons (.inl fun hd => hbeside (congrArg some hd)) (ih hascii hname)

end Joins

theorem joins_snakeCase (name : String) :
    Joins none name.toList (SearchQuery.snakeCase name).toList := by
  rw [SearchQuery.snakeCase, String.toList_ofList]
  exact joins_snakeCaseFrom (fun _ p hp => absurd hp (Option.not_mem_none p)) name.toList

/-- **Joining the words of a plain name changes nothing but the letter case and what stands between
the words.**  No capital, space or hyphen is written; but for underscores, the name in lower case is
written without them; a name without underscores gets none at its start and no two in a row; and
what is written stays as it is. -/
theorem snakeCase_of_ascii (name : String) (hascii : ∀ c ∈ name.toList, c.toNat < 128) :
    let written := SearchQuery.snakeCase name
    (∀ c ∈ written.toList, isUppercase c = false ∧ c ≠ ' ' ∧ c ≠ '-')
      ∧ written.toList.filter (· != '_')
        = (Text.lowercase name).toList.filter (fun c => c != '_' && c != ' ' && c != '-')
      ∧ ('_' ∉ name.toList → written.toList.head? ≠ some '_' ∧ ¬ ['_', '_'] <:+: written.toList)
      ∧ SearchQuery.snakeCase written = written := by
  intro written
  have h : Joins none name.toList written.toList := joins_snakeCase name
  have hplain := h.plain hascii
  refine ⟨fun c hc => ?_, ?_, fun hname => ?_, ?_⟩
  · obtain ⟨hcapital, hgap⟩ := hplain c hc
    rw [isGap, Bool.or_eq_false_iff, beq_eq_false_iff_ne, beq_eq_false_iff_ne] at hgap
    exact ⟨hcapital, hgap⟩
  · rw [h.filter_eq hascii, toList_lowercase_of_ascii hascii]
    simp only [isGap, Bool.not_or, Bool.and_assoc]
    rfl
  · have hpair : ¬ ['_', '_'] <:+: '_' :: written.toList := by
      rintro ⟨before, after, heq⟩
      have hchain := h.isChain hascii hname
      rw [Option.getD_none, ← heq] at hchain
      have hjoined := hchain.left_of_append.right_of_append
      exact absurd (List.isChain_cons_cons.mp hjoined).1 (by decide)
    refine ⟨fun hhead => hpair ?_, fun hinner => hpair ?_⟩
    · obtain ⟨rest, hrest⟩ := List.head?_eq_some_iff.mp hhead
      rw [hrest]
      exact ⟨[], rest, rfl⟩
    · exact List.IsInfix.trans hinner (List.suffix_cons '_' written.toList).isInfix
  · rw [SearchQuery.snakeCase, snakeCaseFrom_eq_self hplain, String.ofList_toList]

/-- A hyphen at the start, capitals in a row, a digit before a capital and several gaps in a row. -/
theorem snakeCase_of_ascii_words :
    let name := "-HTTPStatus of Route66X - ID"
    let written := SearchQuery.snakeCase name
    (∀ c ∈ name.toList, c.toNat < 128)
      ∧ written = "http_status_of_route66_x_id"
      ∧ written.toList.filter (· != '_') = "httpstatusofroute66xid".toList
      ∧ ¬ ['_', '_'] <:+: written.toList
      ∧ SearchQuery.snakeCase written = written := by
  intro name written
  have hall : name.toList.all (·.toNat < 128) = true := by decide +kernel
  have hascii : ∀ c ∈ name.toList, c.toNat < 128 := fun c hc =>
    of_decide_eq_true (List.all_eq_true.mp hall c hc)
  obtain ⟨-, hfilter, hjoined, hsame⟩ := snakeCase_of_ascii name hascii
  refine ⟨hascii, by decide +kernel, hfilter.trans (by decide +kernel), ?_, hsame⟩
  exact (hjoined (by decide +kernel)).2

end SearchQuery.Spelling

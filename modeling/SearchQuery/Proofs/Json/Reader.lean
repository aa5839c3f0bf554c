import Mathlib.Data.List.DropRight
import Mathlib.Data.List.TakeDrop
import SearchQuery.Json.Reader

/-!
# Reading does not look ahead

What is read at the beginning of a text stays the same when more fuel is at hand and more text
follows, as long as that text does not go on with a number.

* `readNumber?_append`, `readQuoted?_append`: numbers and strings.
* `ReadsOn.value_succ`, `readsOn`: values, and with them the items of arrays and the members of
  objects.
* `readValue?_of_read?`: what is read as a whole text is also read where other text follows.
-/

namespace SearchQuery.Json

/-! ### Numbers -/

/-- A text that does not go on with a number that stands before it. -/
def Apart (tail : List Char) : Prop :=
  ∀ c ∈ tail.head?, c.isDigit = false ∧ c ≠ '.' ∧ c ≠ 'e' ∧ c ≠ 'E'

section Numbers

variable {tail : List Char} (ht : Apart tail)
include ht

theorem span_isDigit_append_tail (cs : List Char) :
    (cs ++ tail).span Char.isDigit
      = ((cs.span Char.isDigit).1, (cs.span Char.isDigit).2 ++ tail) := by
  simp only [List.span_eq_takeWhile_dropWhile]
  induction cs with
  | nil =>
    cases tail with
    | nil => rfl
    | cons c rest => simp [(ht c rfl).1]
  | cons c rest ih =>
    obtain ⟨htake, hdrop⟩ := Prod.mk.inj ih
    cases hc : c.isDigit <;> simp [hc, htake, hdrop]

theorem readFraction?_append {cs rest : List Char} {fraction : Option (List Char)}
    (h : readFraction? cs = some (fraction, rest)) :
    readFraction? (cs ++ tail) = some (fraction, rest ++ tail) := by
  cases cs with
  | nil =>
    obtain ⟨rfl, rfl⟩ := Prod.mk.inj (Option.some.inj h)
    cases tail with
    | nil => rfl
    | cons c after => simp [readFraction?, (ht c rfl).2.1]
  | cons c digits =>
    by_cases hpoint : c = '.'
    · subst hpoint
      rw [readFraction?] at h
      rw [List.cons_append, readFraction?, span_isDigit_append_tail ht]
      dsimp only at h ⊢
      split at h
      · exact nomatch h
      · next hdigits =>
        obtain ⟨rfl, rfl⟩ := Prod.mk.inj (Option.some.inj h)
        rw [if_neg hdigits]
    · have hnone : ∀ cs, readFraction? (c :: cs) = some (none, c :: cs) := by
        intro cs
        simp [readFraction?, hpoint]
      rw [hnone] at h
      obtain ⟨rfl, rfl⟩ := Prod.mk.inj (Option.some.inj h)
      exact hnone (digits ++ tail)

omit ht in
theorem takeSign_cons_append (c : Char) (cs tail : List Char) :
    Decimal.takeSign (c :: cs ++ tail)
      = ((Decimal.takeSign (c :: cs)).1, (Decimal.takeSign (c :: cs)).2 ++ tail) := by
  by_cases hplus : c = '+'
  · subst hplus; rfl
  by_cases hminus : c = '-'
  · subst hminus; rfl
  simp [Decimal.takeSign, hplus, hminus]

theorem readExponent?_append {cs rest : List Char} {exponent : Option Int}
    (h : readExponent? cs = some (exponent, rest)) :
    readExponent? (cs ++ tail) = some (exponent, rest ++ tail) := by
  cases cs with
  | nil =>
    obtain ⟨rfl, rfl⟩ := Prod.mk.inj (Option.some.inj h)
    cases tail with
    | nil => rfl
    | cons c after =>
      obtain ⟨-, -, he, hE⟩ := ht c rfl
      simp [readExponent?, he, hE]
  | cons c digits =>
    rw [readExponent?] at h
    rw [List.cons_append, readExponent?]
    split at h
    · next hmark =>
      rw [if_pos hmark]
      cases digits with
      | nil => exact nomatch h
      | cons d digits =>
        rw [takeSign_cons_append]
        dsimp only at h ⊢
        rw [span_isDigit_append_tail ht]
        dsimp only
        split at h
        · exact nomatch h
        · next hdigits =>
          obtain ⟨rfl, rfl⟩ := Prod.mk.inj (Option.some.inj h)
          rw [if_neg hdigits]
    · next hmark =>
      obtain ⟨rfl, rfl⟩ := Prod.mk.inj (Option.some.inj h)
      rw [if_neg hmark]
      rfl

theorem readNumber?_append {negative : Bool} {cs rest : List Char} {n : Number}
    (h : readNumber? negative cs = some (n, rest)) :
    readNumber? negative (cs ++ tail) = some (n, rest ++ tail) := by
  unfold readNumber? at h ⊢
  rw [span_isDigit_append_tail ht]
  dsimp only at h ⊢
  split at h
  · exact nomatch h
  next hwhole =>
  rw [if_neg hwhole]
  simp only [Option.bind_eq_bind, Option.bind_eq_some_iff, Option.pure_def] at h ⊢
  obtain ⟨⟨fraction, afterFraction⟩, hfraction, ⟨exponent, after⟩, hexponent, h⟩ := h
  refine ⟨_, readFraction?_append ht hfraction, _, readExponent?_append ht hexponent, ?_⟩
  cases fraction <;> cases exponent
  all_goals
    obtain ⟨m, hm, hn⟩ := Option.bind_eq_some_iff.mp h
    obtain ⟨rfl, rfl⟩ := Prod.mk.inj (Option.some.inj hn)
    exact Option.bind_eq_some_iff.mpr ⟨m, hm, rfl⟩

end Numbers

/-! ### Strings -/

theorem readUnit?_append {cs rest : List Char} {unit : Nat} (h : readUnit? cs = some (unit, rest))
    (tail : List Char) : readUnit? (cs ++ tail) = some (unit, rest ++ tail) := by
  unfold readUnit? at h
  split at h
  · next a b c d after =>
    simp only [List.cons_append, readUnit?]
    simp only [Option.bind_eq_bind, Option.bind_eq_some_iff, Option.pure_def] at h ⊢
    obtain ⟨a, ha, b, hb, c, hc, d, hd, hn⟩ := h
    obtain ⟨rfl, rfl⟩ := Prod.mk.inj (Option.some.inj hn)
    exact ⟨a, ha, b, hb, c, hc, d, hd, rfl⟩
  · exact nomatch h

theorem readCodePoint?_append {cs rest : List Char} {c : Char}
    (h : readCodePoint? cs = some (c, rest)) (tail : List Char) :
    readCodePoint? (cs ++ tail) = some (c, rest ++ tail) := by
  rw [readCodePoint?, Option.bind_eq_bind, Option.bind_eq_some_iff] at h
  obtain ⟨⟨unit, after⟩, hunit, h⟩ := h
  rw [readCodePoint?, Option.bind_eq_bind, readUnit?_append hunit tail, Option.bind_some]
  dsimp only at h ⊢
  split at h
  · exact nomatch h
  next hlow =>
  rw [if_neg hlow]
  split at h
  · next hhigh =>
    rw [if_pos hhigh]
    split at h
    · next second =>
      obtain ⟨⟨partner, after⟩, hpartner, h⟩ := Option.bind_eq_some_iff.mp h
      refine Option.bind_eq_some_iff.mpr ⟨_, readUnit?_append hpartner tail, ?_⟩
      dsimp only at h ⊢
      split at h
      · next hin =>
        obtain ⟨rfl, rfl⟩ := Prod.mk.inj (Option.some.inj h)
        rw [if_pos hin]
      · exact nomatch h
    · exact nomatch h
  · next hhigh =>
    obtain ⟨rfl, rfl⟩ := Prod.mk.inj (Option.some.inj h)
    rw [if_neg hhigh]

theorem readString?_append {fuel : Nat} {cs s rest : List Char}
    (h : readString? fuel cs = some (s, rest)) {more : Nat} (hle : fuel ≤ more) (tail : List Char) :
    readString? more (cs ++ tail) = some (s, rest ++ tail) := by
  induction fuel generalizing cs s more with
  | zero => exact nomatch h
  | succ fuel ih =>
    obtain ⟨more, rfl⟩ : ∃ m, more = m + 1 := ⟨more - 1, by omega⟩
    -- Whatever the first character was, the others are read after it.
    have hothers : ∀ {c : Char} {others s : List Char},
        ((readString? fuel others).bind fun r => some (c :: r.1, r.2)) = some (s, rest) →
        ((readString? more (others ++ tail)).bind fun r => some (c :: r.1, r.2))
          = some (s, rest ++ tail) := by
      intro c others s h
      obtain ⟨⟨ds, after⟩, hds, h⟩ := Option.bind_eq_some_iff.mp h
      obtain ⟨rfl, rfl⟩ := Prod.mk.inj (Option.some.inj h)
      exact Option.bind_eq_some_iff.mpr ⟨_, ih hds (Nat.le_of_succ_le_succ hle), rfl⟩
    cases cs with
    | nil => exact nomatch h
    | cons c others =>
      rw [List.cons_append, readString?.eq_def]
      rw [readString?.eq_def] at h
      dsimp only at h ⊢
      split at h
      · next hquote =>
        obtain ⟨rfl, rfl⟩ := Prod.mk.inj (Option.some.inj h)
        rw [if_pos hquote]
      next hquote =>
      rw [if_neg hquote]
      split at h
      · next hescape =>
        rw [if_pos hescape]
        split at h
        · next escaped =>
          obtain ⟨⟨d, after⟩, hd, h⟩ := Option.bind_eq_some_iff.mp h
          exact Option.bind_eq_some_iff.mpr ⟨_, readCodePoint?_append hd tail, hothers h⟩
        · next e escaped hunicode =>
          obtain ⟨d, hd, h⟩ := Option.bind_eq_some_iff.mp h
          rw [List.cons_append]
          split
          · next heq => exact absurd (List.cons.inj heq).1 hunicode
          · next heq =>
            obtain ⟨rfl, rfl⟩ := List.cons.inj heq
            exact Option.bind_eq_some_iff.mpr ⟨d, hd, hothers h⟩
          · next heq => exact nomatch heq
        · exact nomatch h
      next hescape =>
      rw [if_neg hescape]
      split at h
      · exact nomatch h
      next hcontrol =>
      rw [if_neg hcontrol]
      exact hothers h

theorem readQuoted?_append {cs rest : List Char} {s : String}
    (h : readQuoted? cs = some (s, rest)) (tail : List Char) :
    readQuoted? (cs ++ tail) = some (s, rest ++ tail) := by
  unfold readQuoted? at h
  split at h
  · next contents =>
    obtain ⟨⟨characters, after⟩, hread, heq⟩ := Option.map_eq_some_iff.mp h
    obtain ⟨rfl, rfl⟩ := Prod.mk.inj heq
    have hle : contents.length + 1 ≤ (contents ++ tail).length + 1 := by simp
    exact Option.map_eq_some_iff.mpr ⟨_, readString?_append hread hle tail, rfl⟩
  · exact nomatch h

/-! ### Values -/

theorem skipSpaces_append {c : Char} {cs rest : List Char} (h : skipSpaces cs = c :: rest)
    (tail : List Char) : skipSpaces (cs ++ tail) = c :: (rest ++ tail) := by
  have hne : (cs.dropWhile isSpace).isEmpty ≠ true := by rw [← skipSpaces, h]; simp
  rw [skipSpaces, List.dropWhile_append, if_neg hne, ← skipSpaces, h, List.cons_append]

theorem skipSpaces_skipSpaces (cs : List Char) : skipSpaces (skipSpaces cs) = skipSpaces cs :=
  List.dropWhile_idempotent isSpace cs

theorem readValue?_skipSpaces (fuel depth : Nat) (cs : List Char) :
    readValue? fuel depth (skipSpaces cs) = readValue? fuel depth cs := by
  cases fuel with
  | zero => rw [readValue?, readValue?]
  | succ fuel => rw [readValue?, readValue?, skipSpaces_skipSpaces]

theorem readItems?_skipSpaces (fuel depth : Nat) (cs : List Char) :
    readItems? fuel depth (skipSpaces cs) = readItems? fuel depth cs := by
  cases fuel with
  | zero => rw [readItems?, readItems?]
  | succ fuel => rw [readItems?, readItems?, readValue?_skipSpaces]

theorem readMembers?_skipSpaces (fuel depth : Nat) (cs : List Char) :
    readMembers? fuel depth (skipSpaces cs) = readMembers? fuel depth cs := by
  cases fuel with
  | zero => rw [readMembers?, readMembers?]
  | succ fuel => rw [readMembers?, readMembers?, skipSpaces_skipSpaces]

theorem readNumber?_isDigit {negative : Bool} {cs rest : List Char} {n : Number}
    (h : readNumber? negative cs = some (n, rest)) :
    ∃ c after, cs = c :: after ∧ c.isDigit = true := by
  unfold readNumber? at h
  cases cs with
  | nil => exact nomatch h
  | cons c after =>
    refine ⟨c, after, rfl, ?_⟩
    cases hc : c.isDigit with
    | true => rfl
    | false =>
      rw [List.span_eq_takeWhile_dropWhile, List.takeWhile_cons_of_neg (by simp [hc])] at h
      exact nomatch h

section Kinds

variable {fuel depth : Nat} {cs contents rest : List Char}

theorem readValue?_of_isDigit {c : Char} (hc : c.isDigit = true) (hcs : skipSpaces cs = c :: rest) :
    readValue? (fuel + 1) depth cs
      = (readNumber? false (c :: rest)).map fun (n, rest) => (.number n, rest) := by
  rw [readValue?, hcs]
  split
  case h_8 => rfl
  all_goals
    rename_i heq
    rw [(List.cons.inj heq).1] at hc
    exact absurd hc (by decide)

theorem readValue?_array_nil (hcs : skipSpaces cs = '[' :: contents)
    (hclose : skipSpaces contents = ']' :: rest) :
    readValue? (fuel + 1) (depth + 1) cs = some (.array [], rest) := by
  simp [readValue?, hcs, hclose]

/-- Where items can be read, the array is not closed at once. -/
theorem readValue?_array {vs : List Json} (hcs : skipSpaces cs = '[' :: contents)
    (hvs : readItems? fuel depth contents = some (vs, rest)) :
    readValue? (fuel + 1) (depth + 1) cs = some (.array vs, rest) := by
  have hopen : ∀ after, skipSpaces contents ≠ ']' :: after := by
    intro after hclose
    cases fuel with
    | zero => exact nomatch hvs
    | succ fuel =>
      obtain ⟨⟨item, after⟩, hitem, -⟩ := Option.bind_eq_some_iff.mp hvs
      cases fuel with
      | zero => exact nomatch hitem
      | succ fuel =>
        rw [readValue?, hclose] at hitem
        exact nomatch hitem
  simp only [readValue?, hcs]
  rw [readItems?_skipSpaces, hvs, Option.map_some]

theorem readValue?_object_nil (hcs : skipSpaces cs = '\x7b' :: contents)
    (hclose : skipSpaces contents = '\x7d' :: rest) :
    readValue? (fuel + 1) (depth + 1) cs = some (.object [], rest) := by
  simp [readValue?, hcs, hclose]

theorem readValue?_object {ms : List (String × Json)} (hcs : skipSpaces cs = '\x7b' :: contents)
    (hms : readMembers? fuel depth contents = some (ms, rest)) :
    readValue? (fuel + 1) (depth + 1) cs = some (.ofMembers ms, rest) := by
  have hopen : ∀ after, skipSpaces contents ≠ '\x7d' :: after := by
    intro after hclose
    cases fuel with
    | zero => exact nomatch hms
    | succ fuel =>
      obtain ⟨⟨name, after⟩, hname, -⟩ := Option.bind_eq_some_iff.mp hms
      rw [hclose] at hname
      exact nomatch hname
  simp only [readValue?, hcs]
  rw [readMembers?_skipSpaces, hms, Option.map_some]

end Kinds

/-- What is read with so much fuel is read with more, and in front of other text.  The three readers
call each other with one unit of fuel less, so that they go through one induction together. -/
structure ReadsOn (fuel : Nat) : Prop where
  value : ∀ {depth : Nat} {cs rest : List Char} {v : Json},
    readValue? fuel depth cs = some (v, rest) → ∀ {more : Nat} {tail : List Char}, fuel ≤ more →
      Apart tail → readValue? more depth (cs ++ tail) = some (v, rest ++ tail)
  items : ∀ {depth : Nat} {cs rest : List Char} {vs : List Json},
    readItems? fuel depth cs = some (vs, rest) → ∀ {more : Nat} {tail : List Char}, fuel ≤ more →
      Apart tail → readItems? more depth (cs ++ tail) = some (vs, rest ++ tail)
  members : ∀ {depth : Nat} {cs rest : List Char} {ms : List (String × Json)},
    readMembers? fuel depth cs = some (ms, rest) → ∀ {more : Nat} {tail : List Char}, fuel ≤ more →
      Apart tail → readMembers? more depth (cs ++ tail) = some (ms, rest ++ tail)

namespace ReadsOn

variable {fuel : Nat} (ih : ReadsOn fuel) {depth more : Nat} {cs rest tail : List Char}
  (hle : fuel ≤ more) (ht : Apart tail)
include ih hle ht

theorem items_succ {vs : List Json} (h : readItems? (fuel + 1) depth cs = some (vs, rest)) :
    readItems? (more + 1) depth (cs ++ tail) = some (vs, rest ++ tail) := by
  rw [readItems?] at h ⊢
  obtain ⟨⟨item, after⟩, hitem, h⟩ := Option.bind_eq_some_iff.mp h
  refine Option.bind_eq_some_iff.mpr ⟨_, ih.value hitem hle ht, ?_⟩
  dsimp only at h ⊢
  split at h
  · next next heq =>
    obtain ⟨⟨items, last⟩, hitems, h⟩ := Option.bind_eq_some_iff.mp h
    obtain ⟨rfl, rfl⟩ := Prod.mk.inj (Option.some.inj h)
    rw [skipSpaces_append heq]
    exact Option.bind_eq_some_iff.mpr ⟨_, ih.items hitems hle ht, rfl⟩
  · next next heq =>
    obtain ⟨rfl, rfl⟩ := Prod.mk.inj (Option.some.inj h)
    rw [skipSpaces_append heq]
    rfl
  · exact nomatch h

theorem members_succ {ms : List (String × Json)}
    (h : readMembers? (fuel + 1) depth cs = some (ms, rest)) :
    readMembers? (more + 1) depth (cs ++ tail) = some (ms, rest ++ tail) := by
  rw [readMembers?] at h ⊢
  obtain ⟨⟨name, after⟩, hname, h⟩ := Option.bind_eq_some_iff.mp h
  have hquoted : readQuoted? (skipSpaces (cs ++ tail)) = some (name, after ++ tail) := by
    cases hcs : skipSpaces cs with
    | nil => rw [hcs] at hname; exact nomatch hname
    | cons c quoted =>
      rw [skipSpaces_append hcs, ← List.cons_append, ← hcs]
      exact readQuoted?_append hname tail
  refine Option.bind_eq_some_iff.mpr ⟨_, hquoted, ?_⟩
  dsimp only at h ⊢
  split at h
  · next next heq =>
    obtain ⟨⟨v, after⟩, hv, h⟩ := Option.bind_eq_some_iff.mp h
    rw [skipSpaces_append heq]
    refine Option.bind_eq_some_iff.mpr ⟨_, ih.value hv hle ht, ?_⟩
    dsimp only at h ⊢
    split at h
    · next next heq =>
      obtain ⟨⟨members, last⟩, hmembers, h⟩ := Option.bind_eq_some_iff.mp h
      obtain ⟨rfl, rfl⟩ := Prod.mk.inj (Option.some.inj h)
      rw [skipSpaces_append heq]
      exact Option.bind_eq_some_iff.mpr ⟨_, ih.members hmembers hle ht, rfl⟩
    · next next heq =>
      obtain ⟨rfl, rfl⟩ := Prod.mk.inj (Option.some.inj h)
      rw [skipSpaces_append heq]
      rfl
    · exact nomatch h
  · exact nomatch h

theorem value_succ {v : Json} (h : readValue? (fuel + 1) depth cs = some (v, rest)) :
    readValue? (more + 1) depth (cs ++ tail) = some (v, rest ++ tail) := by
  rw [readValue?] at h
  split at h
  case h_1 heq | h_2 heq | h_3 heq =>
    -- A word.
    obtain ⟨rfl, rfl⟩ := Prod.mk.inj (Option.some.inj h)
    rw [readValue?, skipSpaces_append heq]
    rfl
  case h_4 heq =>
    -- A string.
    obtain ⟨⟨s, after⟩, hs, h⟩ := Option.map_eq_some_iff.mp h
    obtain ⟨rfl, rfl⟩ := Prod.mk.inj h
    rw [readValue?, skipSpaces_append heq]
    exact Option.map_eq_some_iff.mpr ⟨_, readQuoted?_append hs tail, rfl⟩
  case h_5 contents heq =>
    -- An array, closed at once or with items.
    have hopen := skipSpaces_append heq tail
    cases depth with
    | zero => exact nomatch h
    | succ depth =>
      dsimp only at h
      split at h
      · next hclose =>
        obtain ⟨rfl, rfl⟩ := Prod.mk.inj (Option.some.inj h)
        exact readValue?_array_nil hopen (skipSpaces_append hclose tail)
      · obtain ⟨⟨vs, after⟩, hvs, h⟩ := Option.map_eq_some_iff.mp h
        obtain ⟨rfl, rfl⟩ := Prod.mk.inj h
        rw [readItems?_skipSpaces] at hvs
        exact readValue?_array hopen (ih.items hvs hle ht)
  case h_6 contents heq =>
    -- An object, in the same way.
    have hopen := skipSpaces_append heq tail
    cases depth with
    | zero => exact nomatch h
    | succ depth =>
      dsimp only at h
      split at h
      · next hclose =>
        obtain ⟨rfl, rfl⟩ := Prod.mk.inj (Option.some.inj h)
        exact readValue?_object_nil hopen (skipSpaces_append hclose tail)
      · obtain ⟨⟨ms, after⟩, hms, h⟩ := Option.map_eq_some_iff.mp h
        obtain ⟨rfl, rfl⟩ := Prod.mk.inj h
        rw [readMembers?_skipSpaces] at hms
        exact readValue?_object hopen (ih.members hms hle ht)
  case h_7 heq =>
    -- A number with a sign.
    obtain ⟨⟨n, after⟩, hn, h⟩ := Option.map_eq_some_iff.mp h
    obtain ⟨rfl, rfl⟩ := Prod.mk.inj h
    rw [readValue?, skipSpaces_append heq]
    exact Option.map_eq_some_iff.mpr ⟨_, readNumber?_append ht hn, rfl⟩
  case h_8 =>
    -- A number without one.  The tail cannot turn it into anything else, as it begins with a digit.
    obtain ⟨⟨n, after⟩, hn, h⟩ := Option.map_eq_some_iff.mp h
    obtain ⟨rfl, rfl⟩ := Prod.mk.inj h
    obtain ⟨c, digits, hcs, hc⟩ := readNumber?_isDigit hn
    rw [hcs] at hn
    rw [readValue?_of_isDigit hc (skipSpaces_append hcs tail)]
    exact Option.map_eq_some_iff.mpr ⟨_, readNumber?_append ht hn, rfl⟩

end ReadsOn

/-- **What is read does not depend on what follows**, nor on how much fuel is left. -/
theorem readsOn (fuel : Nat) : ReadsOn fuel := by
  induction fuel with
  | zero =>
    constructor
    · intro depth cs rest v h
      exact nomatch h
    · intro depth cs rest vs h
      exact nomatch h
    · intro depth cs rest ms h
      exact nomatch h
  | succ fuel ih =>
    have hpred : ∀ {more}, fuel + 1 ≤ more → fuel ≤ more - 1 ∧ more = more - 1 + 1 := by omega
    constructor
    · intro depth cs rest v h more tail hle ht
      rw [(hpred hle).2]
      exact ih.value_succ (hpred hle).1 ht h
    · intro depth cs rest vs h more tail hle ht
      rw [(hpred hle).2]
      exact ih.items_succ (hpred hle).1 ht h
    · intro depth cs rest ms h more tail hle ht
      rw [(hpred hle).2]
      exact ih.members_succ (hpred hle).1 ht h

/-- What is read as a whole text is read where other text follows, up to blanks. -/
theorem readValue?_of_read? {depth fuel : Nat} {cs tail : List Char} {v : Json}
    (h : read? depth cs = some v) (hfuel : 2 * cs.length + 2 ≤ fuel) (ht : Apart tail) :
    ∃ rest, readValue? fuel depth (cs ++ tail) = some (v, rest)
      ∧ skipSpaces rest = skipSpaces tail := by
  obtain ⟨⟨value, rest⟩, hvalue, h⟩ := Option.bind_eq_some_iff.mp h
  dsimp only at h
  split at h
  · next hrest =>
    obtain rfl := Option.some.inj h
    refine ⟨rest ++ tail, (readsOn _).value hvalue hfuel ht, ?_⟩
    rw [skipSpaces] at hrest
    rw [skipSpaces, List.dropWhile_append, if_pos hrest, skipSpaces]
  · exact nomatch h

end SearchQuery.Json

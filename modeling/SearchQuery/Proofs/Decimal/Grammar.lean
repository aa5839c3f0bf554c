import SearchQuery.Proofs.Decimal.Numeral

/-!
# The grammar of numerals

Which texts are numerals, said by rules instead of by a reader:

    [+-]? (digits [. digits*] | . digits) ([eE] [+-]? digits)?

* `NumeralForm`: the rules.
* `isNumeral_iff_form`: the reader takes exactly the texts of this form.
* `isNumeral_iff_readFloat?`: they are also the texts with a digit in them, of no characters but
  those of numerals, that are read as a number at all.  The names of infinities and of what is no
  number are read too, but hold a letter that numerals do not have.
-/

namespace SearchQuery.Decimal

/-! ### The rules -/

structure IsDigits (cs : List Char) : Prop where
  ne_nil : cs ≠ []
  isDigit : ∀ c ∈ cs, c.isDigit = true

theorem IsDigits.exists_cons {ds : List Char} (h : IsDigits ds) :
    ∃ d rest, ds = d :: rest ∧ d.isDigit = true := by
  obtain ⟨d, rest, rfl⟩ := List.exists_cons_of_ne_nil h.ne_nil
  exact ⟨d, rest, rfl, h.isDigit d List.mem_cons_self⟩

/-- Digits with perhaps a point in front, among or behind them. -/
inductive IsMantissa : List Char → Prop
  | whole {ds : List Char} (digits : IsDigits ds) : IsMantissa ds
  | pointed {ds fraction : List Char} (digits : IsDigits ds)
    (isDigit : ∀ c ∈ fraction, c.isDigit = true) : IsMantissa (ds ++ '.' :: fraction)
  | fraction {ds : List Char} (digits : IsDigits ds) : IsMantissa ('.' :: ds)

inductive IsExponent : List Char → Prop
  | absent : IsExponent []
  | present {mark : Char} {sign ds : List Char} (mark_eq : mark = 'e' ∨ mark = 'E')
    (signed : IsSign sign) (digits : IsDigits ds) : IsExponent (mark :: (sign ++ ds))

/-- A sign, digits with a point, and a power of ten. -/
inductive NumeralForm : List Char → Prop
  | intro {sign mantissa exponent : List Char} (signed : IsSign sign)
    (digits : IsMantissa mantissa) (power : IsExponent exponent) :
    NumeralForm (sign ++ (mantissa ++ exponent))

/-! ### What is read has the form -/

theorem exists_sign (cs : List Char) : ∃ sign, IsSign sign ∧ cs = sign ++ (takeSign cs).2 := by
  unfold takeSign
  split
  · exact ⟨['+'], .inr (.inl rfl), rfl⟩
  · exact ⟨['-'], .inr (.inr rfl), rfl⟩
  · exact ⟨[], .inl rfl, rfl⟩

/-- A text is a numeral if a digit stands before or behind its point, and an exponent can be read
behind both. -/
theorem isNumeral_iff_read {text : String} :
    isNumeral text = true ↔
      let whole := (takeSign text.toList).2.takeWhile Char.isDigit
      let tail := takeFraction ((takeSign text.toList).2.dropWhile Char.isDigit)
      (whole ≠ [] ∨ tail.1 ≠ []) ∧ (readExponent? tail.2).isSome = true := by
  rw [isNumeral, readNumeral?]
  simp only [List.span_eq_takeWhile_dropWhile]
  split
  · next h =>
    simp only [Bool.and_eq_true, List.isEmpty_iff] at h
    simp [h.1, h.2]
  · next h =>
    simp only [Bool.and_eq_true, List.isEmpty_iff, not_and_or] at h
    rw [Option.isSome_map]
    exact (and_iff_right h).symm

theorem exists_mantissa {cs : List Char}
    (h : cs.takeWhile Char.isDigit ≠ [] ∨ (takeFraction (cs.dropWhile Char.isDigit)).1 ≠ []) :
    ∃ mantissa, IsMantissa mantissa
      ∧ cs = mantissa ++ (takeFraction (cs.dropWhile Char.isDigit)).2 := by
  have hsplit := List.takeWhile_append_dropWhile (p := Char.isDigit) (l := cs)
  have hwhole : ∀ c ∈ cs.takeWhile Char.isDigit, c.isDigit = true := fun _ =>
    List.mem_takeWhile_imp
  generalize cs.takeWhile Char.isDigit = whole at h hsplit hwhole
  generalize cs.dropWhile Char.isDigit = after at h hsplit
  subst hsplit
  unfold takeFraction at h ⊢
  split at h
  · next rest =>
    rw [List.span_eq_takeWhile_dropWhile] at h ⊢
    have hfraction : ∀ c ∈ rest.takeWhile Char.isDigit, c.isDigit = true := fun _ =>
      List.mem_takeWhile_imp
    have hrest := List.takeWhile_append_dropWhile (p := Char.isDigit) (l := rest)
    by_cases hnil : whole = []
    · subst hnil
      have hdigits : IsDigits (rest.takeWhile Char.isDigit) := ⟨h.resolve_left (· rfl), hfraction⟩
      exact ⟨_, .fraction hdigits, by rw [List.cons_append, hrest, List.nil_append]⟩
    · refine ⟨_, .pointed ⟨hnil, hwhole⟩ hfraction, ?_⟩
      rw [List.append_assoc, List.cons_append, hrest]
  · exact ⟨whole, .whole ⟨h.resolve_right (· rfl), hwhole⟩, rfl⟩

theorem isExponent_of_readExponent? {cs : List Char} (h : (readExponent? cs).isSome = true) :
    IsExponent cs := by
  cases cs with
  | nil => exact .absent
  | cons mark rest =>
    rw [readExponent?] at h
    split at h
    · next hmark =>
      obtain ⟨sign, hsign, hrest⟩ := exists_sign rest
      simp only [Option.isSome_ite, Bool.and_eq_true, Bool.not_eq_true', List.isEmpty_eq_false_iff,
        List.all_eq_true] at h
      rw [hrest]
      refine .present ?_ hsign ⟨h.1, h.2⟩
      simpa using hmark
    · exact absurd h (by simp)

theorem form_of_isNumeral {text : String} (h : isNumeral text = true) :
    NumeralForm text.toList := by
  obtain ⟨hdigits, hexponent⟩ := isNumeral_iff_read.mp h
  obtain ⟨sign, hsign, htext⟩ := exists_sign text.toList
  obtain ⟨mantissa, hmantissa, hunsigned⟩ := exists_mantissa hdigits
  rw [htext, hunsigned]
  exact .intro hsign hmantissa (isExponent_of_readExponent? hexponent)

/-! ### What has the form is read -/

theorem IsExponent.head {cs : List Char} (h : IsExponent cs) :
    ∀ c ∈ cs.head?, c.isDigit = false ∧ c ≠ '.' := by
  intro c hc
  cases h with
  | absent => exact nomatch hc
  | present mark_eq =>
    obtain rfl := Option.some.inj hc
    rcases mark_eq with rfl | rfl <;> decide

theorem IsExponent.isSome_readExponent? {cs : List Char} (h : IsExponent cs) :
    (readExponent? cs).isSome = true := by
  cases h with
  | absent => rfl
  | @present mark sign ds mark_eq signed digits =>
    have htake : takeSign (sign ++ ds) = (decide (sign = ['-']), ds) := by
      refine takeSign_append signed fun c hc => ne_sign_of_isDigit (digits.isDigit c ?_)
      exact List.mem_of_mem_head? hc
    have hmark : (mark == 'e' || mark == 'E') = true := by simpa using mark_eq
    have hdigits : (!ds.isEmpty && ds.all Char.isDigit) = true := by
      simpa using ⟨digits.ne_nil, digits.isDigit⟩
    rw [readExponent?, if_pos hmark, htake]
    dsimp only
    rw [if_pos hdigits, Option.isSome_some]

theorem IsDigits.span {ds rest : List Char} (h : ∀ c ∈ ds, c.isDigit = true)
    (hrest : ∀ c ∈ rest.head?, c.isDigit = false) :
    (ds ++ rest).takeWhile Char.isDigit = ds ∧ (ds ++ rest).dropWhile Char.isDigit = rest := by
  have hspan := span_isDigit_append h hrest
  rw [List.span_eq_takeWhile_dropWhile] at hspan
  exact Prod.mk.inj hspan

theorem IsMantissa.read {mantissa exponent : List Char} (h : IsMantissa mantissa)
    (hexponent : IsExponent exponent) :
    let cs := mantissa ++ exponent
    (cs.takeWhile Char.isDigit ≠ [] ∨ (takeFraction (cs.dropWhile Char.isDigit)).1 ≠ [])
      ∧ (takeFraction (cs.dropWhile Char.isDigit)).2 = exponent := by
  have hstop : ∀ c ∈ exponent.head?, c.isDigit = false := fun c hc => (hexponent.head c hc).1
  have hpoint : ∀ rest : List Char, ∀ c ∈ ('.' :: rest).head?, c.isDigit = false := by
    intro rest c hc
    obtain rfl := Option.some.inj hc
    decide
  cases h with
  | whole digits =>
    obtain ⟨hwhole, hafter⟩ := IsDigits.span digits.isDigit hstop
    have htail : takeFraction exponent = ([], exponent) := by
      unfold takeFraction
      split
      · next rest => exact absurd rfl (hexponent.head '.' rfl).2
      · rfl
    dsimp only
    rw [hwhole, hafter, htail]
    exact ⟨.inl digits.ne_nil, rfl⟩
  | @pointed ds fraction digits isDigit =>
    obtain ⟨hwhole, hafter⟩ := IsDigits.span digits.isDigit (hpoint (fraction ++ exponent))
    dsimp only
    rw [List.append_assoc, List.cons_append, hwhole, hafter, takeFraction,
      span_isDigit_append isDigit hstop]
    exact ⟨.inl digits.ne_nil, rfl⟩
  | @fraction ds digits =>
    obtain ⟨-, hafter⟩ := IsDigits.span (List.forall_mem_nil _) (hpoint (ds ++ exponent))
    rw [List.nil_append] at hafter
    dsimp only
    rw [List.cons_append, hafter, takeFraction, span_isDigit_append digits.isDigit hstop]
    exact ⟨.inr digits.ne_nil, rfl⟩

theorem IsMantissa.head {mantissa rest : List Char} (h : IsMantissa mantissa) :
    ∀ c ∈ (mantissa ++ rest).head?, c ≠ '+' ∧ c ≠ '-' := by
  intro c hc
  have hdigit : ∀ {ds tail : List Char}, IsDigits ds → c ∈ (ds ++ tail).head? →
      c ≠ '+' ∧ c ≠ '-' := by
    intro ds tail digits hc
    obtain ⟨d, rest, rfl, hd⟩ := digits.exists_cons
    obtain rfl : d = c := Option.some.inj hc
    exact ne_sign_of_isDigit hd
  cases h with
  | whole digits => exact hdigit digits hc
  | pointed digits =>
    rw [List.append_assoc] at hc
    exact hdigit digits hc
  | fraction digits =>
    obtain rfl := Option.some.inj hc
    decide

theorem isNumeral_of_form {text : String} (h : NumeralForm text.toList) :
    isNumeral text = true := by
  rw [isNumeral_iff_read]
  generalize text.toList = cs at h
  cases h with
  | @intro sign mantissa exponent signed digits power =>
    obtain ⟨hread, htail⟩ := digits.read power
    rw [takeSign_append signed digits.head]
    dsimp only at hread htail ⊢
    rw [htail]
    exact ⟨hread, power.isSome_readExponent?⟩

/-- **The numerals are the texts of the grammar.** -/
theorem isNumeral_iff_form {text : String} :
    isNumeral text = true ↔ NumeralForm text.toList :=
  ⟨form_of_isNumeral, isNumeral_of_form⟩

/-! ### Numerals among the texts that are read as numbers -/

theorem IsMantissa.exists_digit {mantissa : List Char} (h : IsMantissa mantissa) :
    ∃ c ∈ mantissa, c.isDigit = true := by
  have hdigit : ∀ {ds : List Char}, IsDigits ds → ∃ c ∈ ds, c.isDigit = true := by
    intro ds digits
    obtain ⟨d, rest, rfl, hd⟩ := digits.exists_cons
    exact ⟨d, List.mem_cons_self, hd⟩
  cases h with
  | whole digits => exact hdigit digits
  | pointed digits =>
    obtain ⟨c, hc, hisDigit⟩ := hdigit digits
    exact ⟨c, List.mem_append_left _ hc, hisDigit⟩
  | fraction digits =>
    obtain ⟨c, hc, hisDigit⟩ := hdigit digits
    exact ⟨c, List.mem_cons_of_mem _ hc, hisDigit⟩

theorem toLower_of_isDigit {c : Char} (h : c.isDigit = true) : c.toLower = c := by
  have hle : c.val ≤ 57 := by
    simp only [Char.isDigit, ge_iff_le, Bool.and_eq_true, decide_eq_true_eq] at h
    exact h.2
  refine dif_neg fun hupper => ?_
  exact absurd (UInt32.le_trans hupper.1 hle) (by decide)

theorem toLower_ne_of_isNumeralChar {c : Char} (h : isNumeralChar c = true) : c.toLower ≠ 'n' := by
  simp only [isNumeralChar, Bool.or_eq_true, beq_iff_eq] at h
  rcases h with ((((h | rfl) | rfl) | rfl) | rfl) | rfl
  · rw [toLower_of_isDigit h]
    rintro rfl
    exact absurd h (by decide)
  all_goals decide

/-- The names that are read as numbers hold a letter that numerals do not have. -/
theorem exists_letter_of_readFloat? {text : String} (hnone : isNumeral text = false)
    (h : (readFloat? text).isSome = true) : ∃ c ∈ text.toList, isNumeralChar c = false := by
  obtain ⟨sign, -, htext⟩ := exists_sign text.toList
  rw [isNumeral, Option.isSome_eq_false_iff, Option.isNone_iff_eq_none] at hnone
  rw [readFloat?, hnone] at h
  have hletter : 'n' ∈ (takeSign text.toList).2.map Char.toLower := by
    simp only [Option.isSome_map] at h
    split at h
    case h_4 => exact absurd h (by decide)
    all_goals
      next hname =>
      have hchars := congrArg String.toList hname
      rw [String.toList_ofList] at hchars
      rw [hchars]
      decide
  obtain ⟨c, hc, hlower⟩ := List.mem_map.mp hletter
  refine ⟨c, ?_, ?_⟩
  · rw [htext]
    exact List.mem_append_right sign hc
  · cases hchar : isNumeralChar c with
    | false => rfl
    | true => exact absurd hlower (toLower_ne_of_isNumeralChar hchar)

/-- **A numeral is a text with a digit, of the characters of numerals alone, that is read as a
number.** -/
theorem isNumeral_iff_readFloat? {text : String} :
    isNumeral text = true ↔ (∃ c ∈ text.toList, c.isDigit = true)
      ∧ (∀ c ∈ text.toList, isNumeralChar c = true) ∧ (readFloat? text).isSome = true := by
  constructor
  · intro h
    refine ⟨?_, fun c hc => isNumeralChar_of_mem h hc, ?_⟩
    · have hform := form_of_isNumeral h
      generalize text.toList = cs at hform
      cases hform with
      | intro signed digits power =>
        obtain ⟨c, hc, hdigit⟩ := digits.exists_digit
        exact ⟨c, by simp [hc], hdigit⟩
    · obtain ⟨n, hn⟩ := Option.isSome_iff_exists.mp h
      rw [readFloat?, hn, Option.isSome_some]
  · rintro ⟨-, hchars, hread⟩
    cases hnumeral : isNumeral text with
    | true => rfl
    | false =>
      obtain ⟨c, hc, hletter⟩ := exists_letter_of_readFloat? hnumeral hread
      rw [hchars c hc] at hletter
      exact absurd hletter (by decide)

end SearchQuery.Decimal

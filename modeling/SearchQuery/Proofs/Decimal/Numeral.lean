import Mathlib.Data.List.TakeDrop
import Mathlib.Data.List.TakeWhile
import SearchQuery.Decimal.Notation
import SearchQuery.Decimal.Reading

/-!
# Numbers are written as numerals

`Reading.lean` says which texts are numerals, and `Notation.lean` how a number is written.  This
file joins them.

* `isNumeralChar_of_mem`: a numeral is made of digits, signs, points and exponent marks only.
* `readNumeral?_parts`, `isNumeral_parts`: a sign, digits, and perhaps a point with more digits make
  a numeral.
* `isNumeral_toString`: whole numbers are written as numerals.
* `isNumeral_plain`: so are finite numbers in statements.  Whether a number is finite is read off
  its exponent field (`isFinite_iff_exponent`), which is also where `Binary64.ofFloat` looks.
* `isFinite_of_le_of_le`: a number between two finite ones is finite.
-/

namespace SearchQuery.Decimal

/-! ### The characters of a numeral -/

def isNumeralChar (c : Char) : Bool :=
  c.isDigit || c == '+' || c == '-' || c == '.' || c == 'e' || c == 'E'

theorem isNumeralChar_of_isDigit {c : Char} (h : c.isDigit = true) : isNumeralChar c = true := by
  simp [isNumeralChar, h]

theorem mem_takeSign {c : Char} {cs : List Char} (h : c ∈ cs) :
    isNumeralChar c = true ∨ c ∈ (takeSign cs).2 := by
  unfold takeSign
  split
  · rcases List.mem_cons.mp h with rfl | h
    · exact .inl (by decide)
    · exact .inr h
  · rcases List.mem_cons.mp h with rfl | h
    · exact .inl (by decide)
    · exact .inr h
  · exact .inr h

theorem mem_span_isDigit {c : Char} {cs : List Char} (h : c ∈ cs) :
    isNumeralChar c = true ∨ c ∈ (cs.span Char.isDigit).2 := by
  rw [List.span_eq_takeWhile_dropWhile]
  rw [← List.takeWhile_append_dropWhile (p := Char.isDigit) (l := cs)] at h
  rcases List.mem_append.mp h with h | h
  · exact .inl (isNumeralChar_of_isDigit (List.mem_takeWhile_imp h))
  · exact .inr h

theorem mem_takeFraction {c : Char} {cs : List Char} (h : c ∈ cs) :
    isNumeralChar c = true ∨ c ∈ (takeFraction cs).2 := by
  unfold takeFraction
  split
  · rcases List.mem_cons.mp h with rfl | h
    · exact .inl (by decide)
    · exact mem_span_isDigit h
  · exact .inr h

theorem isNumeralChar_of_readExponent? {c : Char} {cs : List Char}
    (hs : (readExponent? cs).isSome = true) (h : c ∈ cs) : isNumeralChar c = true := by
  cases cs with
  | nil => exact absurd h List.not_mem_nil
  | cons d rest =>
    rw [readExponent?] at hs
    split at hs
    · next hd =>
      rcases List.mem_cons.mp h with rfl | h
      · simp only [Bool.or_eq_true] at hd
        rcases hd with hd | hd <;> simp [isNumeralChar, hd]
      · rcases mem_takeSign h with h | h
        · exact h
        cases htake : takeSign rest with
        | mk negative digits =>
          simp only [htake, Option.isSome_ite, Bool.and_eq_true, List.all_eq_true] at hs h
          exact isNumeralChar_of_isDigit (hs.2 c h)
    · exact absurd hs (by simp)

theorem isNumeralChar_of_mem {c : Char} {text : String} (hs : isNumeral text = true)
    (h : c ∈ text.toList) : isNumeralChar c = true := by
  rw [isNumeral, readNumeral?] at hs
  simp only at hs
  split at hs
  · exact absurd hs (by simp)
  · rw [Option.isSome_map] at hs
    rcases mem_takeSign h with h | h
    · exact h
    rcases mem_span_isDigit h with h | h
    · exact h
    rcases mem_takeFraction h with h | h
    · exact h
    exact isNumeralChar_of_readExponent? hs h

theorem toList_ne_nil_of_isNumeral {text : String} (hs : isNumeral text = true) :
    text.toList ≠ [] := by
  intro h
  rw [isNumeral, h] at hs
  exact absurd hs (by decide)

/-! ### Texts that are numerals -/

theorem span_isDigit_append {ds rest : List Char} (hds : ∀ c ∈ ds, c.isDigit = true)
    (hrest : ∀ c ∈ rest.head?, c.isDigit = false) :
    (ds ++ rest).span Char.isDigit = (ds, rest) := by
  have hstop : rest.takeWhile Char.isDigit = [] ∧ rest.dropWhile Char.isDigit = rest := by
    cases rest with
    | nil => exact ⟨rfl, rfl⟩
    | cons c r =>
      have hc := hrest c rfl
      exact ⟨List.takeWhile_cons_of_neg (by simp [hc]), List.dropWhile_cons_of_neg (by simp [hc])⟩
  rw [List.span_eq_takeWhile_dropWhile, List.takeWhile_append_of_pos hds,
    List.dropWhile_append_of_pos hds, hstop.1, hstop.2, List.append_nil]

def IsSign (sign : List Char) : Prop := sign = [] ∨ sign = ['+'] ∨ sign = ['-']

theorem takeSign_append {sign cs : List Char} (hsign : IsSign sign)
    (hcs : ∀ c ∈ cs.head?, c ≠ '+' ∧ c ≠ '-') :
    takeSign (sign ++ cs) = (decide (sign = ['-']), cs) := by
  rcases hsign with rfl | rfl | rfl
  · cases cs with
    | nil => rfl
    | cons c rest =>
      obtain ⟨hplus, hminus⟩ := hcs c rfl
      simp [takeSign, hplus, hminus]
  · rfl
  · rfl

theorem ne_sign_of_isDigit {c : Char} (h : c.isDigit = true) : c ≠ '+' ∧ c ≠ '-' := by
  constructor <;> rintro rfl <;> exact absurd h (by decide)

/-- A point with digits behind it, or nothing. -/
def IsFraction (cs : List Char) : Prop :=
  cs = [] ∨ ∃ ds, cs = '.' :: ds ∧ ∀ c ∈ ds, c.isDigit = true

theorem IsFraction.takeFraction {cs : List Char} (h : IsFraction cs) :
    Decimal.takeFraction cs = (cs.drop 1, []) := by
  rcases h with rfl | ⟨ds, rfl, hds⟩
  · rfl
  · have hspan : (ds ++ []).span Char.isDigit = (ds, []) := span_isDigit_append hds (by simp)
    rw [List.append_nil] at hspan
    rw [Decimal.takeFraction, hspan]
    rfl

/-- **A sign, digits and a fraction are read** as the numeral with these parts. -/
theorem readNumeral?_parts {sign whole fraction : List Char} (hsign : IsSign sign)
    (hwhole : ∀ c ∈ whole, c.isDigit = true) (hne : whole ≠ []) (hfraction : IsFraction fraction) :
    readNumeral? (sign ++ (whole ++ fraction))
      = some ⟨decide (sign = ['-']), whole, fraction.drop 1, 0⟩ := by
  have hunsigned : takeSign (sign ++ (whole ++ fraction))
      = (decide (sign = ['-']), whole ++ fraction) := by
    refine takeSign_append hsign fun c hc => ?_
    cases whole with
    | nil => exact absurd rfl hne
    | cons d ds =>
      obtain rfl : d = c := by simpa using hc
      exact ne_sign_of_isDigit (hwhole d List.mem_cons_self)
  have hspan : (whole ++ fraction).span Char.isDigit = (whole, fraction) := by
    refine span_isDigit_append hwhole fun c hc => ?_
    rcases hfraction with rfl | ⟨ds, rfl, -⟩
    · exact absurd hc (by simp)
    · obtain rfl : '.' = c := by simpa using hc
      decide
  have hempty : whole.isEmpty = false := by simpa using hne
  simp only [readNumeral?, hunsigned, hspan, hempty, hfraction.takeFraction, Bool.false_and,
    Bool.false_eq_true, if_false, readExponent?, Option.map_some]

/-- **A sign, digits and a fraction make a numeral.** -/
theorem isNumeral_parts {sign whole fraction : List Char} (hsign : IsSign sign)
    (hwhole : ∀ c ∈ whole, c.isDigit = true) (hne : whole ≠ []) (hfraction : IsFraction fraction) :
    isNumeral (String.ofList (sign ++ (whole ++ fraction))) = true := by
  rw [isNumeral, String.toList_ofList, readNumeral?_parts hsign hwhole hne hfraction,
    Option.isSome_some]

theorem isNumeral_digits {ds : List Char} (hds : ∀ c ∈ ds, c.isDigit = true) (hne : ds ≠ []) :
    isNumeral (String.ofList ds) = true := by
  simpa using isNumeral_parts (.inl rfl) hds hne (.inl rfl)

theorem isDigit_of_mem_toDigits {n : Nat} {c : Char} (h : c ∈ Nat.toDigits 10 n) :
    c.isDigit = true :=
  Nat.isDigit_of_mem_toDigits (by decide) (by decide) h

theorem digitsValue_toDigits (n : Nat) : digitsValue (Nat.toDigits 10 n) = n :=
  Nat.ofDigitChars_toDigits (by decide) (by decide)

theorem isNumeral_toString (n : Int) : isNumeral (toString n) = true := by
  cases n with
  | ofNat m =>
    rw [show toString (Int.ofNat m) = String.ofList (Nat.toDigits 10 m) from
      Nat.repr_eq_ofList_toDigits]
    exact isNumeral_digits (fun _ => isDigit_of_mem_toDigits) Nat.toDigits_ne_nil
  | negSucc m =>
    rw [show toString (Int.negSucc m) = "-" ++ (m + 1).repr from rfl, Nat.repr_eq_ofList_toDigits]
    have h := isNumeral_parts (.inr (.inr rfl))
      (fun _ => isDigit_of_mem_toDigits (n := m + 1)) Nat.toDigits_ne_nil (.inl rfl)
    rwa [List.append_nil, String.ofList_append] at h

/-! ### Finite numbers -/

section Bits

open Float.Model Float.Model.UnpackedFloat

theorem isFinite_ite {c : Prop} [Decidable c] {a b : UnpackedFloat} {value : Bool}
    (ha : a.isFinite = value) (hb : b.isFinite = value) :
    (if c then a else b).isFinite = value := by
  by_cases h : c
  · rw [if_pos h, ha]
  · rw [if_neg h, hb]

theorem isFinite_dite {c : Prop} [Decidable c] {a : UnpackedFloat} {b : ¬c → UnpackedFloat}
    {value : Bool} (ha : a.isFinite = value) (hb : ∀ h, (b h).isFinite = value) :
    (if h : c then a else b h).isFinite = value := by
  by_cases h : c
  · rw [dif_pos h, ha]
  · rw [dif_neg h, hb]

theorem isFinite_iff_exponent (x : Float) :
    x.isFinite = true ↔ x.toBits.toNat / Binary64.fractions % 2048 ≠ 2047 := by
  let exponent : BitVec 11 := @unpackExponent Format.binary64 x.toBits.toBitVec
  have hexponent : exponent.toNat = x.toBits.toNat / Binary64.fractions % 2048 := by
    simp [exponent, unpackExponent, BitVec.extractLsb_toNat, Nat.shiftRight_eq_div_pow,
      Binary64.fractions]
  have hones : exponent = -1#_ ↔ x.toBits.toNat / Binary64.fractions % 2048 = 2047 := by
    rw [← hexponent, ← BitVec.toNat_inj]
    rfl
  rw [Ne, ← hones]
  change (UnpackedFloat.unpack Format.binary64 x.toBits.toBitVec).isFinite = true ↔ _
  -- `unpack` looks at the exponent first, and only then at the mantissa.
  by_cases h : exponent = -1#_
  · have hfinite : (UnpackedFloat.unpack Format.binary64 x.toBits.toBitVec).isFinite = false :=
      (congrArg UnpackedFloat.isFinite (if_pos h)).trans (isFinite_ite rfl rfl)
    rw [hfinite]
    exact iff_of_false Bool.false_ne_true (not_not_intro h)
  · have hfinite : (UnpackedFloat.unpack Format.binary64 x.toBits.toBitVec).isFinite = true :=
      (congrArg UnpackedFloat.isFinite (if_neg h)).trans
        (isFinite_ite (isFinite_dite rfl fun _ => rfl) rfl)
    exact iff_of_true hfinite h

theorem isFinite_iff_ofFloat (x : Float) :
    x.isFinite = true ↔ ∃ n m e, Binary64.ofFloat x = .finite n m e := by
  rw [isFinite_iff_exponent, Binary64.ofFloat]
  simp only [beq_iff_eq]
  split
  · next h =>
    simp only [h, ne_eq, not_true_eq_false, false_iff]
    split <;> simp
  · next h =>
    simp only [ne_eq, h, not_false_eq_true, true_iff]
    split
    · exact ⟨_, _, _, rfl⟩
    · exact ⟨_, _, _, rfl⟩

/-- **Between finite numbers there are only finite ones.** -/
theorem isFinite_of_le_of_le {a b x : Float} (ha : a.isFinite = true) (hb : b.isFinite = true)
    (hax : a ≤ x) (hxb : x ≤ b) : x.isFinite = true := by
  replace hax : a.toModel.unpack.le x.toModel.unpack = true := of_decide_eq_true hax
  replace hxb : x.toModel.unpack.le b.toModel.unpack = true := of_decide_eq_true hxb
  change a.toModel.unpack.isFinite = true at ha
  change b.toModel.unpack.isFinite = true at hb
  change x.toModel.unpack.isFinite = true
  generalize a.toModel.unpack = a at ha hax
  generalize b.toModel.unpack = b at hb hxb
  cases hx : x.toModel.unpack with
  | notANumber =>
    rw [hx] at hxb
    exact absurd (show false = true from hxb) Bool.false_ne_true
  | infinity sign =>
    rw [hx] at hax hxb
    cases sign with
    | negative =>
      cases a with
      | notANumber => exact absurd (show false = true from ha) Bool.false_ne_true
      | infinity s => exact absurd (show false = true from ha) Bool.false_ne_true
      | zero s => exact absurd (show false = true from hax) Bool.false_ne_true
      | finite s m e hm => exact absurd (show false = true from hax) Bool.false_ne_true
    | positive =>
      cases b with
      | notANumber => exact absurd (show false = true from hb) Bool.false_ne_true
      | infinity s => exact absurd (show false = true from hb) Bool.false_ne_true
      | zero s => exact absurd (show false = true from hxb) Bool.false_ne_true
      | finite s m e hm => exact absurd (show false = true from hxb) Bool.false_ne_true
  | zero sign => rfl
  | finite sign mantissa exponent hpos => rfl

end Bits

theorem isDigit_of_mem_ofGrid {n size : Nat} {point : Int} {c : Char}
    (h : c ∈ (Digits.ofGrid n size point).digits) : c.isDigit = true := by
  have hmem : c ∈ (Nat.toDigits 10 n).reverse.dropWhile (· == '0') := List.mem_reverse.mp h
  exact isDigit_of_mem_toDigits (List.mem_reverse.mp ((List.dropWhile_sublist _).subset hmem))

/-- The shortest digits are those of a number found on one of the grids, if there is one. -/
theorem shortest_cases (tie : Tie) (mantissa : Nat) (exponent : Int) :
    let r := Rounding.of mantissa exponent
    (∃ size n, r.onGrid tie size = some n
        ∧ shortest tie mantissa exponent = Digits.ofGrid n size r.point)
      ∨ (shortest tie mantissa exponent = { digits := ['0'], point := 1 }
        ∧ ∀ i < 17, r.onGrid tie (i + 1) = none) := by
  intro r
  unfold shortest
  simp only
  cases hfound : (List.range 17).findSome? fun i =>
      ((Rounding.of mantissa exponent).onGrid tie (i + 1)).map fun n =>
        Digits.ofGrid n (i + 1) (Rounding.of mantissa exponent).point with
  | none =>
    refine .inr ⟨rfl, fun i hi => ?_⟩
    exact Option.map_eq_none_iff.mp (List.findSome?_eq_none_iff.mp hfound i (List.mem_range.mpr hi))
  | some d =>
    obtain ⟨i, -, hi⟩ := List.exists_of_findSome?_eq_some hfound
    obtain ⟨n, hn, rfl⟩ := Option.map_eq_some_iff.mp hi
    exact .inl ⟨i + 1, n, hn, rfl⟩

theorem isDigit_of_mem_shortest {tie : Tie} {mantissa : Nat} {exponent : Int} {c : Char}
    (h : c ∈ (shortest tie mantissa exponent).digits) : c.isDigit = true := by
  rcases shortest_cases tie mantissa exponent with ⟨size, n, -, hfound⟩ | ⟨hnone, -⟩
  · rw [hfound] at h
    exact isDigit_of_mem_ofGrid h
  · rw [hnone] at h
    obtain rfl : c = '0' := by simpa using h
    decide

/-- In statements, digits are laid out as digits with perhaps a fraction behind them: with zeros
in front up to the point, or with zeros behind up to it. -/
theorem positionalText_parts (d : Digits) (hd : ∀ c ∈ d.digits, c.isDigit = true) :
    ∃ whole fraction, plain.positionalText d = whole ++ fraction ∧
      (∀ c ∈ whole, c.isDigit = true) ∧ whole ≠ [] ∧ IsFraction fraction ∧
      ∃ zeros, (whole ++ fraction.drop 1 = List.replicate zeros '0' ++ d.digits
          ∧ d.point + (fraction.drop 1).length = d.digits.length)
        ∨ (fraction = [] ∧ whole = d.digits ++ List.replicate zeros '0'
          ∧ d.point = d.digits.length + zeros) := by
  have hzeros : ∀ n, ∀ c ∈ List.replicate n '0', c.isDigit = true := by
    intro n c hc
    rw [List.eq_of_mem_replicate hc]
    decide
  unfold Layout.positionalText
  split
  · next hpoint =>
    refine ⟨['0'], '.' :: (List.replicate (-d.point).toNat '0' ++ d.digits), by simp, ?_, by simp,
      .inr ⟨_, rfl, fun c hc => ?_⟩, (-d.point).toNat + 1, .inl ⟨rfl, ?_⟩⟩
    · intro c hc
      rw [List.mem_singleton.mp hc]
      decide
    · rcases List.mem_append.mp hc with hc | hc
      · exact hzeros _ c hc
      · exact hd c hc
    · rw [List.drop_succ_cons, List.drop_zero, List.length_append, List.length_replicate]
      omega
  · next hpoint =>
    simp only
    split
    · next hlength =>
      refine ⟨d.digits ++ List.replicate (d.point.toNat - d.digits.length) '0', [], by simp [plain],
        fun c hc => ?_, fun hnil => ?_, .inl rfl, d.point.toNat - d.digits.length,
        .inr ⟨rfl, rfl, by omega⟩⟩
      · rcases List.mem_append.mp hc with hc | hc
        · exact hd c hc
        · exact hzeros _ c hc
      · have hlen := congrArg List.length hnil
        simp only [List.length_append, List.length_replicate, List.length_nil] at hlen
        omega
    · next hlength =>
      refine ⟨d.digits.take d.point.toNat, '.' :: d.digits.drop d.point.toNat, rfl,
        fun c hc => hd c (List.mem_of_mem_take hc), fun hnil => ?_,
        .inr ⟨_, rfl, fun c hc => hd c (List.mem_of_mem_drop hc)⟩, 0, .inl ⟨?_, ?_⟩⟩
      · have hlen := congrArg List.length hnil
        simp only [List.length_take, List.length_nil] at hlen
        omega
      · exact List.take_append_drop d.point.toNat d.digits
      · rw [List.drop_succ_cons, List.drop_zero, List.length_drop]
        omega

def plainDigits (mantissa : Nat) (exponent : Int) : Digits :=
  if mantissa == 0 then { digits := ['0'], point := 1 } else shortest plain.tie mantissa exponent

theorem isDigit_of_mem_plainDigits {mantissa : Nat} {exponent : Int} {c : Char}
    (h : c ∈ (plainDigits mantissa exponent).digits) : c.isDigit = true := by
  rw [plainDigits] at h
  split at h
  · rw [List.mem_singleton.mp h]
    decide
  · exact isDigit_of_mem_shortest h

def signText (negative : Bool) : List Char :=
  if negative then ['-'] else []

theorem isSign_signText (negative : Bool) : IsSign (signText negative) := by
  cases negative
  · exact .inl rfl
  · exact .inr (.inr rfl)

theorem text_plain {x : Float} {negative : Bool} {mantissa : Nat} {exponent : Int}
    (h : Binary64.ofFloat x = .finite negative mantissa exponent) :
    plain.text x
      = String.ofList
          (signText negative ++ plain.positionalText (plainDigits mantissa exponent)) := by
  rw [Layout.text, h]
  cases negative <;> rfl

/-- **Finite numbers are written in statements as numerals.** -/
theorem isNumeral_plain {x : Float} (h : x.isFinite = true) :
    isNumeral (plain.text x) = true := by
  obtain ⟨negative, mantissa, exponent, hx⟩ := (isFinite_iff_ofFloat x).mp h
  obtain ⟨whole, fraction, hparts, hwhole, hne, hfraction, -⟩ :=
    positionalText_parts (plainDigits mantissa exponent) fun _ => isDigit_of_mem_plainDigits
  rw [text_plain hx, hparts]
  exact isNumeral_parts (isSign_signText negative) hwhole hne hfraction

theorem text_of_not_finite {x : Float} (h : x.isFinite = false) (layout : Layout) :
    layout.text x = "NaN" ∨ layout.text x = "inf" ∨ layout.text x = "-inf" := by
  rw [Layout.text]
  cases hx : Binary64.ofFloat x with
  | notANumber => exact .inl rfl
  | infinite negative => cases negative <;> simp
  | finite negative mantissa exponent =>
    have hfinite := (isFinite_iff_ofFloat x).mpr ⟨_, _, _, hx⟩
    exact absurd hfinite (by simp [h])

end SearchQuery.Decimal

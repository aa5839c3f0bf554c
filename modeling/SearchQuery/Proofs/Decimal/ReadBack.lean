import SearchQuery.Proofs.Decimal.Shortest

/-!
# Finite numbers are known from their texts

The text of a finite number in a statement is read as a numeral with the sign of the number, whose
digits stand for a number that rounds to it.  No other finite number has such a text.

* `Numeral.magnitude`: the number that a numeral stands for, without its sign.
* `readNumeral?_plain`: what the text of a number is read as.
* `text_plain_injective`: two numbers with one text are one number.
-/

namespace SearchQuery.Decimal

def Numeral.magnitude (n : Numeral) : ℚ :=
  digitsValue (n.whole ++ n.fraction) * 10 ^ (n.exponent - n.fraction.length)

theorem readNumeral?_positionalText (negative : Bool) {d : Digits}
    (hd : ∀ c ∈ d.digits, c.isDigit = true) :
    ∃ n, readNumeral? (signText negative ++ plain.positionalText d) = some n
      ∧ n.negative = negative ∧ n.magnitude = d.value := by
  obtain ⟨whole, fraction, hparts, hwhole, hne, hfraction, zeros, hlayout⟩ :=
    positionalText_parts d hd
  rw [hparts]
  refine ⟨_, readNumeral?_parts (isSign_signText negative) hwhole hne hfraction, ?_, ?_⟩
  · cases negative <;> rfl
  · rw [Numeral.magnitude, Digits.value]
    rcases hlayout with ⟨hdigits, hpoint⟩ | ⟨rfl, rfl, hpoint⟩
    · rw [hdigits, digitsValue_zeros_append]
      congr 2
      simp only
      omega
    · rw [List.drop_nil, List.append_nil, digitsValue_append_zeros, hpoint]
      simp

/-- **The text of a finite number** is a numeral with the sign of the number and its digits. -/
theorem readNumeral?_plain {x : Float} {negative : Bool} {mantissa : Nat} {exponent : Int}
    (h : Binary64.ofFloat x = .finite negative mantissa exponent) :
    ∃ n, readNumeral? (plain.text x).toList = some n
      ∧ n.negative = negative ∧ n.magnitude = (plainDigits mantissa exponent).value := by
  rw [text_plain h, String.toList_ofList]
  exact readNumeral?_positionalText negative fun _ => isDigit_of_mem_plainDigits

theorem value_plainDigits_zero (exponent : Int) : (plainDigits 0 exponent).value = 0 := by
  have hdigits : plainDigits 0 exponent = { digits := ['0'], point := 1 } := rfl
  have hvalue : digitsValue ['0'] = 0 := by decide
  rw [hdigits, Digits.value, hvalue, Nat.cast_zero, zero_mul]

variable {mantissa mantissa' : Nat} {exponent exponent' : Int}

theorem Canonical.contains_plainDigits (h : Canonical mantissa exponent) (hpos : 0 < mantissa) :
    (Rounding.of mantissa exponent).Contains (plainDigits mantissa exponent).value := by
  have hlt : mantissa < 10 ^ 16 := h.mantissa_lt.trans (by decide)
  rw [plainDigits, if_neg (by simpa using Nat.ne_of_gt hpos)]
  exact contains_shortest plain.tie hpos hlt exponent

theorem Canonical.plainDigits_pos (h : Canonical mantissa exponent) (hpos : 0 < mantissa) :
    0 < (plainDigits mantissa exponent).value := by
  obtain ⟨hlow, -, -⟩ := (h.contains_plainDigits hpos).quarters
  have hbelow := below_le mantissa exponent
  have hone : 0 < 4 * mantissa - below mantissa exponent := by omega
  have hquotient : (0 : ℚ) < (plainDigits mantissa exponent).value / quarter exponent :=
    lt_of_lt_of_le (by exact_mod_cast hone) hlow
  exact (div_pos_iff_of_pos_right (quarter_pos exponent)).mp hquotient

/-- Mantissas and exponents whose digits stand for one number are the same. -/
theorem Canonical.eq_of_plainDigits (h : Canonical mantissa exponent)
    (h' : Canonical mantissa' exponent')
    (heq : (plainDigits mantissa exponent).value = (plainDigits mantissa' exponent').value) :
    mantissa = mantissa' ∧ exponent = exponent' := by
  have hzero : ∀ {e : Int}, Canonical 0 e → e = -1074 := fun hc =>
    hc.normal.resolve_left (by decide)
  rcases Nat.eq_zero_or_pos mantissa with rfl | hpos
  · rcases Nat.eq_zero_or_pos mantissa' with rfl | hpos'
    · exact ⟨rfl, (hzero h).trans (hzero h').symm⟩
    · have hne := h'.plainDigits_pos hpos'
      rw [← heq, value_plainDigits_zero] at hne
      exact absurd hne (lt_irrefl 0)
  · rcases Nat.eq_zero_or_pos mantissa' with rfl | hpos'
    · have hne := h.plainDigits_pos hpos
      rw [heq, value_plainDigits_zero] at hne
      exact absurd hne (lt_irrefl 0)
    · exact h.eq_of_contains h' (h.contains_plainDigits hpos) (heq ▸ h'.contains_plainDigits hpos')

/-- **Two finite numbers with one text are one number.** -/
theorem text_plain_injective {x y : Float} (hx : x.isFinite = true) (hy : y.isFinite = true)
    (h : plain.text x = plain.text y) : x = y := by
  obtain ⟨negative, mantissa, exponent, hx⟩ := (isFinite_iff_ofFloat x).mp hx
  obtain ⟨negative', mantissa', exponent', hy⟩ := (isFinite_iff_ofFloat y).mp hy
  obtain ⟨n, hn, hsign, hvalue⟩ := readNumeral?_plain hx
  obtain ⟨n', hn', hsign', hvalue'⟩ := readNumeral?_plain hy
  obtain rfl : n = n' := by
    rw [h, hn'] at hn
    exact (Option.some.inj hn).symm
  obtain ⟨rfl, rfl⟩ := (Binary64.canonical_ofFloat hx).eq_of_plainDigits
    (Binary64.canonical_ofFloat hy) (hvalue.symm.trans hvalue')
  obtain rfl : negative = negative' := hsign.symm.trans hsign'
  exact Binary64.ofFloat_injective hx hy

end SearchQuery.Decimal

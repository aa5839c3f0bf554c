import Mathlib.Data.List.DropRight
import SearchQuery.Proofs.Decimal.Interval
import SearchQuery.Proofs.Decimal.Numeral

/-!
# The shortest digits lie in the interval

The search for the digits of a number looks at the grids of 1, 2, … 17 digits.  What it finds on a
grid has been tested (`Rounding.contains_of_onGrid`), and on the last grid there is always something
to find: its steps are smaller than an interval (`Rounding.isSome_onGrid`, `step_lt`).

* `Digits.value`: the number that digits stand for.
* `Rounding.le_value`: the first digit of a value is not zero.
* `contains_shortest`: the shortest digits stand for a number that rounds to the value.
-/

namespace SearchQuery.Decimal

/-! ### Rows of digits -/

theorem digitsValue_append (cs ds : List Char) :
    digitsValue (cs ++ ds) = digitsValue cs * 10 ^ ds.length + digitsValue ds := by
  rw [show digitsValue (cs ++ ds) = Nat.ofDigitChars 10 ds (digitsValue cs) from
    Nat.ofDigitChars_append 0, Nat.ofDigitChars_eq_ofDigitChars_zero, Nat.mul_comm]
  rfl

theorem digitsValue_zeros (n : Nat) : digitsValue (List.replicate n '0') = 0 :=
  (Nat.ofDigitChars_replicate_zero (b := 10) (n := n)).trans (Nat.mul_zero _)

theorem digitsValue_zeros_append (n : Nat) (ds : List Char) :
    digitsValue (List.replicate n '0' ++ ds) = digitsValue ds := by
  rw [digitsValue_append, digitsValue_zeros, Nat.zero_mul, Nat.zero_add]

theorem digitsValue_append_zeros (ds : List Char) (n : Nat) :
    digitsValue (ds ++ List.replicate n '0') = digitsValue ds * 10 ^ n := by
  rw [digitsValue_append, digitsValue_zeros, List.length_replicate, Nat.add_zero]

/-- The number that digits with a point stand for. -/
def Digits.value (d : Digits) : ℚ :=
  digitsValue d.digits * 10 ^ (d.point - d.digits.length)

/-- The digits on a grid are all digits of the number but zeros at their end. -/
theorem Digits.exists_zeros (n size : Nat) (point : Int) :
    ∃ zeros, Nat.toDigits 10 n = (ofGrid n size point).digits ++ List.replicate zeros '0' := by
  refine ⟨((Nat.toDigits 10 n).rtakeWhile (· == '0')).length, ?_⟩
  have hzeros : (Nat.toDigits 10 n).rtakeWhile (· == '0')
      = List.replicate ((Nat.toDigits 10 n).rtakeWhile (· == '0')).length '0' := by
    refine List.eq_replicate_iff.mpr ⟨rfl, fun c hc => ?_⟩
    simpa using List.mem_rtakeWhile_imp hc
  rw [← hzeros]
  exact List.rdropWhile_append_rtakeWhile.symm

theorem Digits.value_ofGrid (n size : Nat) (point : Int) :
    (ofGrid n size point).value = n * 10 ^ (point - size) := by
  obtain ⟨zeros, hall⟩ := exists_zeros n size point
  have hvalue : n = digitsValue (ofGrid n size point).digits * 10 ^ zeros := by
    rw [← digitsValue_append_zeros, ← hall, digitsValue_toDigits]
  have hpoint : (ofGrid n size point).point - (ofGrid n size point).digits.length
      = zeros + (point - size) := by
    have hlength := congrArg List.length hall
    rw [List.length_append, List.length_replicate] at hlength
    have hmoved : (ofGrid n size point).point = point + ((Nat.toDigits 10 n).length - size : Int) :=
      rfl
    omega
  rw [value, hpoint, zpow_add₀ (by norm_num), zpow_natCast, ← mul_assoc]
  congr 1
  exact_mod_cast hvalue.symm

/-! ### What is found on a grid -/

namespace Rounding

/-- What a grid of so many digits multiplies the interval by. -/
def up (r : Rounding) (size : Nat) : Nat :=
  10 ^ (size - r.point : Int).toNat

/-- What it multiplies the numbers on the grid by. -/
def down (r : Rounding) (size : Nat) : Nat :=
  r.denominator * 10 ^ (-(size - r.point : Int)).toNat

theorem up_pos (r : Rounding) (size : Nat) : 0 < r.up size :=
  Nat.pow_pos (by decide)

theorem down_eq (r : Rounding) (size : Nat) :
    (r.down size : ℚ) = 10 ^ (r.point - size) * r.denominator * r.up size := by
  have hshift := pow_toNat (b := (10 : ℚ)) (by norm_num) (r.point - size)
  rw [show -(r.point - size : Int) = size - r.point by ring] at hshift
  rw [down, up, show -(size - r.point : Int) = r.point - size by ring]
  push_cast
  rw [hshift]
  ring

theorem contains_of_holds {r : Rounding} {n size : Nat}
    (h : r.holds n (r.up size) (r.down size) = true) :
    r.Contains (n * 10 ^ (r.point - size)) := by
  have hup : (0 : ℚ) < r.up size := by exact_mod_cast r.up_pos size
  have hstep : (n : ℚ) * 10 ^ (r.point - size) * r.denominator * r.up size
      = (n * r.down size : Nat) := by
    push_cast
    rw [r.down_eq size]
    ring
  have hle : ∀ k : Nat, k * r.up size ≤ n * r.down size ↔
      (k : ℚ) ≤ n * 10 ^ (r.point - size) * r.denominator := by
    intro k
    rw [← mul_le_mul_iff_left₀ hup, hstep]
    exact_mod_cast Iff.rfl
  have hge : ∀ k : Nat, n * r.down size ≤ k * r.up size ↔
      n * 10 ^ (r.point - size) * r.denominator ≤ (k : ℚ) := by
    intro k
    rw [← mul_le_mul_iff_left₀ hup, hstep]
    exact_mod_cast Iff.rfl
  rw [holds] at h
  split at h
  · next hclosed =>
    rw [Bool.and_eq_true, decide_eq_true_eq, decide_eq_true_eq, hle, hge] at h
    exact ⟨h.1, h.2, fun hopen => absurd hclosed (by simp [hopen])⟩
  · rw [Bool.and_eq_true, decide_eq_true_eq, decide_eq_true_eq, ← Nat.not_le, hge,
      ← Nat.not_le, hle, not_le, not_le] at h
    exact ⟨h.1.le, h.2.le, fun _ => h⟩

theorem holds_of_onGrid {r : Rounding} {tie : Tie} {size n : Nat}
    (h : r.onGrid tie size = some n) : r.holds n (r.up size) (r.down size) = true := by
  unfold onGrid at h
  simp only at h
  split at h
  · exact nomatch h
  · next hlower _ =>
    obtain rfl := Option.some.inj h
    exact hlower
  · next _ hupper =>
    obtain rfl := Option.some.inj h
    exact hupper
  · next hlower hupper =>
    split at h
    · obtain rfl := Option.some.inj h
      exact hlower
    · split at h
      · obtain rfl := Option.some.inj h
        exact hupper
      · cases tie with
        | up =>
          obtain rfl := Option.some.inj h
          exact hupper
        | toEven =>
          obtain rfl := Option.some.inj h
          split <;> assumption

/-- **What is found on a grid lies in the interval.** -/
theorem contains_of_onGrid {r : Rounding} {tie : Tie} {size n : Nat}
    (h : r.onGrid tie size = some n) : r.Contains (Digits.ofGrid n size r.point).value := by
  rw [Digits.value_ofGrid]
  exact contains_of_holds (holds_of_onGrid h)

/-! ### The last grid -/

theorem lt_pow_digitCount (n : Nat) : n < 10 ^ digitCount n :=
  (Nat.length_toDigits_le_iff (by decide) Nat.length_toDigits_pos).mp le_rfl

theorem pow_digitCount_le {n : Nat} (h : 0 < n) : 10 ^ (digitCount n - 1) ≤ n := by
  by_cases hone : digitCount n = 1
  · rw [hone]
    exact h
  · have hpos : 0 < digitCount n := Nat.length_toDigits_pos
    by_contra hlt
    have hle := (Nat.length_toDigits_le_iff (b := 10) (by decide) (by omega)).mpr (not_le.mp hlt)
    have hcount : digitCount n ≤ digitCount n - 1 := hle
    omega

theorem le_value {r : Rounding} (hvalue : 0 < r.value) :
    (10 : ℚ) ^ (r.point - 1) * r.denominator ≤ r.value := by
  have hten : (10 : ℚ) ≠ 0 := by norm_num
  obtain ⟨guess, hguess, hpoint⟩ : ∃ guess : Int,
      guess = digitCount r.value - digitCount r.denominator
        ∧ r.point = if r.value * Nat.pow 10 (-guess).toNat < r.denominator * Nat.pow 10 guess.toNat
            then guess else guess + 1 := ⟨_, rfl, rfl⟩
  rw [hpoint]
  by_cases hlt : r.value * Nat.pow 10 (-guess).toNat < r.denominator * Nat.pow 10 guess.toNat
  · -- The guess is the number of digits of a quotient, or one more.
    have hdenominator : (r.denominator : ℚ) ≤ 10 ^ (digitCount r.denominator : Int) := by
      rw [zpow_natCast]
      exact_mod_cast (lt_pow_digitCount r.denominator).le
    have hfirst : (10 : ℚ) ^ (digitCount r.value - 1 : Int) ≤ r.value := by
      have hpos : 0 < digitCount r.value := Nat.length_toDigits_pos
      rw [show (digitCount r.value - 1 : Int) = (digitCount r.value - 1 : Nat) by omega,
        zpow_natCast]
      exact_mod_cast pow_digitCount_le hvalue
    rw [if_pos hlt]
    calc (10 : ℚ) ^ (guess - 1) * r.denominator
        ≤ 10 ^ (guess - 1) * 10 ^ (digitCount r.denominator : Int) := by gcongr
      _ = 10 ^ (digitCount r.value - 1 : Int) := by
          rw [← zpow_add₀ hten]
          congr 1
          omega
      _ ≤ r.value := hfirst
  · have hpow : (0 : ℚ) < 10 ^ (-guess).toNat := by positivity
    have hle : (r.denominator * 10 ^ guess.toNat : ℚ) ≤ r.value * 10 ^ (-guess).toNat := by
      exact_mod_cast not_lt.mp hlt
    rw [pow_toNat hten, ← mul_assoc] at hle
    have hquotient : (r.denominator * 10 ^ guess : ℚ) ≤ r.value := le_of_mul_le_mul_right hle hpow
    rw [if_neg hlt, add_sub_cancel_right, mul_comm]
    exact hquotient

theorem holds_of_lt {r : Rounding} {n up down : Nat} (hlow : r.low * up < n * down)
    (hhigh : n * down < r.high * up) : r.holds n up down = true := by
  rw [holds]
  split
  · simp [hlow.le, hhigh.le]
  · simp [hlow, hhigh]

theorem isSome_onGrid {r : Rounding} (tie : Tie) {size : Nat} (hdenominator : 0 < r.denominator)
    (hlow : r.low ≤ r.value) (hhigh : r.value < r.high)
    (hstep : r.low * r.up size + r.down size < r.high * r.up size) :
    (r.onGrid tie size).isSome = true := by
  have hdown : 0 < r.down size := Nat.mul_pos hdenominator (Nat.pow_pos (by decide))
  generalize hlower : r.value * r.up size / r.down size = lower
  have hfloor : lower * r.down size ≤ r.value * r.up size := by
    rw [← hlower]
    exact Nat.div_mul_le_self _ _
  have hceil : r.value * r.up size < (lower + 1) * r.down size := by
    rw [← hlower, Nat.add_mul, Nat.one_mul]
    exact Nat.lt_div_mul_add hdown
  have htop : r.value * r.up size < r.high * r.up size :=
    Nat.mul_lt_mul_of_pos_right hhigh (r.up_pos size)
  have hbottom : r.low * r.up size ≤ r.value * r.up size := Nat.mul_le_mul_right _ hlow
  -- The neighbour below the value is inside, or else a step further is.
  have hone : r.holds lower (r.up size) (r.down size) = true
      ∨ r.holds (lower + 1) (r.up size) (r.down size) = true := by
    by_cases hinside : r.low * r.up size < lower * r.down size
    · exact .inl (holds_of_lt hinside (by omega))
    · refine .inr (holds_of_lt (by omega) ?_)
      rw [Nat.add_mul, Nat.one_mul]
      omega
  rw [← hlower] at hone
  unfold onGrid
  simp only
  split
  · next hfalse hfalse' =>
    rcases hone with hone | hone
    · exact absurd (hone.symm.trans hfalse) (by decide)
    · exact absurd (hone.symm.trans hfalse') (by decide)
  · rfl
  · rfl
  · split
    · rfl
    · split
      · rfl
      · cases tie <;> rfl

/-- Sixteen digits behind the first, a step of the grid is that much smaller than the value. -/
theorem down_le {r : Rounding} (hvalue : 0 < r.value) :
    10 ^ 16 * r.down 17 ≤ r.value * r.up 17 := by
  have hpoint : (10 : ℚ) ^ (r.point - 1) = 10 ^ 16 * 10 ^ (r.point - (17 : Nat)) := by
    rw [← zpow_natCast, ← zpow_add₀ (by norm_num)]
    congr 1
    push_cast
    ring
  have hle := mul_le_mul_of_nonneg_right (le_value hvalue) (Nat.cast_nonneg (r.up 17))
  rw [hpoint, mul_assoc, mul_assoc, ← mul_assoc _ (r.denominator : ℚ), ← r.down_eq 17] at hle
  exact_mod_cast hle

end Rounding

variable {mantissa : Nat}

/-- An interval has three or four quarters, and the value is less than so many times `10 ^ 16`. -/
theorem lt_width (hlt : mantissa < 10 ^ 16) (exponent : Int) :
    4 * mantissa < 10 ^ 16 * (2 + below mantissa exponent) := by
  rw [below]
  split
  · next hpower =>
    rw [Bool.and_eq_true, beq_iff_eq, Binary64.fractions] at hpower
    omega
  · omega

/-- Seventeen digits are enough: their grid has steps smaller than an interval. -/
theorem step_lt (hpos : 0 < mantissa) (hlt : mantissa < 10 ^ 16) (exponent : Int) :
    let r := Rounding.of mantissa exponent
    r.low * r.up 17 + r.down 17 < r.high * r.up 17 := by
  intro r
  have hscale := scale_pos exponent
  have hdown : 10 ^ 16 * r.down 17 ≤ 4 * mantissa * (scale exponent * r.up 17) := by
    rw [← mul_assoc, ← value_of]
    refine Rounding.down_le ?_
    rw [value_of]
    positivity
  have hunit : 0 < scale exponent * r.up 17 := Nat.mul_pos hscale (r.up_pos 17)
  have hwidth : r.down 17 < (2 + below mantissa exponent) * (scale exponent * r.up 17) := by
    have hlt' := Nat.mul_lt_mul_of_pos_right (lt_width hlt exponent) hunit
    rw [mul_assoc (10 ^ 16)] at hlt'
    exact Nat.lt_of_mul_lt_mul_left (hdown.trans_lt hlt')
  have hsum : 4 * mantissa - below mantissa exponent + (2 + below mantissa exponent)
      = 4 * mantissa + 2 := by
    have hle := below_le mantissa exponent
    omega
  calc r.low * r.up 17 + r.down 17
      = (4 * mantissa - below mantissa exponent) * (scale exponent * r.up 17) + r.down 17 := by
        rw [low_of, mul_assoc]
    _ < (4 * mantissa - below mantissa exponent) * (scale exponent * r.up 17)
        + (2 + below mantissa exponent) * (scale exponent * r.up 17) :=
        Nat.add_lt_add_left hwidth _
    _ = r.high * r.up 17 := by rw [← Nat.add_mul, hsum, high_of, mul_assoc]

/-- **The shortest digits stand for a number that rounds to the value.** -/
theorem contains_shortest (tie : Tie) (hpos : 0 < mantissa) (hlt : mantissa < 10 ^ 16)
    (exponent : Int) :
    (Rounding.of mantissa exponent).Contains (shortest tie mantissa exponent).value := by
  generalize hr : Rounding.of mantissa exponent = r
  have hlow : r.low ≤ r.value := by
    rw [← hr, low_of, value_of]
    exact Nat.mul_le_mul_right _ (Nat.sub_le _ _)
  have hhigh : r.value < r.high := by
    rw [← hr, high_of, value_of]
    exact Nat.mul_lt_mul_of_pos_right (by omega) (scale_pos exponent)
  have hlast : (r.onGrid tie 17).isSome = true := by
    refine Rounding.isSome_onGrid tie ?_ hlow hhigh ?_
    · exact hr ▸ denominator_pos mantissa exponent
    · exact hr ▸ step_lt hpos hlt exponent
  rcases shortest_cases tie mantissa exponent with ⟨size, n, hn, hfound⟩ | ⟨-, hnone⟩
  · rw [hr] at hn hfound
    rw [hfound]
    exact Rounding.contains_of_onGrid hn
  · rw [hr] at hnone
    rw [hnone 16 (by decide)] at hlast
    exact absurd hlast (by decide)

end SearchQuery.Decimal

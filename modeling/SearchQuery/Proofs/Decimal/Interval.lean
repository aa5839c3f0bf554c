import Mathlib.Algebra.Order.Field.Power
import Mathlib.Algebra.Order.Field.Rat
import Mathlib.Tactic.FieldSimp
import Mathlib.Tactic.Linarith
import Mathlib.Tactic.NormNum
import Mathlib.Tactic.Positivity
import Mathlib.Tactic.Ring
import SearchQuery.Decimal.Shortest

/-!
# Rounding intervals

The numbers that round to a binary floating-point number lie between the half way marks to its two
neighbours (`Rounding.Contains`).  Intervals of different numbers do not meet: where two of them
have an end in common, one of the two mantissas is odd, and its interval is open.

* `Canonical`: mantissas and exponents as the bits of a number give them.
* `Canonical.eq_of_contains`: a number rounds to one floating-point number only.
* `Binary64.ofFloat_injective`: a finite number is known from its sign, mantissa and exponent.
-/

namespace SearchQuery.Decimal

theorem pow_toNat {b : ℚ} (hb : b ≠ 0) (k : Int) : b ^ k.toNat = b ^ k * b ^ (-k).toNat := by
  rw [← zpow_natCast, ← zpow_natCast, ← zpow_add₀ hb]
  congr 1
  omega

/-! ### What an interval contains -/

/-- A number rounds to the value: it lies between the half way marks, or on one of them if they
belong to the interval. -/
structure Rounding.Contains (r : Rounding) (q : ℚ) : Prop where
  low : (r.low : ℚ) ≤ q * r.denominator
  high : q * r.denominator ≤ r.high
  inside : r.closed = false → (r.low : ℚ) < q * r.denominator ∧ q * r.denominator < r.high

/-- A quarter of what the last place of a mantissa counts. -/
def quarter (exponent : Int) : ℚ :=
  2 ^ (exponent - 2)

theorem quarter_pos (exponent : Int) : 0 < quarter exponent :=
  zpow_pos (by norm_num) _

/-- How many quarters lie between the value and the lower half way mark. -/
def below (mantissa : Nat) (exponent : Int) : Nat :=
  if mantissa == Binary64.fractions && exponent > -1074 then 1 else 2

theorem below_le (mantissa : Nat) (exponent : Int) : below mantissa exponent ≤ 2 := by
  rw [below]
  split <;> omega

theorem le_sub_below {mantissa : Nat} {exponent : Int} (hmantissa : Binary64.fractions ≤ mantissa)
    (hexponent : -1074 < exponent) :
    4 * Binary64.fractions ≤ 4 * mantissa - below mantissa exponent + 1 := by
  by_cases hpower : mantissa = Binary64.fractions
  · rw [below, if_pos (by simp [hpower, hexponent])]
    omega
  · have hle := below_le mantissa exponent
    omega

variable {mantissa mantissa' : Nat} {exponent exponent' : Int} {q : ℚ}

theorem denominator_pos (mantissa : Nat) (exponent : Int) :
    0 < (Rounding.of mantissa exponent).denominator := by
  change 0 < 1 <<< (2 - exponent).toNat
  rw [Nat.shiftLeft_eq]
  positivity

/-- A quarter over the denominator of the interval. -/
def scale (exponent : Int) : Nat :=
  1 <<< (exponent - 2).toNat

theorem scale_pos (exponent : Int) : 0 < scale exponent := by
  rw [scale, Nat.shiftLeft_eq]
  positivity

theorem value_of (mantissa : Nat) (exponent : Int) :
    (Rounding.of mantissa exponent).value = 4 * mantissa * scale exponent :=
  rfl

theorem low_of (mantissa : Nat) (exponent : Int) :
    (Rounding.of mantissa exponent).low
      = (4 * mantissa - below mantissa exponent) * scale exponent :=
  rfl

theorem high_of (mantissa : Nat) (exponent : Int) :
    (Rounding.of mantissa exponent).high = (4 * mantissa + 2) * scale exponent :=
  rfl

theorem scale_eq (mantissa : Nat) (exponent : Int) :
    (scale exponent : ℚ) = quarter exponent * (Rounding.of mantissa exponent).denominator := by
  change _ = quarter exponent * ((1 <<< (2 - exponent).toNat : Nat) : ℚ)
  rw [scale, Nat.shiftLeft_eq, Nat.shiftLeft_eq, quarter, one_mul, one_mul]
  push_cast
  rw [pow_toNat (by norm_num), show -(exponent - 2) = 2 - exponent by omega]

/-- The interval of a number, counted in quarters of its last place. -/
theorem Rounding.Contains.quarters (h : (Rounding.of mantissa exponent).Contains q) :
    ((4 * mantissa - below mantissa exponent : Nat) : ℚ) ≤ q / quarter exponent
      ∧ q / quarter exponent ≤ 4 * mantissa + 2
      ∧ (mantissa % 2 = 1 → ((4 * mantissa - below mantissa exponent : Nat) : ℚ)
          < q / quarter exponent ∧ q / quarter exponent < 4 * mantissa + 2) := by
  have hdenominator : (0 : ℚ) < (Rounding.of mantissa exponent).denominator := by
    exact_mod_cast denominator_pos mantissa exponent
  have hscale := scale_eq mantissa exponent
  have hlow : ((Rounding.of mantissa exponent).low : ℚ)
      = (4 * mantissa - below mantissa exponent : Nat) * quarter exponent
        * (Rounding.of mantissa exponent).denominator := by
    rw [mul_assoc, ← hscale, low_of, Nat.cast_mul]
  have hhigh : ((Rounding.of mantissa exponent).high : ℚ)
      = (4 * mantissa + 2) * quarter exponent * (Rounding.of mantissa exponent).denominator := by
    rw [mul_assoc, ← hscale, high_of]
    push_cast
    rfl
  have hquarter := quarter_pos exponent
  rw [le_div_iff₀ hquarter, div_le_iff₀ hquarter, lt_div_iff₀ hquarter, div_lt_iff₀ hquarter]
  refine ⟨?_, ?_, fun hodd => ?_⟩
  · have hle := h.low
    rw [hlow] at hle
    exact le_of_mul_le_mul_right hle hdenominator
  · have hle := h.high
    rw [hhigh] at hle
    exact le_of_mul_le_mul_right hle hdenominator
  · have hopen : (Rounding.of mantissa exponent).closed = false := by
      change (mantissa % 2 == 0) = false
      simp [hodd]
    obtain ⟨hlt, hlt'⟩ := h.inside hopen
    rw [hlow] at hlt
    rw [hhigh] at hlt'
    exact ⟨lt_of_mul_lt_mul_right hlt hdenominator.le, lt_of_mul_lt_mul_right hlt' hdenominator.le⟩

/-! ### Two intervals -/

/-- Mantissas and exponents as the bits of a finite number give them: a mantissa without its highest
bit has the least exponent. -/
structure Canonical (mantissa : Nat) (exponent : Int) : Prop where
  mantissa_lt : mantissa < 2 * Binary64.fractions
  exponent_ge : -1074 ≤ exponent
  normal : Binary64.fractions ≤ mantissa ∨ exponent = -1074

/-- Numbers with one exponent: the greater has its interval above. -/
theorem not_contains_of_mantissa_lt (hlt : mantissa < mantissa')
    (h : (Rounding.of mantissa exponent).Contains q)
    (h' : (Rounding.of mantissa' exponent).Contains q) : False := by
  obtain ⟨-, hhigh, hodd⟩ := h.quarters
  obtain ⟨hlow', -, hodd'⟩ := h'.quarters
  have hbelow := below_le mantissa' exponent
  generalize q / quarter exponent = x at *
  have hends : 4 * mantissa + 2 ≤ 4 * mantissa' - below mantissa' exponent := by omega
  have hends' : (4 * mantissa + 2 : ℚ) ≤ (4 * mantissa' - below mantissa' exponent : Nat) := by
    exact_mod_cast hends
  -- The ends meet only for neighbours, one of which is odd.
  rcases Nat.mod_two_eq_zero_or_one mantissa with heven | hone
  · by_cases hnext : mantissa' % 2 = 1
    · linarith [(hodd' hnext).1]
    · have hgap : 4 * mantissa + 3 ≤ 4 * mantissa' - below mantissa' exponent := by omega
      have hgap' : (4 * mantissa + 3 : ℚ) ≤ (4 * mantissa' - below mantissa' exponent : Nat) := by
        exact_mod_cast hgap
      linarith
  · linarith [(hodd hone).2]

theorem not_contains_of_exponent_lt (hlt : exponent < exponent')
    (hcanonical : Canonical mantissa exponent) (hcanonical' : Canonical mantissa' exponent')
    (h : (Rounding.of mantissa exponent).Contains q)
    (h' : (Rounding.of mantissa' exponent').Contains q) : False := by
  obtain ⟨-, hhigh, hodd⟩ := h.quarters
  obtain ⟨hlow', -, -⟩ := h'.quarters
  have hge := hcanonical.exponent_ge
  have hmantissa := hcanonical.mantissa_lt
  have hnormal : Binary64.fractions ≤ mantissa' := hcanonical'.normal.resolve_right (by omega)
  have hunits : q / quarter exponent = q / quarter exponent' * 2 ^ (exponent' - exponent) := by
    have hshift : quarter exponent' = quarter exponent * 2 ^ (exponent' - exponent) := by
      rw [quarter, quarter, ← zpow_add₀ (by norm_num)]
      congr 1
      omega
    have hpos := quarter_pos exponent
    have hpow : (0 : ℚ) < 2 ^ (exponent' - exponent) := zpow_pos (by norm_num) _
    rw [hshift]
    field_simp
  have htwo : (2 : ℚ) ≤ 2 ^ (exponent' - exponent) := by
    calc (2 : ℚ) = 2 ^ (1 : Int) := (zpow_one 2).symm
      _ ≤ 2 ^ (exponent' - exponent) := zpow_le_zpow_right₀ (by norm_num) (by omega)
  have hdouble : 2 * ((4 * mantissa' - below mantissa' exponent' : Nat) : ℚ)
      ≤ q / quarter exponent := by
    rw [hunits]
    have hnonneg : (0 : ℚ) ≤ (4 * mantissa' - below mantissa' exponent' : Nat) := Nat.cast_nonneg _
    nlinarith
  have hmark := le_sub_below hnormal (show -1074 < exponent' by omega)
  have hends : 4 * mantissa + 2 ≤ 2 * (4 * mantissa' - below mantissa' exponent') := by omega
  have hends' : (4 * mantissa + 2 : ℚ)
      ≤ 2 * ((4 * mantissa' - below mantissa' exponent' : Nat) : ℚ) := by exact_mod_cast hends
  -- The ends meet only below a power of two, and the number below one is odd.
  rcases Nat.mod_two_eq_zero_or_one mantissa with heven | hone
  · have hgap : 4 * mantissa + 3 ≤ 2 * (4 * mantissa' - below mantissa' exponent') := by
      rw [Binary64.fractions] at hmark hmantissa
      omega
    have hgap' : (4 * mantissa + 3 : ℚ)
        ≤ 2 * ((4 * mantissa' - below mantissa' exponent' : Nat) : ℚ) := by exact_mod_cast hgap
    linarith
  · linarith [(hodd hone).2]

/-- **A number rounds to one floating-point number only.** -/
theorem Canonical.eq_of_contains (hcanonical : Canonical mantissa exponent)
    (hcanonical' : Canonical mantissa' exponent')
    (h : (Rounding.of mantissa exponent).Contains q)
    (h' : (Rounding.of mantissa' exponent').Contains q) :
    mantissa = mantissa' ∧ exponent = exponent' := by
  rcases lt_trichotomy exponent exponent' with hlt | rfl | hlt
  · exact (not_contains_of_exponent_lt hlt hcanonical hcanonical' h h').elim
  · rcases lt_trichotomy mantissa mantissa' with hlt | rfl | hlt
    · exact (not_contains_of_mantissa_lt hlt h h').elim
    · exact ⟨rfl, rfl⟩
    · exact (not_contains_of_mantissa_lt hlt h' h).elim
  · exact (not_contains_of_exponent_lt hlt hcanonical' hcanonical h' h).elim

/-! ### The bits of a number -/

namespace Binary64

theorem canonical_ofFloat {x : Float} {negative : Bool}
    (h : ofFloat x = .finite negative mantissa exponent) : Canonical mantissa exponent := by
  have hfraction : x.toBits.toNat % fractions < fractions := Nat.mod_lt _ (by decide)
  rw [ofFloat] at h
  simp only [beq_iff_eq] at h
  split at h
  · split at h <;> exact nomatch h
  · split at h
    · obtain ⟨-, rfl, rfl⟩ := finite.inj h
      exact ⟨by omega, by omega, .inr rfl⟩
    · obtain ⟨-, rfl, rfl⟩ := finite.inj h
      exact ⟨by omega, by omega, .inl (by omega)⟩

def bits (negative : Bool) (mantissa : Nat) (exponent : Int) : Nat :=
  (if negative then 2048 * fractions else 0)
    + if mantissa < fractions then mantissa
      else (exponent + 1075).toNat * fractions + (mantissa - fractions)

theorem bits_ofFloat {x : Float} {negative : Bool}
    (h : ofFloat x = .finite negative mantissa exponent) :
    x.toBits.toNat = bits negative mantissa exponent := by
  have hsize := x.toBits.toNat_lt
  rw [ofFloat] at h
  simp only [beq_iff_eq, fractions] at h
  rw [bits, fractions]
  split at h
  · split at h <;> exact nomatch h
  · split at h <;> obtain ⟨rfl, rfl, rfl⟩ := finite.inj h <;>
      simp only [beq_iff_eq] <;> split <;> split <;> omega

/-- **A finite number is known from its sign, mantissa and exponent.** -/
theorem ofFloat_injective {x y : Float} {negative : Bool}
    (hx : ofFloat x = .finite negative mantissa exponent)
    (hy : ofFloat y = .finite negative mantissa exponent) : x = y := by
  have hbits : x.toBits = y.toBits :=
    UInt64.toNat_inj.mp ((bits_ofFloat hx).trans (bits_ofFloat hy).symm)
  obtain ⟨⟨bits, valid⟩⟩ := x
  obtain ⟨⟨bits', valid'⟩⟩ := y
  obtain rfl : bits = bits' := hbits
  rfl

end Binary64

end SearchQuery.Decimal

import Mathlib.Tactic.NormNum
import SearchQuery.Json.Basic

/-!
# Whole numbers as floating-point numbers

A whole number of 64 bits is rounded to a finite floating-point number.  Rounding raises the
exponent by no more than the mantissa is long, twice (`bounded_roundWithAccuracy`), packing keeps
the exponent (`bounded_unpack_pack`), and so it stays far below the field of ones that stands for
the values that are no numbers.

* `isFinite_ofInt`: whole numbers of 64 bits are finite.
-/

namespace SearchQuery.Decimal

open Float.Model Float.Model.UnpackedFloat

/-! ### Numbers of bounded size -/

/-- A number with a mantissa of so many bits and an exponent up to a limit. -/
inductive Bounded (bits : Nat) (limit : Int) : UnpackedFloat → Prop
  | zero (s : Sign) : Bounded bits limit (.zero s)
  | finite (s : Sign) {m : Nat} {e : Int} (hm : 0 < m) (hshort : m < 2 ^ bits) (hlow : e ≤ limit) :
      Bounded bits limit (.finite s m e hm)

namespace Bounded

variable {bits : Nat} {limit : Int} {f : UnpackedFloat}

theorem isFinite (h : Bounded bits limit f) : f.isFinite = true := by
  cases h <;> rfl

theorem neg (h : Bounded bits limit f) : Bounded bits limit f.neg := by
  cases h with
  | zero s => exact .zero (-s)
  | finite s hm hshort hlow => exact .finite (-s) hm hshort hlow

theorem mono (h : Bounded bits limit f) {bits' : Nat} {limit' : Int} (hbits : bits ≤ bits')
    (hlimit : limit ≤ limit') : Bounded bits' limit' f := by
  cases h with
  | zero s => exact .zero s
  | finite s hm hshort hlow =>
    have hpow : 2 ^ bits ≤ 2 ^ bits' := Nat.pow_le_pow_right (by decide) hbits
    exact .finite s hm (hshort.trans_le hpow) (hlow.trans hlimit)

end Bounded

/-! ### Rounding -/

theorem mantissa_shiftRight_le (m : ExtendedMantissa) (n : Nat) :
    (m >>> n).mantissa ≤ m.mantissa := by
  induction n with
  | zero => exact le_rfl
  | succ n ih => exact (Nat.div_le_self _ 2).trans ih

theorem roundedMantissa_le (m : ExtendedMantissa) : m.roundedMantissa ≤ m.mantissa + 1 := by
  obtain ⟨mantissa, round, sticky⟩ := m
  cases round <;> cases sticky
  · exact Nat.le_succ mantissa
  · exact Nat.le_succ mantissa
  · change mantissa + mantissa % 2 ≤ mantissa + 1
    omega
  · exact le_rfl

theorem mantissa_ofMantissaAndAccuracy (mantissa : Nat) (accuracy : Accuracy) :
    (ExtendedMantissa.ofMantissaAndAccuracy mantissa accuracy).mantissa = mantissa := by
  cases accuracy with
  | exact => rfl
  | inexact o => cases o <;> rfl

/-- Shifting to the target shortens the mantissa, and raises the exponent as far as the mantissa is
too long. -/
theorem shiftToTargetExponent_le (mantissa : Nat) (exponent : Int) (accuracy : Accuracy) :
    let shifted := shiftToTargetExponent Format.binary64 mantissa exponent accuracy
    shifted.1.mantissa ≤ mantissa
      ∧ shifted.2 ≤ max exponent (max (mantissa.log2 + exponent) (-1074)) := by
  intro shifted
  constructor
  · have hle := mantissa_shiftRight_le
      (ExtendedMantissa.ofMantissaAndAccuracy mantissa accuracy)
      (Format.binary64.targetExponent (totalExponent mantissa exponent) - exponent).toNat
    rwa [mantissa_ofMantissaAndAccuracy] at hle
  · have htarget : Format.binary64.targetExponent (totalExponent mantissa exponent)
        = max (mantissa.log2 + 1 + exponent - 53) (-1074) := rfl
    change exponent + ((Format.binary64.targetExponent (totalExponent mantissa exponent)
      - exponent).toNat : Int) ≤ _
    omega

theorem log2_le_of_lt {n k : Nat} (h : n < 2 ^ k) : n.log2 ≤ k := by
  by_cases hzero : n = 0
  · rw [hzero]
    exact Nat.zero_le k
  · exact ((Nat.log2_lt hzero).mpr h).le

/-- **Rounding raises the exponent by no more than the mantissa is long, twice.** -/
theorem bounded_roundWithAccuracy (sign : Sign) {mantissa : Nat} {exponent limit : Int}
    (accuracy : Accuracy) (hmantissa : mantissa < 2 ^ 200) (hexponent : exponent ≤ limit)
    (hlimit : 0 ≤ limit) :
    Bounded 201 (limit + 401)
      (roundWithAccuracy Format.binary64 sign mantissa exponent accuracy) := by
  obtain ⟨hshort, hraised⟩ := shiftToTargetExponent_le mantissa exponent accuracy
  rw [roundWithAccuracy]
  generalize shiftToTargetExponent Format.binary64 mantissa exponent accuracy = first at *
  obtain ⟨em, e⟩ := first
  have hrounded : em.roundedMantissa < 2 ^ 201 := by
    have hle := (roundedMantissa_le em).trans (Nat.succ_le_succ hshort)
    omega
  have hlog := log2_le_of_lt hmantissa
  have hlogRounded := log2_le_of_lt hrounded
  obtain ⟨hshorter, htwice⟩ := shiftToTargetExponent_le em.roundedMantissa e .exact
  dsimp only at hraised ⊢
  by_cases hnothing :
      (shiftToTargetExponent Format.binary64 em.roundedMantissa e .exact).1.mantissa = 0
  · rw [dif_pos hnothing]
    exact .zero sign
  · rw [dif_neg hnothing]
    exact .finite sign _ (by omega) (by omega)

theorem bounded_round (sign : Sign) {mantissa : Nat} (h : mantissa < 2 ^ 64) :
    Bounded 201 401 (round Format.binary64 sign mantissa 0) := by
  have htarget : Format.binary64.targetExponent (totalExponent mantissa 0)
      = max ((mantissa.log2 : Int) + 1 + 0 - 53) (-1074) := rfl
  have hshift : (0 - Format.binary64.targetExponent (totalExponent mantissa 0)).toNat ≤ 52 := by
    rw [htarget]
    omega
  have hlengthened : mantissa <<< (0 - Format.binary64.targetExponent
      (totalExponent mantissa 0)).toNat < 2 ^ 200 := by
    rw [Nat.shiftLeft_eq]
    calc
      mantissa * 2 ^ (0 - Format.binary64.targetExponent (totalExponent mantissa 0)).toNat
        ≤ mantissa * 2 ^ 52 := Nat.mul_le_mul_left _ (Nat.pow_le_pow_right (by decide) hshift)
      _ < 2 ^ 200 := by omega
  exact bounded_roundWithAccuracy sign .exact hlengthened (by omega) le_rfl

theorem bounded_mul {limit : Int} {f g : UnpackedFloat} (hf : Bounded 120 limit f)
    (hg : Bounded 60 0 g) (hlimit : 0 ≤ limit) :
    Bounded 201 (limit + 401) (UnpackedFloat.mul Format.binary64 f g) := by
  cases hf with
  | zero s =>
    cases hg with
    | zero s' => exact .zero _
    | finite s' hm' hshort' hlow' => exact .zero _
  | @finite s m e hm hshort hlow =>
    cases hg with
    | zero s' => exact .zero _
    | @finite s' m' e' hm' hshort' hlow' =>
      have hproduct : m * m' < 2 ^ 200 := by
        calc
          m * m' < 2 ^ 120 * 2 ^ 60 := Nat.mul_lt_mul'' hshort hshort'
          _ ≤ 2 ^ 200 := by norm_num
      exact bounded_roundWithAccuracy (s * s') .exact hproduct (by omega) hlimit

/-! ### Packing -/

theorem bounded_unpack {bits : BitVec 64} {field : Nat}
    (hfield : (@unpackExponent Format.binary64 bits).toNat = field) (h : field < 2047) :
    Bounded 53 (field - 1074) (UnpackedFloat.unpack Format.binary64 bits) := by
  have hones : @unpackExponent Format.binary64 bits ≠ -1#_ := by
    intro hones
    rw [hones] at hfield
    change 2047 = field at hfield
    omega
  have hbias : (Format.binary64.exponentBias + Format.binary64.mantissaBitsWithoutImplicit : Int)
      = 1075 := rfl
  unfold UnpackedFloat.unpack
  dsimp only
  rw [if_neg hones, hfield, hbias]
  by_cases hsubnormal : @unpackExponent Format.binary64 bits = 0#11
  · rw [if_pos hsubnormal]
    by_cases hnothing : @unpackMantissa Format.binary64 bits = 0#52
    · rw [dif_pos hnothing]
      exact .zero _
    · rw [dif_neg hnothing]
      have hlt := (@unpackMantissa Format.binary64 bits).isLt
      exact .finite _ _ (hlt.trans (by decide)) (by omega)
  · rw [if_neg hsubnormal]
    have hlt := (1#1 ++ @unpackMantissa Format.binary64 bits).isLt
    exact .finite _ _ hlt (by omega)

theorem bounded_packComponents (s : Sign) {exponent : BitVec 11} (mantissa : BitVec 52)
    {field : Nat} (hfield : exponent.toNat = field) (h : field < 2047) :
    Bounded 53 (field - 1074)
      (UnpackedFloat.unpack Format.binary64 (packComponents Format.binary64 s exponent mantissa)) :=
  bounded_unpack ((congrArg BitVec.toNat unpackExponent_packComponents).trans hfield) h

/-- **Packing keeps the exponent**, or else raises it to the least there is. -/
theorem bounded_unpack_pack {bits : Nat} {limit : Int} {f : UnpackedFloat}
    (h : Bounded bits limit f) (hlow : -1074 ≤ limit) (hhigh : limit ≤ 970) :
    Bounded 53 (limit + 1) (Float.Model.pack f).unpack := by
  change Bounded 53 (limit + 1)
    (UnpackedFloat.unpack Format.binary64 (UnpackedFloat.pack Format.binary64 f))
  have hzero : (0#11).toNat = 0 := rfl
  cases h with
  | zero s => exact (bounded_packComponents s 0 hzero (by omega)).mono le_rfl (by omega)
  | @finite s m e hm hshort hexponent =>
    have hbias : e + (Format.binary64.exponentBias : Int) + (52 : Nat) = e + 1075 := by
      change e + 1023 + 52 = e + 1075
      omega
    have hfinite : ¬ 2 ^ 11 ≤ (e + 1075).toNat + 1 := by omega
    unfold UnpackedFloat.pack
    dsimp only
    rw [hbias, if_neg hfinite]
    split
    · have hfield : (BitVec.ofNat 11 (e + 1075).toNat).toNat = (e + 1075).toNat :=
        Nat.mod_eq_of_lt (by omega)
      exact (bounded_packComponents s _ hfield (by omega)).mono le_rfl (by omega)
    · exact (bounded_packComponents s _ hzero (by omega)).mono le_rfl (by omega)

/-! ### Whole numbers -/

theorem bounded_ofUInt64 (n : UInt64) : Bounded 53 402 n.toFloat.toModel.unpack := by
  have hrounded : Bounded 201 401
      (UnpackedFloat.normalize Format.binary64 (n.toNat : Int) 0 .positive) := by
    rw [UnpackedFloat.normalize]
    split
    · next hlt =>
      rw [Int.compare_eq_lt] at hlt
      omega
    · exact .zero .positive
    · exact bounded_round .positive n.toNat_lt
  exact bounded_unpack_pack hrounded (by omega) (by omega)

/-- A long number is scaled by the first power of ten. -/
theorem bounded_ofScientific {n : Nat} (hpos : n ≠ 0) (h : n ≤ 2 ^ 64) :
    Bounded 201 401 (UnpackedFloat.ofScientific Format.binary64 n 0) := by
  have hlength : n <<< Format.binary64.mantissaBits < 2 ^ 120 := by
    rw [Nat.shiftLeft_eq]
    change n * 2 ^ 53 < 2 ^ 120
    omega
  have hsize : ¬ (0 : Int) < -(2 ^ Format.binary64.exponentBits + n.log2) := by
    change ¬ (0 : Int) < -(2 ^ 11 + n.log2)
    omega
  rw [UnpackedFloat.ofScientific, dif_neg hpos, if_neg (by decide), if_neg hsize, if_pos le_rfl]
  exact bounded_mul (.finite .positive _ hlength (by decide))
    (.finite .positive _ (by decide) le_rfl) le_rfl

theorem bounded_ofNat {n : Nat} (h : n ≤ 2 ^ 64) :
    Bounded 53 900 (Float.ofNat n).toModel.unpack := by
  change Bounded 53 900 (Float.ofScientific n false 0).toModel.unpack
  rw [Float.ofScientific]
  split
  · -- A short number is multiplied with the first power of ten.
    have hword := (bounded_ofUInt64 n.toUInt64).mono (by decide : 53 ≤ 120) le_rfl
    have hone : Bounded 53 (1023 - 1074)
        Float.exactlyRepresentablePowersOfTen[0].toModel.unpack := bounded_unpack rfl (by decide)
    have hproduct := bounded_mul hword (hone.mono (by decide) (by decide)) (by decide)
    exact (bounded_unpack_pack hproduct (by decide) (by decide)).mono le_rfl (by decide)
  · have hscaled := bounded_ofScientific (n := n) (by omega) h
    exact (bounded_unpack_pack hscaled (by decide) (by decide)).mono le_rfl (by decide)

/-- **Whole numbers of 64 bits are finite**, with or without a sign. -/
theorem isFinite_ofInt {n : Int} (hlow : -2 ^ 64 ≤ n) (hhigh : n ≤ 2 ^ 64) :
    (Float.ofInt n).isFinite = true := by
  change (Float.ofInt n).toModel.unpack.isFinite = true
  cases n with
  | ofNat n =>
    have hn : n ≤ 2 ^ 64 := Int.ofNat_le.mp hhigh
    exact (bounded_ofNat hn).isFinite
  | negSucc n =>
    have hbounded := bounded_ofNat (n := n.succ) (by omega)
    exact (bounded_unpack_pack hbounded.neg (by decide) (by decide)).isFinite

end SearchQuery.Decimal

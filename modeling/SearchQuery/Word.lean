/-!
# Machine words

Whole numbers that fit 64 bits, with or without sign, and a product that stays within them.  A
number read from a word is that word again (`word?_toNat`, `signedWord?_toInt`), and
`toNat_saturatingMul` says that the product is clamped.
-/

namespace SearchQuery

def word? (n : Int) : Option UInt64 :=
  if 0 ≤ n ∧ n < UInt64.size then some (UInt64.ofNat n.toNat) else none

def signedWord? (n : Int) : Option Int64 :=
  if -9223372036854775808 ≤ n ∧ n ≤ 9223372036854775807 then some (Int64.ofInt n) else none

/-- The product, or the greatest word if the product is greater. -/
def saturatingMul (a b : UInt64) : UInt64 :=
  UInt64.ofNat (min (a.toNat * b.toNat) (UInt64.size - 1))

theorem word?_toNat (w : UInt64) : word? w.toNat = some w := by
  have h := w.toNat_lt_size
  rw [word?, if_pos (by omega)]
  simp

theorem signedWord?_toInt (w : Int64) : signedWord? w.toInt = some w := by
  have hlow := w.le_toInt
  have hhigh := w.toInt_lt
  rw [signedWord?, if_pos (by omega), Int64.ofInt_toInt]

theorem toNat_saturatingMul (a b : UInt64) :
    (saturatingMul a b).toNat = min (a.toNat * b.toNat) (UInt64.size - 1) := by
  rw [saturatingMul, UInt64.toNat_ofNat_of_lt']
  simp only [UInt64.size]
  omega

end SearchQuery

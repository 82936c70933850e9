import Mathlib.Tactic.SplitIfs
import L1.Number.Binary64

/-!
# Quotients beyond the binary64 range

`Binary64.ofRatio?` rounds a quotient to the nearest binary64 value and gives nothing when
the rounded magnitude reaches `2^1024`. Whether it does is decided by the exponent it settles
on (`roundedExponent`): the binade of the quotient, scaled to a 53-bit significand, or the
binade above when the significand rounds up to `2^53`. The exponent is beyond the largest,
`971`, for every quotient of at least `2^1024`, for none below `2^1023`, and in the binade
between for exactly the integers from `2^1024 - 2^970`, halfway between the largest finite
value `(2^53 - 1) * 2^971` and `2^1024`, where a tie rounds to the even significand `2^53`.

So an integer has a nearest float exactly when its magnitude is below `Binary64.intLimit`
(`ofInt?_eq_none_iff`), and the reciprocal of any integer has one.
-/

namespace L1.Binary64

theorem floorLog2_le (num den : Nat) : floorLog2 num den ≤ (num.log2 : Int) - den.log2 := by
  simp only [floorLog2]
  split_ifs <;> omega

theorem floorLog2_one {num : Nat} (hnum : num ≠ 0) : floorLog2 num 1 = num.log2 := by
  have hle := Nat.log2_self_le hnum
  have hone : Nat.log2 1 = 0 := Nat.log2_two_pow (n := 0)
  simp only [floorLog2, hone]
  split_ifs <;> simp_all

def scaledExponent (num den : Nat) : Int :=
  max (floorLog2 num den - 52) (-1074)

def roundedSignificand (num den : Nat) : Nat :=
  if scaledExponent num den ≤ 0 then roundHalfEven (num * 2 ^ (-scaledExponent num den).toNat) den
  else roundHalfEven num (den * 2 ^ (scaledExponent num den).toNat)

/-- The exponent of the rounded value, one binade up when the significand rounds up to
`2^53`. -/
def roundedExponent (num den : Nat) : Int :=
  if roundedSignificand num den = 2 ^ 53 then scaledExponent num den + 1 else scaledExponent num den

theorem ofRatio?_eq_none_iff (neg : Bool) {num den : Nat} (hnum : num ≠ 0) :
    ofRatio? neg num den = none ↔ 971 < roundedExponent num den := by
  rw [ofRatio?, if_neg hnum]
  -- the named significand and exponent are the ones the definition binds
  unfold roundedExponent roundedSignificand scaledExponent
  dsimp only
  split_ifs <;> simp_all

theorem roundedExponent_bounds (num den : Nat) :
    scaledExponent num den ≤ roundedExponent num den ∧
      roundedExponent num den ≤ scaledExponent num den + 1 := by
  unfold roundedExponent
  split_ifs <;> omega

theorem ofRatio?_ne_none_of_floorLog2_le (neg : Bool) {num den : Nat}
    (hlog : floorLog2 num den ≤ 1022) : ofRatio? neg num den ≠ none := by
  intro hnone
  by_cases hnum : num = 0
  · simp [ofRatio?, hnum] at hnone
  · have hover := (ofRatio?_eq_none_iff neg hnum).mp hnone
    have hbounds := roundedExponent_bounds num den
    unfold scaledExponent at hbounds
    omega

theorem ofRatio?_eq_none_of_le_floorLog2 (neg : Bool) {num den : Nat} (hnum : num ≠ 0)
    (hlog : 1024 ≤ floorLog2 num den) : ofRatio? neg num den = none := by
  rw [ofRatio?_eq_none_iff neg hnum]
  have hbounds := roundedExponent_bounds num den
  unfold scaledExponent at hbounds
  omega

/-- In the last binade an integer rounds up to `2^1024` exactly from `2^1024 - 2^970`: its
significand is then `2^53 - 1`, odd, with a remainder of at least half the unit. -/
theorem ofRatio?_one_eq_none_iff_of_log2 (neg : Bool) {num : Nat} (hlog : num.log2 = 1023) :
    ofRatio? neg num 1 = none ↔ 2 ^ 1024 - 2 ^ 970 ≤ num := by
  have hnum : num ≠ 0 := by
    rintro rfl
    simp at hlog
  have hlo : 2 ^ 1023 ≤ num := hlog ▸ Nat.log2_self_le hnum
  have hhi := (Nat.log2_lt hnum).mp (show num.log2 < 1024 by omega)
  have hscaled : scaledExponent num 1 = 971 := by
    simp only [scaledExponent, floorLog2_one hnum, hlog]
    omega
  have hround : roundedSignificand num 1 = roundHalfEven num (2 ^ 971) := by
    rw [roundedSignificand, hscaled, if_neg (by decide), Nat.one_mul,
      show (971 : Int).toNat = 971 from rfl]
  rw [ofRatio?_eq_none_iff neg hnum, roundedExponent, hround, hscaled]
  simp only [roundHalfEven]
  split_ifs <;> omega

/-- The magnitude from which an integer has no nearest binary64 value: halfway between the
largest finite value `(2^53 - 1) * 2^971` and `2^1024`. -/
def intLimit : Nat := 2 ^ 1024 - 2 ^ 970

/-- An integer has a nearest binary64 value exactly when its magnitude is below
`intLimit`. -/
theorem ofInt?_eq_none_iff (n : Int) : ofInt? n = none ↔ intLimit ≤ n.natAbs := by
  unfold ofInt? intLimit
  by_cases hzero : n.natAbs = 0
  · simp only [ofRatio?, hzero, if_true, reduceCtorEq, false_iff]
    omega
  rcases Nat.lt_trichotomy n.natAbs.log2 1023 with hlow | hlast | hhigh
  · -- below the last binade
    have hsmall := (Nat.log2_lt hzero).mp hlow
    have hlog : floorLog2 n.natAbs 1 ≤ 1022 := by
      rw [floorLog2_one hzero]
      omega
    simp only [ofRatio?_ne_none_of_floorLog2_le _ hlog, false_iff]
    omega
  · exact ofRatio?_one_eq_none_iff_of_log2 _ hlast
  · -- beyond it
    have hlarge := (Nat.le_log2 hzero).mp (show 1024 ≤ n.natAbs.log2 by omega)
    have hlog : 1024 ≤ floorLog2 n.natAbs 1 := by
      rw [floorLog2_one hzero]
      omega
    simp only [ofRatio?_eq_none_of_le_floorLog2 _ hzero hlog, true_iff]
    omega

theorem ofRatio?_one_ne_none (neg : Bool) (den : Nat) : ofRatio? neg 1 den ≠ none := by
  apply ofRatio?_ne_none_of_floorLog2_le
  have := floorLog2_le 1 den
  have hone : Nat.log2 1 = 0 := Nat.log2_two_pow (n := 0)
  omega

end L1.Binary64

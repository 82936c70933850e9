import Mathlib.Data.EReal.Basic
import L1.Proofs.Escape

/-!
# Comparisons are exact

A number stands for an extended real: an integer for itself, and a binary64 float for the
value IEEE 754 gives its fields (`Binary64.realValue?`), an infinity for `⊤` or `⊥`, NaN for
nothing. The model computes with extended rationals instead (`Number.toExact?`), and
`Binary64.toExact?_map_toEReal` says that these are the IEEE values.

The comparisons `>`, `<` and `=` of two numbers never fail and compare these values exactly,
whatever the kinds of the numbers: an integer is never rounded to a float, so `2^53 + 1` is
above the float `2^53`, and an integer beyond the binary64 range is below `+∞` and above
every finite float. A comparison with NaN is false, and `-0.0`, `0.0` and `0` are equal. Any
other operands, a truth value among them, are a type mismatch.
-/

namespace L1

namespace Exact

noncomputable def toEReal : Exact → EReal
  | .negInf => ⊥
  | .finite r => ((r : ℝ) : EReal)
  | .posInf => ⊤

theorem lt_eq_true_iff (a b : Exact) : a.lt b = true ↔ a.toEReal < b.toEReal := by
  cases a <;> cases b <;> simp [lt, toEReal, EReal.coe_lt_coe_iff]

theorem eq_eq_true_iff (a b : Exact) : a.eq b = true ↔ a.toEReal = b.toEReal := by
  cases a <;> cases b <;> simp [eq, toEReal]

end Exact

namespace Binary64

/-! ## The fields of a binary64 value -/

theorem exponentField_eq (x : Float) : exponentField x = x.toBits.toNat / 2 ^ 52 % 2 ^ 11 := by
  simp only [exponentField, UInt64.toNat_and, UInt64.toNat_shiftRight]
  rw [show (0x7FF : UInt64).toNat = 2 ^ 11 - 1 from rfl, Nat.and_two_pow_sub_one_eq_mod,
    Nat.shiftRight_eq_div_pow]
  rfl

theorem fractionField_eq (x : Float) : fractionField x = x.toBits.toNat % 2 ^ 52 := by
  simp only [fractionField, UInt64.toNat_and]
  rw [show (0xFFFFFFFFFFFFF : UInt64).toNat = 2 ^ 52 - 1 from rfl, Nat.and_two_pow_sub_one_eq_mod]

theorem fields_eq_zero_iff (x : Float) :
    exponentField x = 0 ∧ fractionField x = 0 ↔ x.toBits = 0 ∨ x.toBits = 0x8000000000000000 := by
  have hlt := x.toBits.toNat_lt
  rw [exponentField_eq, fractionField_eq, ← UInt64.toNat_inj, ← UInt64.toNat_inj]
  simp only [UInt64.toNat_zero]
  rw [show (0x8000000000000000 : UInt64).toNat = 2 ^ 63 from rfl]
  omega

/-! ## The value of a binary64 number -/

theorem dyadic_cast (m : Nat) (q : Int) : ((dyadic m q : ℚ) : ℝ) = m * (2 : ℝ) ^ q := by
  unfold dyadic
  split_ifs with hq
  · obtain ⟨k, rfl⟩ := Int.eq_ofNat_of_zero_le hq
    simp
  · obtain ⟨k, rfl⟩ : ∃ k : ℕ, q = -k := ⟨(-q).toNat, by omega⟩
    simp [Rat.mkRat_eq_div, zpow_neg, div_eq_mul_inv]

def signFactor (x : Float) : ℝ := if signBit x then -1 else 1

theorem signed_dyadic_cast (neg : Bool) (m : Nat) (q : Int) :
    (((if neg then -dyadic m q else dyadic m q : ℚ)) : ℝ) =
      (if neg then -1 else 1) * m * (2 : ℝ) ^ q := by
  cases neg <;> simp [dyadic_cast]

/-- The value of a binary64 number by IEEE 754, read from its fields: the all-ones exponent
holds the infinities and NaN, which stands for nothing; the zero exponent holds the
subnormals `± f * 2^-1074`; every other exponent `e` the normal `± (2^52 + f) * 2^(e - 1075)`. -/
noncomputable def realValue? (x : Float) : Option EReal :=
  if exponentField x = 2047 then
    if fractionField x = 0 then some (if signBit x then ⊥ else ⊤) else none
  else if exponentField x = 0 then
    some ((signFactor x * fractionField x * 2 ^ (-1074 : ℤ) : ℝ) : EReal)
  else
    some ((signFactor x * (2 ^ 52 + fractionField x) * 2 ^ ((exponentField x : ℤ) - 1075) : ℝ) :
      EReal)

/-- The extended rational the model reads from a float is its IEEE value. -/
theorem toExact?_map_toEReal (x : Float) : (toExact? x).map Exact.toEReal = realValue? x := by
  unfold toExact? shape realValue? signFactor
  generalize signBit x = s
  generalize exponentField x = e
  generalize fractionField x = f
  by_cases hinf : e = 2047
  · by_cases hf : f = 0 <;> cases s <;> simp [hinf, hf, Exact.toEReal]
  · by_cases hsub : e = 0
    · subst hsub
      simp [Exact.toEReal, signed_dyadic_cast]
    · simp only [hinf, hsub, if_false, Option.map_some, Exact.toEReal, signed_dyadic_cast]
      congr 2
      push_cast
      ring

theorem realValue?_eq_zero_iff (x : Float) :
    realValue? x = some 0 ↔ exponentField x = 0 ∧ fractionField x = 0 := by
  unfold realValue?
  by_cases hinf : exponentField x = 2047
  · -- an infinity is no real, and NaN stands for nothing
    by_cases hf : fractionField x = 0 <;> cases signBit x <;> simp [hinf, hf]
  · have hsign : signFactor x ≠ 0 := by
      unfold signFactor
      split <;> norm_num
    by_cases hsub : exponentField x = 0
    · rw [if_neg hinf, if_pos hsub, Option.some.injEq, EReal.coe_eq_zero]
      simp [hsign, hsub]
    · rw [if_neg hinf, if_neg hsub, Option.some.injEq, EReal.coe_eq_zero]
      have hm : (2 : ℝ) ^ 52 + fractionField x ≠ 0 := by positivity
      simp [hsign, hm, hsub, zpow_ne_zero]

end Binary64

namespace Number

/-- The value a number stands for: an integer itself, a float its IEEE value; `none` for
NaN. -/
noncomputable def realValue? : Number → Option EReal
  | .int n => some ((n : ℝ) : EReal)
  | .float x => Binary64.realValue? x

theorem toExact?_map_toEReal (x : Number) : x.toExact?.map Exact.toEReal = x.realValue? := by
  cases x with
  | int n => simp [toExact?, realValue?, Exact.toEReal]
  | float x => exact Binary64.toExact?_map_toEReal x

theorem lt_eq_true_iff (x y : Number) :
    x.lt y = true ↔ ∃ r s, x.realValue? = some r ∧ y.realValue? = some s ∧ r < s := by
  rw [← toExact?_map_toEReal, ← toExact?_map_toEReal, Number.lt]
  cases x.toExact? <;> cases y.toExact? <;> simp [Exact.lt_eq_true_iff]

theorem eq_eq_true_iff (x y : Number) :
    x.eq y = true ↔ ∃ r s, x.realValue? = some r ∧ y.realValue? = some s ∧ r = s := by
  rw [← toExact?_map_toEReal, ← toExact?_map_toEReal, Number.eq]
  cases x.toExact? <;> cases y.toExact? <;> simp [Exact.eq_eq_true_iff]
  exact eq_comm

/-- A number is zero exactly when it is the integer `0` or one of the two float zeros; NaN
is not zero. -/
theorem isZero_eq_true_iff (x : Number) :
    x.isZero = true ↔
      x = .int 0 ∨ ∃ f, x = .float f ∧ (f.toBits = 0 ∨ f.toBits = 0x8000000000000000) := by
  have hzero : x.isZero = true ↔ x.realValue? = some 0 := by
    simp [isZero, eq_eq_true_iff, realValue?]
  rw [hzero]
  cases x with
  | int n => simp [realValue?]
  | float f => simp [realValue?, Binary64.realValue?_eq_zero_iff, Binary64.fields_eq_zero_iff]

end Number

/-- Whether a comparison holds of the values of its two operands. -/
def Compare.Holds : Compare → EReal → EReal → Prop
  | .gt, r, s => s < r
  | .lt, r, s => r < s
  | .eq, r, s => r = s

theorem Compare.test_eq_true_iff (c : Compare) (x y : Number) :
    c.test x y = true ↔ ∃ r s, x.realValue? = some r ∧ y.realValue? = some s ∧ c.Holds r s := by
  cases c with
  | gt =>
      rw [test, Number.lt_eq_true_iff]
      constructor
      · rintro ⟨s, r, hs, hr, hlt⟩
        exact ⟨r, s, hr, hs, hlt⟩
      · rintro ⟨r, s, hr, hs, hlt⟩
        exact ⟨s, r, hs, hr, hlt⟩
  | lt => exact Number.lt_eq_true_iff x y
  | eq => exact Number.eq_eq_true_iff x y

theorem applyTag_symbol (o : Options) (p : Prim) (args : List Value) :
    applyTag o (.str (.ofString p.symbol)) args = p.apply o args := by
  simp only [applyTag, Prim.ofTag_symbol]

/-- A refused comparison is returned exactly when every operand can be written: the refusal
shows them all. -/
theorem returnsNormally_compare_refused (o : Options) (c : Compare) {args : List Value}
    (hargs : ∀ x y, args ≠ [.num x, .num y]) :
    returnsNormally ((Prim.compare c).apply o args) = true ↔ ∀ v ∈ args, v.writable = true := by
  rw [Prim.apply_compare_of_ne o c hargs, returnsNormally_typeMismatch]
  simp

/-- A comparison of two numbers never fails: it is true exactly when the comparison holds of
the values they stand for, and false when either is NaN. Any other operands are refused, and
the refusal is returned exactly when every operand can be written; otherwise it is raised. -/
theorem compare_numbers_exactly (o : Options) (c : Compare) :
    (∀ x y : Number, ∃ b, applyTag o (.str (.ofString c.symbol)) [.num x, .num y] = .ok (.bool b) ∧
      (b = true ↔ ∃ r s, x.realValue? = some r ∧ y.realValue? = some s ∧ c.Holds r s)) ∧
    (∀ args : List Value, (∀ x y, args ≠ [.num x, .num y]) →
      applyTag o (.str (.ofString c.symbol)) args = .error (.typeMismatch (.compare c) args) ∧
      (returnsNormally (applyTag o (.str (.ofString c.symbol)) args) = true ↔
        ∀ v ∈ args, v.writable = true)) := by
  have hsymbol : ∀ args, applyTag o (.str (.ofString c.symbol)) args = (Prim.compare c).apply o args :=
    applyTag_symbol o (.compare c)
  refine ⟨fun x y => ⟨c.test x y, ?_, Compare.test_eq_true_iff c x y⟩, fun args hargs => ?_⟩
  · rw [hsymbol]
    rfl
  · rw [hsymbol]
    exact ⟨Prim.apply_compare_of_ne o c hargs, returnsNormally_compare_refused o c hargs⟩

example : Compare.gt.test (.int (2 ^ 53 + 1)) (.float (Float.ofBits 0x4340000000000000)) = true := by
  decide

/-- `(= true 1)` is refused, and the refusal is returned: a truth value is no number to a
comparison. `(> 10^4400)` is refused too, but raised: its one operand is too long to be
written. -/
theorem compare_refusals_returned_or_raised :
    let long : Value := .num (.int (10 ^ 4400))
    ((∀ x y, [Value.bool true, .num (.int 1)] ≠ [.num x, .num y]) ∧
      applyTag {} (.str (.ofString "=")) [.bool true, .num (.int 1)] =
        .error (.typeMismatch (.compare .eq) [.bool true, .num (.int 1)]) ∧
      returnsNormally (applyTag {} (.str (.ofString "=")) [.bool true, .num (.int 1)]) = true) ∧
    ((∀ x y, [long] ≠ [.num x, .num y]) ∧
      returnsNormally (applyTag {} (.str (.ofString ">")) [long]) = false) := by
  intro long
  have htruth : ∀ x y, [Value.bool true, .num (.int 1)] ≠ [.num x, .num y] := by simp
  have hsingle : ∀ x y, [long] ≠ [.num x, .num y] := by simp
  obtain ⟨hrefused, hreturned⟩ := (compare_numbers_exactly {} .eq).2 _ htruth
  -- the long operand cannot be written, so its refusal is not returned
  have hlong : ¬∀ v ∈ [long], v.writable = true := by
    decide +kernel
  have hraised : returnsNormally (applyTag {} (.str (.ofString ">")) [long]) ≠ true :=
    mt ((compare_numbers_exactly {} .gt).2 _ hsingle).2.mp hlong
  exact ⟨⟨htruth, hrefused, hreturned.mpr (by decide +kernel)⟩, hsingle, Bool.eq_false_iff.mpr hraised⟩

end L1

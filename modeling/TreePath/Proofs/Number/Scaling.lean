import Mathlib.Tactic.Ring
import TreePath.Number.Integer

/-!
# Decimals of the same value

How a quotient is rounded depends on its value alone, not on the terms it is written in. So digits and exponent may be
shifted against each other before a decimal is rounded, and the digits of every finite magnitude written out in
full are rounded to that magnitude.
-/

namespace TreePath

theorem roundHalfEven_scale (numerator denominator : Nat) {factor : Nat} (positive : 0 < factor) :
    roundHalfEven (numerator * factor) (denominator * factor) = roundHalfEven numerator denominator := by
  have twice : 2 * (numerator % denominator * factor) = 2 * (numerator % denominator) * factor := by ring
  have above : denominator * factor < 2 * (numerator % denominator * factor) ↔
      denominator < 2 * (numerator % denominator) := by
    rw [twice]
    exact Nat.mul_lt_mul_right positive
  have even : 2 * (numerator % denominator * factor) = denominator * factor ↔
      2 * (numerator % denominator) = denominator := by
    rw [twice]
    exact Nat.mul_left_inj (Nat.ne_of_gt positive)
  simp only [roundHalfEven, Nat.mul_div_mul_right _ _ positive, Nat.mul_mod_mul_right, above, even]

namespace Binary64

theorem codeOfRatio_scale (numerator denominator : Nat) {factor : Nat} (positive : 0 < factor) :
    codeOfRatio (numerator * factor) (denominator * factor) = codeOfRatio numerator denominator := by
  simp only [codeOfRatio, Nat.mul_div_mul_right _ _ positive]
  rw [Nat.mul_right_comm, roundHalfEven_scale _ _ positive]

/-- Equal quotients are rounded to the same code. -/
theorem codeOfRatio_congr {numerator denominator numerator' denominator' : Nat} (positive : 0 < denominator)
    (positive' : 0 < denominator') (same : numerator * denominator' = numerator' * denominator) :
    codeOfRatio numerator denominator = codeOfRatio numerator' denominator' := by
  rw [← codeOfRatio_scale numerator denominator positive', same, Nat.mul_comm denominator,
    codeOfRatio_scale numerator' denominator' positive]

theorem log2_shiftLeft {mantissa : Nat} (width : Nat) (least : 2 ^ width ≤ mantissa)
    (below : mantissa < 2 ^ (width + 1))
    (shift : Nat) : (mantissa * 2 ^ shift).log2 = width + shift := by
  have positive : 0 < 2 ^ shift := Nat.two_pow_pos shift
  have mantissa_pos : 0 < mantissa := Nat.lt_of_lt_of_le (Nat.two_pow_pos width) least
  rw [Nat.log2_eq_iff (Nat.ne_of_gt (Nat.mul_pos mantissa_pos positive)), Nat.pow_add,
    Nat.add_right_comm, Nat.pow_add]
  exact ⟨Nat.mul_le_mul_right _ least, Nat.mul_lt_mul_of_pos_right below positive⟩

/-- Every magnitude is rounded to its own code. -/
theorem codeOfRatio_magnitude (code : Nat) : codeOfRatio (magnitude code) 1 = code := by
  have split_code := Nat.div_add_mod code (2 ^ (52 : Nat))
  have fraction_lt : code % 2 ^ (52 : Nat) < 2 ^ (52 : Nat) := Nat.mod_lt _ (by decide)
  unfold codeOfRatio magnitude
  simp only [Nat.div_one, Nat.one_mul]
  by_cases small : code / 2 ^ (52 : Nat) = 0
  · have shift : (code % 2 ^ (52 : Nat)).log2 - 52 = 0 := by
      by_cases zero : code % 2 ^ (52 : Nat) = 0
      · rw [zero, Nat.log2_zero]
      · exact Nat.sub_eq_zero_of_le (Nat.le_of_lt ((Nat.log2_lt zero).2 fraction_lt))
    have rounded := roundHalfEven_mul (code % 2 ^ (52 : Nat)) Nat.one_pos
    rw [Nat.mul_one] at rounded
    rw [if_pos small, shift, Nat.pow_zero, rounded, Nat.zero_mul, Nat.zero_add]
    rwa [small, Nat.mul_zero, Nat.zero_add] at split_code
  · have shift : ((2 ^ (52 : Nat) + code % 2 ^ (52 : Nat)) * 2 ^ (code / 2 ^ (52 : Nat) - 1)).log2 - 52 =
        code / 2 ^ (52 : Nat) - 1 := by
      rw [log2_shiftLeft 52 (by omega) (by omega)]
      omega
    rw [if_neg small, shift, roundHalfEven_mul _ (Nat.two_pow_pos _)]
    omega

/-- A decimal as one quotient, whatever the sign of its exponent. -/
theorem ofDecimal_eq (negative : Bool) (digits : Nat) (exponent : Int) :
    ofDecimal negative digits exponent =
      ofRatio negative (digits * 10 ^ exponent.toNat * unitsPerOne) (10 ^ (-exponent).toNat) := by
  cases exponent with
  | ofNat power =>
      have positive : (-(Int.ofNat power)).toNat = 0 := by simp
      rw [positive]
      rfl
  | negSucc power =>
      have negative_part : (-(Int.negSucc power)).toNat = power + 1 := by simp
      rw [negative_part]
      simp [ofDecimal]

theorem ofRatio_congr (negative : Bool) {numerator denominator numerator' denominator' : Nat}
    (positive : 0 < denominator) (positive' : 0 < denominator')
    (same : numerator * denominator' = numerator' * denominator) :
    ofRatio negative numerator denominator = ofRatio negative numerator' denominator' := by
  simp only [ofRatio, codeOfRatio_congr positive positive' same]

/-- Zeros at the end of the digits count for the exponent. -/
theorem ofDecimal_shift (negative : Bool) (digits zeros : Nat) (exponent : Int) :
    ofDecimal negative (digits * 10 ^ zeros) exponent = ofDecimal negative digits (exponent + zeros) := by
  have powers : zeros + exponent.toNat + (-(exponent + zeros)).toNat =
      (exponent + zeros).toNat + (-exponent).toNat := by omega
  rw [ofDecimal_eq, ofDecimal_eq]
  apply ofRatio_congr negative (Nat.pow_pos (by decide)) (Nat.pow_pos (by decide))
  calc digits * 10 ^ zeros * 10 ^ exponent.toNat * unitsPerOne * 10 ^ (-(exponent + zeros)).toNat
      = digits * unitsPerOne * 10 ^ (zeros + exponent.toNat + (-(exponent + zeros)).toNat) := by ring
    _ = digits * unitsPerOne * 10 ^ ((exponent + zeros).toNat + (-exponent).toNat) := by rw [powers]
    _ = digits * 10 ^ (exponent + zeros).toNat * unitsPerOne * 10 ^ (-exponent).toNat := by ring

theorem ofDecimal_zero (negative : Bool) (exponent : Int) : ofDecimal negative 0 exponent = zero negative := by
  have same : ofRatio negative (0 * 10 ^ exponent.toNat * unitsPerOne) (10 ^ (-exponent).toNat) =
      ofRatio negative 0 1 :=
    ofRatio_congr negative (Nat.pow_pos (by decide)) Nat.one_pos (by ring)
  rw [ofDecimal_eq, same]
  rfl

/-- The sign of a decimal has no say in its magnitude. -/
theorem ofDecimal_sign {digits : Nat} {exponent : Int} {code : Fin 0x7FF0000000000000}
    (value : ofDecimal false digits exponent = finite false code) (negative : Bool) :
    ofDecimal negative digits exponent = finite negative code := by
  rw [ofDecimal_eq, ofRatio] at value ⊢
  split at value
  · rename_i small
    rcases Binary64.finite.inj value with ⟨-, rfl⟩
    rw [dif_pos small]
  · cases value

/-- A magnitude written out in full is rounded to itself. `places` is the power of two that one is in units. -/
theorem ofDecimal_expansion {places : Nat} (units : unitsPerOne = 2 ^ places)
    (code : Fin 0x7FF0000000000000) :
    ofDecimal false (magnitude code * 5 ^ places) (-places) = finite false code := by
  have tens : (10 : Nat) ^ places = 5 ^ places * unitsPerOne := by
    rw [units, ← Nat.mul_pow]
  have same : ofRatio false (magnitude code * 5 ^ places * 10 ^ (0 : Nat) * unitsPerOne) (10 ^ places) =
      ofRatio false (magnitude code) 1 := by
    apply ofRatio_congr false (Nat.pow_pos (by decide)) Nat.one_pos
    rw [tens]
    ring
  have whole : (-(places : Int)).toNat = 0 := by omega
  have fraction : (- -(places : Int)).toNat = places := by omega
  have exact_code := codeOfRatio_magnitude code
  rw [ofDecimal_eq, whole, fraction, same, ofRatio]
  simp only [exact_code, code.isLt, dif_pos]

end Binary64

end TreePath

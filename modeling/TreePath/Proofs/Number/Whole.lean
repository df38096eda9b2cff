import TreePath.Proofs.Number.Conversion
import TreePath.Regex.Standard
import TreePath.Script.Term

/-!
# Whole numbers of both kinds together

An integer and a floating-point number are combined as decimals. A whole number of at most 53 binary digits becomes a decimal
without digits after the point, whatever its kind, and sums, differences and products of such decimals are exact as long
as they have room. So the result is the exact integer whenever that lies in the 64-bit range.
-/

namespace TreePath

namespace Binary64

/-- The sign and the magnitude of a whole number. -/
theorem exists_finite_of_toInt? {x : Binary64} {n : Int} (integral : x.toInt? = some n) :
    ∃ negative code, x = finite negative code ∧ magnitude code.val = n.natAbs * unitsPerOne ∧
      n = if negative then -(n.natAbs : Int) else n.natAbs := by
  have one : (0 : Int) < unitsPerOne := Int.natCast_pos.2 unitsPerOne_pos
  unfold toInt? at integral
  split at integral
  · rename_i units value
    split at integral
    · rename_i divides
      have product : units = n * unitsPerOne := by
        rw [← Option.some.inj integral, Int.ediv_mul_cancel (Int.dvd_of_emod_eq_zero divides)]
      have magnitudes : units.natAbs = n.natAbs * unitsPerOne := by rw [product, Int.natAbs_mul, Int.natAbs_natCast]
      unfold units? at value
      split at value
      · rename_i code
        rcases Option.some.inj value with rfl
        refine ⟨false, code, rfl, magnitudes, ?_⟩
        have nonnegative : 0 ≤ n := Int.nonneg_of_mul_nonneg_left (by omega) one
        simp only [Bool.false_eq_true, if_false]
        omega
      · rename_i code
        rcases Option.some.inj value with rfl
        rw [Int.natAbs_neg] at magnitudes
        refine ⟨true, code, rfl, magnitudes, ?_⟩
        have nonpositive : 0 ≤ -n := Int.nonneg_of_mul_nonneg_left (by rw [Int.neg_mul]; omega) one
        simp only [if_true]
        omega
      · cases value
    · cases integral
  · cases integral

end Binary64

namespace Decimal

open Binary64 (significand elevation magnitude unitsPerOne)

/-- A decimal without digits after the point, and its value. -/
structure IsWhole (x : Decimal) (value : Int) : Prop where
  scale_eq : x.scale = 0
  signed_eq : x.signed = value

namespace IsWhole

variable {x y : Decimal} {m n : Int}

theorem toInt?_eq (whole : x.IsWhole m) : x.toInt? = some m := by
  rw [toInt?, whole.scale_eq, Nat.pow_zero, if_pos (Nat.mod_one _), Nat.div_one, ← whole.signed_eq]
  rfl

theorem natAbs_eq (whole : x.IsWhole m) : m.natAbs = x.mantissa := by
  rw [← whole.signed_eq, signed]
  split <;> simp

theorem ofInt (value : Int) : (Decimal.ofInt value).IsWhole value := by
  refine ⟨rfl, ?_⟩
  simp only [Decimal.ofInt, signed, decide_eq_true_eq]
  split <;> omega

theorem neg (whole : x.IsWhole m) : x.neg.IsWhole (-m) := by
  refine ⟨whole.scale_eq, ?_⟩
  rw [← whole.signed_eq]
  cases negative : x.negative <;> simp [Decimal.neg, signed, negative]

/-- A value without digits after the point is left as it is, if there is room for it. -/
theorem fit?_zero (negative : Bool) {value : Nat} (room : value < mantissaBound) :
    fit? negative value 0 = some ⟨negative, value, 0⟩ := by
  have rounded := roundHalfEven_mul value Nat.one_pos
  rw [Nat.mul_one] at rounded
  simp [fit?, List.range_succ, rounded, room]

theorem add (whole : x.IsWhole m) (whole' : y.IsWhole n) (room : (m + n).natAbs < mantissaBound) :
    ∃ z, x.add? y = some z ∧ z.IsWhole (m + n) := by
  have left := whole.natAbs_eq
  have right := whole'.natAbs_eq
  unfold add?
  split
  · rename_i zero
    have sum : m + n = n := by omega
    exact ⟨y, rfl, by rwa [sum]⟩
  · split
    · rename_i zero
      have sum : m + n = m := by omega
      exact ⟨x, rfl, by rwa [sum]⟩
    · simp only [whole.scale_eq, whole'.scale_eq, whole.signed_eq, whole'.signed_eq, Nat.max_self, Nat.sub_zero,
        Int.pow_zero, Int.mul_one, fit?_zero _ room]
      exact ⟨_, rfl, IsWhole.ofInt (m + n)⟩

theorem sub (whole : x.IsWhole m) (whole' : y.IsWhole n) (room : (m - n).natAbs < mantissaBound) :
    ∃ z, x.sub? y = some z ∧ z.IsWhole (m - n) := by
  have right := whole'.natAbs_eq
  unfold sub?
  split
  · rename_i zero
    have difference : m - n = m := by omega
    exact ⟨x, rfl, by rwa [difference]⟩
  · exact whole.add whole'.neg room

theorem mul (whole : x.IsWhole m) (whole' : y.IsWhole n) (room : (m * n).natAbs < mantissaBound) :
    ∃ z, x.mul? y = some z ∧ z.IsWhole (m * n) := by
  have left := whole.natAbs_eq
  have right := whole'.natAbs_eq
  unfold mul?
  split
  · rename_i zero
    have product : m * n = 0 := by
      rw [Int.mul_eq_zero]
      omega
    exact ⟨_, rfl, rfl, by rw [product]; rfl⟩
  · have product : (m * n).natAbs = x.mantissa * y.mantissa := by rw [Int.natAbs_mul, left, right]
    have scales : ¬(x.mantissa < 2 ^ (32 : Nat) ∧ y.mantissa < 2 ^ (32 : Nat) ∧ 0 + 0 > 47) := by simp
    rw [product] at room
    rw [whole.scale_eq, whole'.scale_eq, if_neg scales, fit?_zero _ room]
    refine ⟨_, rfl, rfl, ?_⟩
    rw [← whole.signed_eq, ← whole'.signed_eq]
    cases negative : x.negative <;> cases negative' : y.negative <;> simp [signed, negative, negative']

end IsWhole

variable {negative : Bool} {code : Fin 0x7FF0000000000000} {value : Nat}

/-- A whole magnitude of at most 53 binary digits is converted exactly. -/
theorem ofBinary64?_of_whole (positive : code.val ≠ 0) (whole : magnitude code.val = value * unitsPerOne)
    (small : value ≤ 2 ^ (53 : Nat)) : ofBinary64? (.finite negative code) = some ⟨negative, value, 0⟩ := by
  rw [Binary64.magnitude_eq_significand_mul] at whole
  rcases Nat.lt_or_ge (elevation code.val) 1074 with below | above
  · rcases Nat.exists_eq_add_of_lt below with ⟨count, below⟩
    have digits : significand code.val = value * 2 ^ (count + 1) := by
      rw [Binary64.unitsPerOne_eq below, Nat.add_assoc, Nat.pow_add, Nat.mul_comm (2 ^ _), ← Nat.mul_assoc] at whole
      exact Nat.eq_of_mul_eq_mul_right (Nat.two_pow_pos _) whole
    have exponent : Int.negSucc count + (count + 1 : Nat) = 0 := by
      rw [Int.negSucc_eq]
      omega
    rw [ofBinary64?_of_lt positive below.symm, digits, useNegativePowers_mul, exponent]
    rfl
  · rcases Nat.exists_eq_add_of_le above with ⟨power, above⟩
    have digits : significand code.val * 2 ^ power = value := by
      have ⟨places, units⟩ : ∃ places, 1074 = places := ⟨1074, rfl⟩
      rw [Binary64.unitsPerOne_eq units, above, units, Nat.pow_add, Nat.mul_comm (2 ^ _), ← Nat.mul_assoc] at whole
      exact Nat.eq_of_mul_eq_mul_right (Nat.two_pow_pos _) whole
    have room : value < mantissaBound := Nat.lt_of_le_of_lt small (by decide)
    rw [ofBinary64?_of_le positive above, digits, if_pos room]

theorem exists_isWhole_of_toInt? {x : Binary64} {n : Int} (integral : x.toInt? = some n)
    (small : n.natAbs ≤ 2 ^ (53 : Nat)) :
    ∃ y, ofBinary64? x = some y ∧ y.IsWhole n := by
  rcases Binary64.exists_finite_of_toInt? integral with ⟨negative, code, rfl, whole, signs⟩
  by_cases zero : code.val = 0
  · have isZero : n = 0 := by
      rw [zero] at whole
      rcases Nat.mul_eq_zero.1 whole.symm with nothing | nothing
      · exact Int.natAbs_eq_zero.1 nothing
      · exact absurd nothing (Nat.ne_of_gt Binary64.unitsPerOne_pos)
    refine ⟨_, ofBinary64?_of_eq_zero zero, rfl, ?_⟩
    rw [isZero]
    rfl
  · exact ⟨_, ofBinary64?_of_whole zero whole small, rfl, signs.symm⟩

end Decimal

namespace Numeric

theorem ofDecimal_of_isWhole {x : Decimal} {n : Int64} (whole : x.IsWhole n.toInt) : ofDecimal x = integer n := by
  rw [ofDecimal, whole.toInt?_eq, Option.bind_some, int64?_toInt]

section Combining

variable {integers : Int64 → Int64 → Option Numeric} {decimals : Decimal → Decimal → Option Decimal}
variable {floats : Binary64 → Binary64 → Binary64} {a result : Int64} {x : Binary64} {y z : Decimal}

theorem combine?_integer_float (converted : Decimal.ofBinary64? x = some y) (combined : decimals (.ofInt a.toInt) y = some z)
    (whole : z.IsWhole result.toInt) :
    combine? integers decimals floats (integer a) (float x) = some (integer result) := by
  simp only [combine?, toDecimal?, converted, combined, ofDecimal_of_isWhole whole]

theorem combine?_float_integer (converted : Decimal.ofBinary64? x = some y) (combined : decimals y (.ofInt a.toInt) = some z)
    (whole : z.IsWhole result.toInt) :
    combine? integers decimals floats (float x) (integer a) = some (integer result) := by
  simp only [combine?, toDecimal?, converted, combined, ofDecimal_of_isWhole whole]

end Combining

/--
An integer and a floating-point number whose value is a whole number of magnitude at most `2 ^ 53` are added, subtracted and
multiplied exactly, in either order, whenever the result lies in the 64-bit range.
-/
theorem mixed_arithmetic_exact [RegexSyntax] (a : Int64) {x : Binary64} {b : Int} (integral : x.toInt? = some b)
    (small : b.natAbs ≤ 2 ^ (53 : Nat)) (result : Int64) :
    (result.toInt = a.toInt + b →
      Term.applyBinary .add (.number (integer a)) (.number (float x)) = .number (integer result) ∧
      Term.applyBinary .add (.number (float x)) (.number (integer a)) = .number (integer result)) ∧
    (result.toInt = a.toInt - b →
      Term.applyBinary .subtract (.number (integer a)) (.number (float x)) = .number (integer result)) ∧
    (result.toInt = b - a.toInt →
      Term.applyBinary .subtract (.number (float x)) (.number (integer a)) = .number (integer result)) ∧
    (result.toInt = a.toInt * b →
      Term.applyBinary .multiply (.number (integer a)) (.number (float x)) = .number (integer result) ∧
      Term.applyBinary .multiply (.number (float x)) (.number (integer a)) = .number (integer result)) := by
  rcases Decimal.exists_isWhole_of_toInt? integral small with ⟨y, converted, whole⟩
  have room : result.toInt.natAbs < Decimal.mantissaBound := by
    have above := result.toInt_lt
    have below := result.le_toInt
    unfold Decimal.mantissaBound
    omega
  have operand := Decimal.IsWhole.ofInt a.toInt
  refine ⟨fun sum => ?_, fun difference => ?_, fun difference => ?_, fun product => ?_⟩
  · have room' : (b + a.toInt).natAbs < Decimal.mantissaBound := by rwa [Int.add_comm, ← sum]
    rw [sum] at room
    rcases operand.add whole room with ⟨z, added, exact⟩
    rcases whole.add operand room' with ⟨z', added', exact'⟩
    rw [Int.add_comm, ← sum] at exact'
    rw [← sum] at exact
    exact ⟨congrArg Term.ofNumeric? (combine?_integer_float converted added exact),
      congrArg Term.ofNumeric? (combine?_float_integer converted added' exact')⟩
  · rw [difference] at room
    rcases operand.sub whole room with ⟨z, subtracted, exact⟩
    rw [← difference] at exact
    exact congrArg Term.ofNumeric? (combine?_integer_float converted subtracted exact)
  · rw [difference] at room
    rcases whole.sub operand room with ⟨z, subtracted, exact⟩
    rw [← difference] at exact
    exact congrArg Term.ofNumeric? (combine?_float_integer converted subtracted exact)
  · have room' : (b * a.toInt).natAbs < Decimal.mantissaBound := by rwa [Int.mul_comm, ← product]
    rw [product] at room
    rcases operand.mul whole room with ⟨z, multiplied, exact⟩
    rcases whole.mul operand room' with ⟨z', multiplied', exact'⟩
    rw [Int.mul_comm, ← product] at exact'
    rw [← product] at exact
    exact ⟨congrArg Term.ofNumeric? (combine?_integer_float converted multiplied exact),
      congrArg Term.ofNumeric? (combine?_float_integer converted multiplied' exact')⟩

/-- The floating-point number `2 ^ 53` is taken from an integer that double precision cannot hold. -/
theorem mixed_arithmetic_exact_aboveTwoPow53 :
    (Binary64.finite false 0x4340000000000000).toInt? = some 9007199254740992 ∧
      Term.applyBinary .subtract (.number (integer 18014398509481985)) (.number (float (.finite false 0x4340000000000000))) =
        .number (integer 9007199254740993) := by
  have integral : (Binary64.finite false 0x4340000000000000).toInt? = some 9007199254740992 := by decide +kernel
  exact ⟨integral, (mixed_arithmetic_exact 18014398509481985 integral (by decide) 9007199254740993).2.1 (by decide)⟩

end Numeric

end TreePath

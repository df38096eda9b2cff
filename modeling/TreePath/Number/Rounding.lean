/-!
# Rounding a quotient

A quotient of natural numbers is rounded to the nearest natural number. Of two equally near ones the
even one is taken, or, for `roundHalfUp`, the larger one.
-/

namespace TreePath

-- Powers and sums within the namespace mean the same next to a library with classes of its own for them. The instances
-- leave other namespaces alone; exponents that are numerals are written with their type.
scoped instance (priority := 1100) naturalPower {α : Type} [NatPow α] : Pow α Nat := instPowNat

scoped instance (priority := 1100) naturalZero : Zero Nat := ⟨0⟩

/-- The natural number nearest to a quotient; a half goes to the even neighbour. -/
def roundHalfEven (numerator denominator : Nat) : Nat :=
  let quotient := numerator / denominator
  let twice := 2 * (numerator % denominator)
  if denominator < twice ∨ (twice = denominator ∧ quotient % 2 = 1) then quotient + 1 else quotient

/-- The natural number nearest to a quotient; a half goes up. -/
def roundHalfUp (numerator denominator : Nat) : Nat :=
  (2 * numerator + denominator) / (2 * denominator)

/-- A quotient without a remainder is its own rounding. -/
theorem roundHalfEven_mul (value : Nat) {denominator : Nat} (positive : 0 < denominator) :
    roundHalfEven (value * denominator) denominator = value := by
  simp only [roundHalfEven, Nat.mul_mod_left, Nat.mul_div_cancel _ positive]
  rw [if_neg]
  omega

theorem roundHalfEven_le (numerator denominator : Nat) :
    roundHalfEven numerator denominator ≤ numerator / denominator + 1 := by
  simp only [roundHalfEven]
  split <;> omega

theorem div_le_roundHalfEven (numerator denominator : Nat) :
    numerator / denominator ≤ roundHalfEven numerator denominator := by
  simp only [roundHalfEven]
  split <;> omega

end TreePath

import TreePath.Proofs.Number.Bounds

/-!
# Arithmetic stays finite

A decimal that the operations make has a mantissa below `2 ^ 97`, and the detour from there to a floating-point number
multiplies by no more than `2 ^ 94` on the way, so that it stays far below the largest finite number. All other results are
refused where they are not finite. So no operation on two numbers yields an infinity or not-a-number, whatever the
numbers are.
-/

namespace TreePath

namespace Decimal

open Binary64 (UpTo)

/-- The mantissa of a decimal is below a limit, and its scale is not above the largest one. -/
structure IsBelow (limit : Nat) (x : Decimal) : Prop where
  mantissa_lt : x.mantissa < limit
  scale_le : x.scale ≤ scaleBound

theorem IsBelow.mono {limit limit' : Nat} {x : Decimal} (below : IsBelow limit x) (le : limit ≤ limit') :
    IsBelow limit' x :=
  ⟨Nat.lt_of_lt_of_le below.mantissa_lt le, below.scale_le⟩

/-- The number near a decimal is finite. -/
theorem isFinite_toBinary64 {x : Decimal} (below : IsBelow (2 ^ (97 : Nat)) x) : x.toBinary64.isFinite = true := by
  rcases exists_ofInt_tenPow below.scale_le with ⟨code, isPower, large, moderate⟩
  have part {value : Nat} (le : value ≤ x.mantissa) : UpTo 97 (.ofInt value) :=
    Binary64.upTo_ofInt (by decide) (Nat.le_trans le (Nat.le_of_lt below.mantissa_lt))
  have whole := part (Nat.div_le_self x.mantissa (10 ^ x.scale))
  have fraction := (part (Nat.mod_le x.mantissa (10 ^ x.scale))).div (by decide) large false
  have tens : UpTo 94 (.finite false code) := .finite false code moderate
  rw [toBinary64]
  simp only [isPower]
  split
  · exact ((part (Nat.le_refl _)).withSign _).isFinite
  · split
    · exact (whole.withSign _).isFinite
    · -- the parts stay below 2 ^ 97 and so their sum below 2 ^ 98, which the power of ten takes to 2 ^ 192 at most
      have sum := whole.add fraction (by decide)
      have rounded := (sum.mul tens (by decide)).round (by decide)
      exact ((rounded.div (by decide) large false).withSign _).isFinite

/-! ## Conversion -/

theorem isBelow_ofInt64 (n : Int64) : IsBelow mantissaBound (ofInt n.toInt) where
  mantissa_lt := by
    have above := n.toInt_lt
    have below := n.le_toInt
    simp only [ofInt, mantissaBound]
    omega
  scale_le := Nat.zero_le _

theorem useNegativePowers_lt {count mantissa : Nat} (small : mantissa < mantissaBound) (exponent : Int) :
    (useNegativePowers count mantissa exponent).1 < mantissaBound := by
  induction count generalizing mantissa exponent with
  | zero => exact small
  | succ count ih =>
      rw [useNegativePowers]
      split
      · exact ih (by omega) _
      · split
        · rename_i room
          exact ih room _
        · exact ih (by omega) _

theorem multiplyTens_lt {tens mantissa value : Nat} (small : mantissa < mantissaBound)
    (result : multiplyTens tens mantissa = some value) : value < mantissaBound := by
  induction tens generalizing mantissa with
  | zero =>
      rcases Option.some.inj result with rfl
      exact small
  | succ tens ih =>
      rw [multiplyTens] at result
      split at result
      · rename_i room
        exact ih room result
      · cases result

theorem dropBelowScale_le {count mantissa value : Nat} (result : dropBelowScale count mantissa = some value) :
    value ≤ mantissa := by
  induction count generalizing mantissa with
  | zero => exact Nat.le_of_eq (Option.some.inj result).symm
  | succ count ih =>
      rw [dropBelowScale] at result
      split at result
      · cases result
      · apply Nat.le_trans (ih result)
        split <;> omega

theorem dropBelowPrecision_le (scale mantissa : Nat) : (dropBelowPrecision scale mantissa).1 ≤ mantissa := by
  induction scale generalizing mantissa with
  | zero => exact Nat.le_refl _
  | succ scale ih =>
      rw [dropBelowPrecision]
      split
      · exact Nat.le_refl _
      · apply Nat.le_trans (ih _)
        split <;> omega

theorem dropZeros_le (scale mantissa : Nat) : (dropZeros scale mantissa).1 ≤ mantissa := by
  induction scale generalizing mantissa with
  | zero => exact Nat.le_refl _
  | succ scale ih =>
      rw [dropZeros]
      split
      · exact Nat.le_trans (ih _) (Nat.div_le_self _ _)
      · exact Nat.le_refl _

theorem mantissa_lt_of_ofTens {negative : Bool} {mantissa : Nat} {exponent : Int} {x : Decimal}
    (small : mantissa < mantissaBound) (result : ofTens negative mantissa exponent = some x) :
    x.mantissa < mantissaBound := by
  cases exponent with
  | ofNat tens =>
      rcases Option.map_eq_some_iff.1 result with ⟨value, multiplied, rfl⟩
      exact multiplyTens_lt small multiplied
  | negSucc scale =>
      rcases kept : dropBelowScale (scale + 1 - scaleBound) mantissa with _ | value
      · rcases Option.some.inj ((ofTens_negSucc_of_none kept).symm.trans result) with rfl
        exact Nat.two_pow_pos 96
      · rcases Option.some.inj ((ofTens_negSucc_of_some kept).symm.trans result) with rfl
        apply Nat.lt_of_le_of_lt _ small
        exact Nat.le_trans (dropZeros_le _ _) (Nat.le_trans (dropBelowPrecision_le _ _) (dropBelowScale_le kept))

theorem mantissa_lt_of_ofBinary64? {x : Binary64} {y : Decimal} (converted : ofBinary64? x = some y) :
    y.mantissa < mantissaBound := by
  rcases x with _ | negative | ⟨negative, code⟩
  · cases converted
  · cases converted
  · have small : Binary64.significand code.val < mantissaBound :=
      Nat.lt_trans (Binary64.significand_lt code.val) (by decide)
    by_cases zero : code.val = 0
    · rcases Option.some.inj ((ofBinary64?_of_eq_zero zero).symm.trans converted) with rfl
      exact Nat.two_pow_pos 96
    · rcases Nat.lt_or_ge (Binary64.elevation code.val) 1074 with below | above
      · rcases Nat.exists_eq_add_of_lt below with ⟨count, below⟩
        rw [ofBinary64?_of_lt zero below.symm] at converted
        exact mantissa_lt_of_ofTens (useNegativePowers_lt small _) converted
      · rcases Nat.exists_eq_add_of_le above with ⟨power, above⟩
        rw [ofBinary64?_of_le zero above] at converted
        split at converted
        · rename_i room
          rcases Option.some.inj converted with rfl
          exact room
        · cases converted

theorem isBelow_of_ofBinary64? {x : Binary64} {y : Decimal} (converted : ofBinary64? x = some y) :
    IsBelow mantissaBound y :=
  ⟨mantissa_lt_of_ofBinary64? converted, scale_le_of_ofBinary64? converted⟩

/-! ## Sums and products -/

theorem isBelow_zero : IsBelow mantissaBound ⟨false, 0, 0⟩ where
  mantissa_lt := Nat.two_pow_pos 96
  scale_le := Nat.zero_le _

theorem isBelow_of_fit? {negative : Bool} {value scale : Nat} {x : Decimal} (fits : fit? negative value scale = some x) :
    IsBelow mantissaBound x := by
  rcases List.exists_of_findSome?_eq_some fits with ⟨dropped, -, attempt⟩
  simp only at attempt
  split at attempt
  · rename_i within
    rcases Option.some.inj attempt with rfl
    exact ⟨within.1, within.2⟩
  · cases attempt

variable {x y z : Decimal}

theorem IsBelow.add? (left : IsBelow mantissaBound x) (right : IsBelow mantissaBound y) (added : x.add? y = some z) :
    IsBelow mantissaBound z := by
  unfold Decimal.add? at added
  split at added
  · rcases Option.some.inj added with rfl
    exact right
  · split at added
    · rcases Option.some.inj added with rfl
      exact left
    · exact isBelow_of_fit? added

theorem IsBelow.sub? (left : IsBelow mantissaBound x) (right : IsBelow mantissaBound y)
    (subtracted : x.sub? y = some z) : IsBelow mantissaBound z := by
  unfold Decimal.sub? at subtracted
  split at subtracted
  · rcases Option.some.inj subtracted with rfl
    exact left
  · have negated : IsBelow mantissaBound y.neg := ⟨right.mantissa_lt, right.scale_le⟩
    exact left.add? negated subtracted

theorem isBelow_of_mul? (multiplied : x.mul? y = some z) : IsBelow mantissaBound z := by
  unfold mul? at multiplied
  split at multiplied
  · rcases Option.some.inj multiplied with rfl
    exact isBelow_zero
  · split at multiplied
    · rcases Option.some.inj multiplied with rfl
      exact isBelow_zero
    · exact isBelow_of_fit? multiplied

/-! ## Quotients -/

theorem roomFor_le (quotient limit : Nat) : roomFor quotient limit ≤ limit := by
  induction limit with
  | zero => exact Nat.le_refl _
  | succ limit ih =>
      rw [roomFor]
      split
      · exact Nat.le_refl _
      · exact Nat.le_succ_of_le ih

theorem mul_roomFor_lt {quotient limit : Nat} (room : roomFor quotient limit ≠ 0) :
    quotient * 10 ^ roomFor quotient limit < mantissaBound := by
  induction limit with
  | zero => exact absurd rfl room
  | succ limit ih =>
      rw [roomFor] at room ⊢
      split
      · rename_i fits
        exact fits
      · rename_i full
        rw [if_neg full] at room
        exact ih room

/-- The new digits of a quotient are fewer than the places that were made for them. -/
theorem digits_lt {divisor remainder power : Nat} (proper : remainder < divisor) (few : power ≤ 9) :
    remainder * 10 ^ power / divisor < 10 ^ (9 : Nat) := by
  have places : 10 ^ power ≤ 10 ^ (9 : Nat) := Nat.pow_le_pow_right (by decide) few
  apply Nat.lt_of_lt_of_le _ places
  apply Nat.div_lt_of_lt_mul
  exact Nat.mul_lt_mul_of_pos_right proper (Nat.pow_pos (by decide))

/--
A round of long division makes places only where there is room for them, so digits exceed the bound of mantissas at most
by those that were brought down last.
-/
theorem divideOn_le {divisor rounds quotient remainder : Nat} {scale : Int} {inexact : Bool} {result : Nat × Nat × Bool}
    (small : quotient < mantissaBound + 10 ^ (9 : Nat)) (proper : remainder < divisor) (within : scale ≤ scaleBound)
    (divided : divideOn divisor rounds quotient remainder scale inexact = some result) :
    result.1 ≤ mantissaBound + 10 ^ (9 : Nat) ∧ result.2.1 ≤ scaleBound := by
  induction rounds generalizing quotient remainder scale inexact with
  | zero => cases divided
  | succ rounds ih =>
      unfold scaleBound at within
      rw [divideOn] at divided
      split at divided
      · -- nothing is left to divide, and a negative scale is brought up by zeros, for which there must be room
        rename_i exact
        split at divided
        · rcases Option.some.inj divided with rfl
          exact ⟨Nat.le_of_lt small, by simp only [scaleBound]; omega⟩
        · simp only at divided
          split at divided
          · rename_i fits
            apply ih (Nat.lt_add_right _ fits) (exact ▸ proper) _ divided
            unfold scaleBound
            omega
          · cases divided
      · simp only at divided
        split at divided
        · -- no place is left, so the last digit is rounded
          split at divided
          · cases divided
          · rcases Option.some.inj divided with rfl
            refine ⟨?_, by simp only [scaleBound]; omega⟩
            simp only
            split <;> omega
        · -- the quotient is below the bound once there are new places in it, before they are filled
          rename_i room
          have few := roomFor_le quotient (min 9 (28 - scale).toNat)
          have fits := mul_roomFor_lt room
          apply ih _ (Nat.mod_lt _ (by omega)) _ divided
          · exact Nat.add_lt_add fits (digits_lt proper (by omega))
          · unfold scaleBound
            omega

theorem stripEights_le (rounds quotient scale : Nat) :
    (stripEights rounds quotient scale).1 ≤ quotient ∧ (stripEights rounds quotient scale).2 ≤ scale := by
  induction rounds generalizing quotient scale with
  | zero => simp [stripEights]
  | succ rounds ih =>
      rw [stripEights]
      split
      · have stripped := ih (quotient / 10 ^ (8 : Nat)) (scale - 8)
        exact ⟨Nat.le_trans stripped.1 (Nat.div_le_self _ _), Nat.le_trans stripped.2 (Nat.sub_le _ _)⟩
      · simp

theorem stripZeros_le (count : Nat) (quotient : Nat × Nat) :
    (stripZeros count quotient).1 ≤ quotient.1 ∧ (stripZeros count quotient).2 ≤ quotient.2 := by
  rw [stripZeros]
  split
  · exact ⟨Nat.div_le_self _ _, Nat.sub_le _ _⟩
  · simp

/-- A quotient may exceed the bound of mantissas by its last digits. -/
theorem IsBelow.div? (left : IsBelow mantissaBound x) (divided : x.div? y = some z) : IsBelow (2 ^ (97 : Nat)) z := by
  have bound : mantissaBound ≤ 2 ^ (97 : Nat) := by decide
  unfold Decimal.div? at divided
  split at divided
  · cases divided
  · rename_i present
    split at divided
    · rcases Option.some.inj divided with rfl
      exact isBelow_zero.mono bound
    · have small : x.mantissa / y.mantissa < mantissaBound + 10 ^ (9 : Nat) :=
        Nat.lt_of_le_of_lt (Nat.div_le_self _ _) (Nat.lt_add_right _ left.mantissa_lt)
      have within : (x.scale : Int) - y.scale ≤ scaleBound := by
        have scale := left.scale_le
        omega
      have proper := Nat.mod_lt x.mantissa (Nat.pos_of_ne_zero present)
      split at divided
      · cases divided
      · rename_i quotient scale inexact result
        have bounds := divideOn_le small proper within result
        unfold mantissaBound at bounds
        cases inexact with
        | false =>
            rcases Option.some.inj divided with rfl
            exact ⟨by simp only; omega, bounds.2⟩
        | true =>
            have eights := stripEights_le 4 quotient scale
            have fours := stripZeros_le 4 (stripEights 4 quotient scale)
            have twos := stripZeros_le 2 (stripZeros 4 (stripEights 4 quotient scale))
            have ones := stripZeros_le 1 (stripZeros 2 (stripZeros 4 (stripEights 4 quotient scale)))
            simp only [if_true] at divided
            generalize stripZeros 1 (stripZeros 2 (stripZeros 4 (stripEights 4 quotient scale))) = stripped at ones divided
            rcases Option.some.inj divided with rfl
            constructor <;> simp only at bounds ⊢ <;> omega

end Decimal

namespace Numeric

/-- A number is neither infinite nor not-a-number. -/
def isFinite : Numeric → Bool
  | integer _ => true
  | float x => x.isFinite

variable {x y result : Numeric}

theorem isFinite_of_ofFloat? {x : Binary64} (kept : ofFloat? x = some result) : result.isFinite = true := by
  unfold ofFloat? at kept
  split at kept
  · rename_i finite
    rcases Option.some.inj kept with rfl
    exact finite
  · cases kept

theorem isFinite_of_ofInt? {value : Int} (kept : ofInt? value = some result) : result.isFinite = true := by
  rcases Option.map_eq_some_iff.1 kept with ⟨n, -, rfl⟩
  rfl

theorem isFinite_ofDecimal {x : Decimal} (below : x.IsBelow (2 ^ (97 : Nat))) : (ofDecimal x).isFinite = true := by
  unfold ofDecimal
  split
  · rfl
  · exact Decimal.isFinite_toBinary64 below

theorem isBelow_of_toDecimal? {decimal : Decimal} (converted : x.toDecimal? = some decimal) :
    decimal.IsBelow Decimal.mantissaBound := by
  cases x with
  | integer n =>
      rcases Option.some.inj converted with rfl
      exact Decimal.isBelow_ofInt64 n
  | float x => exact Decimal.isBelow_of_ofBinary64? converted

/--
Whatever two numbers are combined, the result is finite, if the operation on integers has finite results and
that on decimals has no large ones. For the operation on floating-point numbers nothing is asked.
-/
theorem isFinite_of_combine? {integers : Int64 → Int64 → Option Numeric}
    {decimals : Decimal → Decimal → Option Decimal} {floats : Binary64 → Binary64 → Binary64}
    (integral : ∀ m n number, integers m n = some number → number.isFinite = true)
    (small : ∀ left right number, Decimal.IsBelow Decimal.mantissaBound left →
      Decimal.IsBelow Decimal.mantissaBound right → decimals left right = some number →
        number.IsBelow (2 ^ (97 : Nat)))
    (combined : combine? integers decimals floats x y = some result) : result.isFinite = true := by
  unfold combine? at combined
  split at combined
  · exact integral _ _ _ combined
  · exact isFinite_of_ofFloat? combined
  · split at combined
    · rename_i left right toLeft toRight
      split at combined
      · rename_i number computed
        rcases Option.some.inj combined with rfl
        exact isFinite_ofDecimal (small _ _ _ (isBelow_of_toDecimal? toLeft) (isBelow_of_toDecimal? toRight) computed)
      · exact isFinite_of_ofFloat? combined
    · exact isFinite_of_ofFloat? combined

theorem isFinite_of_add? (added : x.add? y = some result) : result.isFinite = true :=
  isFinite_of_combine? (fun _ _ _ => isFinite_of_ofInt?) (fun _ _ _ left right computed =>
    (left.add? right computed).mono (by decide)) added

theorem isFinite_of_sub? (subtracted : x.sub? y = some result) : result.isFinite = true :=
  isFinite_of_combine? (fun _ _ _ => isFinite_of_ofInt?) (fun _ _ _ left right computed =>
    (left.sub? right computed).mono (by decide)) subtracted

theorem isFinite_of_mul? (multiplied : x.mul? y = some result) : result.isFinite = true :=
  isFinite_of_combine? (fun _ _ _ => isFinite_of_ofInt?) (fun _ _ _ _ _ computed =>
    (Decimal.isBelow_of_mul? computed).mono (by decide)) multiplied

theorem isFinite_of_divIntegers? {m n : Int64} (divided : divIntegers? m n = some result) : result.isFinite = true := by
  unfold divIntegers? at divided
  split at divided
  · cases divided
  · split at divided
    · exact isFinite_of_ofInt? divided
    · exact isFinite_of_ofFloat? divided

theorem isFinite_of_div? (divided : x.div? y = some result) : result.isFinite = true :=
  isFinite_of_combine? (fun _ _ _ => isFinite_of_divIntegers?) (fun _ _ _ left _ computed => left.div? computed) divided

end Numeric

end TreePath

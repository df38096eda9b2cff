import TreePath.Proofs.Number.Comparison

/-!
# Double-precision numbers as decimals

A magnitude is a significand times a power of two. To become a decimal it gives up its powers of two one by one, and then the
digits that have no room. Powers of two in the denominator turn into digits without loss as long as the mantissa has room
for another factor of five, and with little loss afterwards; so the decimal is zero only if the magnitude is hardly above
or below the smallest positive decimal.
-/

namespace TreePath

namespace Binary64

/-- The binary digits of a magnitude, at most 53. -/
def significand (code : Nat) : Nat :=
  if code / 2 ^ (52 : Nat) = 0 then code % 2 ^ (52 : Nat) else 2 ^ (52 : Nat) + code % 2 ^ (52 : Nat)

/-- The number of places by which the digits of a magnitude lie above the unit. -/
def elevation (code : Nat) : Nat :=
  code / 2 ^ (52 : Nat) - 1

theorem magnitude_eq_significand_mul (code : Nat) : magnitude code = significand code * 2 ^ elevation code := by
  simp only [magnitude, significand, elevation]
  split
  · rename_i small
    rw [small, Nat.zero_sub, Nat.pow_zero, Nat.mul_one]
  · rfl

theorem significand_lt (code : Nat) : significand code < 2 ^ (53 : Nat) := by
  unfold significand
  split <;> omega

theorem significand_pos {code : Nat} (positive : code ≠ 0) : 0 < significand code := by
  unfold significand
  split <;> omega

end Binary64

namespace Decimal

open Binary64 (significand elevation magnitude unitsPerOne)

variable {negative : Bool} {code : Fin 0x7FF0000000000000}

/-! ## The parts of the conversion -/

theorem ofBinary64?_of_eq_zero (zero : code.val = 0) : ofBinary64? (.finite negative code) = some ⟨false, 0, 0⟩ := by
  rw [ofBinary64?, if_pos zero]

/-- A number with digits below one: the powers of two in the denominator are used up, and digits follow the point. -/
theorem ofBinary64?_of_lt (positive : code.val ≠ 0) {count : Nat} (below : elevation code.val + (count + 1) = 1074) :
    ofBinary64? (.finite negative code) =
      ofTens negative (useNegativePowers (count + 1) (significand code) (.negSucc count)).1
        (useNegativePowers (count + 1) (significand code) (.negSucc count)).2 := by
  have exponent : ((if code.val / 2 ^ (52 : Nat) = 0 then 1 else code.val / 2 ^ (52 : Nat) : Nat) : Int) - 1075 =
      .negSucc count := by
    rw [Int.negSucc_eq]
    unfold elevation at below
    split <;> omega
  simp only [ofBinary64?, if_neg positive, exponent]
  rfl

/-- As long as there are as many tens as factors of two, the mantissa takes all the factors or there is no room for them. -/
theorem usePositivePowers_self {mantissa : Nat} (positive : mantissa ≠ 0) (small : mantissa < mantissaBound)
    (power : Nat) :
    usePositivePowers power mantissa power =
      if mantissa * 2 ^ power < mantissaBound then some (mantissa * 2 ^ power, 0) else none := by
  induction power generalizing mantissa with
  | zero =>
      rw [Nat.pow_zero, Nat.mul_one, if_pos small]
      rfl
  | succ power ih =>
      have doubled : mantissa * 2 ^ (power + 1) = 2 * mantissa * 2 ^ power := by ring
      rw [usePositivePowers, doubled]
      split
      · have tens : ((power + 1 : Nat) : Int) - 1 = power := by omega
        rw [tens]
        exact ih (by omega) (by unfold mantissaBound; omega)
      · have large : mantissaBound ≤ 2 * mantissa * 2 ^ power := by
          apply Nat.le_trans _ (Nat.le_mul_of_pos_right _ (Nat.two_pow_pos power))
          unfold mantissaBound
          omega
        rw [if_pos (by omega), if_neg (Nat.not_lt.2 large)]

/-- A number without digits below one is its own decimal, unless it is too large for one. -/
theorem ofBinary64?_of_le (positive : code.val ≠ 0) {power : Nat} (above : elevation code.val = 1074 + power) :
    ofBinary64? (.finite negative code) =
      if significand code.val * 2 ^ power < mantissaBound then some ⟨negative, significand code.val * 2 ^ power, 0⟩
      else none := by
  have exponent : ((if code.val / 2 ^ (52 : Nat) = 0 then 1 else code.val / 2 ^ (52 : Nat) : Nat) : Int) - 1075 =
      .ofNat power := by
    rw [Int.ofNat_eq_natCast]
    unfold elevation at above
    split <;> omega
  have small : significand code.val < mantissaBound := Nat.lt_trans (Binary64.significand_lt code.val) (by decide)
  simp only [ofBinary64?, if_neg positive, exponent]
  rw [← significand, usePositivePowers_self (Nat.ne_of_gt (Binary64.significand_pos positive)) small]
  by_cases room : significand code.val * 2 ^ power < mantissaBound
  · rw [if_pos room, if_pos room]
    rfl
  · rw [if_neg room, if_neg room]

/-! ## Powers of two in the denominator -/

/-- A mantissa that has all the factors of two loses nothing. -/
theorem useNegativePowers_mul (value count : Nat) (exponent : Int) :
    useNegativePowers count (value * 2 ^ count) exponent = (value, exponent + count) := by
  induction count generalizing exponent with
  | zero => simp [useNegativePowers]
  | succ count ih =>
      have even : value * 2 ^ (count + 1) = 2 * (value * 2 ^ count) := by ring
      have half : 2 * (value * 2 ^ count) / 2 = value * 2 ^ count := Nat.mul_div_cancel_left _ Nat.two_pos
      rw [useNegativePowers, even, if_pos (Nat.mul_mod_right 2 _), half, ih, Nat.cast_succ]
      ring_nf

/--
Using up a number of powers of two has left a mantissa, and was a halving so many times. Every power that was no halving has
given the mantissa a factor of five. A mantissa that is halved without being even is above `2 ^ 93`, which bounds the loss.
-/
structure Spends (count mantissa left halved : Nat) : Prop where
  halved_le : halved ≤ count
  le : left * 10 ^ halved ≤ mantissa * 5 ^ count
  ge : (2 ^ (93 : Nat) - count) * (mantissa * 5 ^ count) ≤ 2 ^ (93 : Nat) * (left * 10 ^ halved)

namespace Spends

variable {count mantissa left halved : Nat}

theorem five (spends : Spends count (5 * mantissa) left halved) : Spends (count + 1) mantissa left halved where
  halved_le := Nat.le_succ_of_le spends.halved_le
  le := by
    calc left * 10 ^ halved ≤ 5 * mantissa * 5 ^ count := spends.le
      _ = mantissa * 5 ^ (count + 1) := by ring
  ge := by
    calc (2 ^ (93 : Nat) - (count + 1)) * (mantissa * 5 ^ (count + 1))
        ≤ (2 ^ (93 : Nat) - count) * (mantissa * 5 ^ (count + 1)) := Nat.mul_le_mul_right _ (by omega)
      _ = (2 ^ (93 : Nat) - count) * (5 * mantissa * 5 ^ count) := by ring
      _ ≤ 2 ^ (93 : Nat) * (left * 10 ^ halved) := spends.ge

/-- Of a mantissa that is not even, half is lost of one unit, so the mantissa has to be large. -/
theorem half (spends : Spends count (mantissa / 2) left halved)
    (room : mantissa % 2 = 0 ∨ 2 ^ (93 : Nat) ≤ mantissa) :
    Spends (count + 1) mantissa left (halved + 1) where
  halved_le := Nat.succ_le_succ spends.halved_le
  le := by
    calc left * 10 ^ (halved + 1) = 10 * (left * 10 ^ halved) := by ring
      _ ≤ 10 * (mantissa / 2 * 5 ^ count) := Nat.mul_le_mul_left 10 spends.le
      _ = 2 * (mantissa / 2) * 5 ^ (count + 1) := by ring
      _ ≤ mantissa * 5 ^ (count + 1) := Nat.mul_le_mul_right _ (by omega)
  ge := by
    have kept : (2 ^ (93 : Nat) - (count + 1)) * mantissa ≤ (2 ^ (93 : Nat) - count) * (2 * (mantissa / 2)) := by
      rcases room with even | large
      · rw [Nat.mul_div_cancel' (Nat.dvd_of_mod_eq_zero even)]
        exact Nat.mul_le_mul_right _ (by omega)
      · rcases Nat.eq_zero_or_pos (2 ^ (93 : Nat) - count) with spent | some
        · rw [spent, Nat.sub_add_eq, spent, Nat.zero_sub, Nat.zero_mul]
          exact Nat.zero_le _
        · have expanded : (2 ^ (93 : Nat) - count) * mantissa =
              (2 ^ (93 : Nat) - (count + 1)) * mantissa + mantissa := by
            rw [← Nat.succ_mul]
            congr 1
            omega
          have odd : (2 ^ (93 : Nat) - count) * mantissa ≤
              (2 ^ (93 : Nat) - count) * (2 * (mantissa / 2)) + (2 ^ (93 : Nat) - count) := by
            rw [← Nat.mul_succ]
            exact Nat.mul_le_mul_left _ (by omega)
          omega
    calc (2 ^ (93 : Nat) - (count + 1)) * (mantissa * 5 ^ (count + 1))
        = (2 ^ (93 : Nat) - (count + 1)) * mantissa * 5 ^ (count + 1) := by ring
      _ ≤ (2 ^ (93 : Nat) - count) * (2 * (mantissa / 2)) * 5 ^ (count + 1) := Nat.mul_le_mul_right _ kept
      _ = 10 * ((2 ^ (93 : Nat) - count) * (mantissa / 2 * 5 ^ count)) := by ring
      _ ≤ 10 * (2 ^ (93 : Nat) * (left * 10 ^ halved)) := Nat.mul_le_mul_left 10 spends.ge
      _ = 2 ^ (93 : Nat) * (left * 10 ^ (halved + 1)) := by ring

end Spends

theorem useNegativePowers_spends (count mantissa : Nat) (exponent : Int) :
    ∃ left halved : Nat, useNegativePowers count mantissa exponent = (left, exponent + halved) ∧
      Spends count mantissa left halved := by
  induction count generalizing mantissa exponent with
  | zero => exact ⟨mantissa, 0, by simp [useNegativePowers], by omega, by omega, by omega⟩
  | succ count ih =>
      have halve (room : mantissa % 2 = 0 ∨ 2 ^ (93 : Nat) ≤ mantissa) :
          ∃ left halved : Nat, useNegativePowers count (mantissa / 2) (exponent + 1) = (left, exponent + halved) ∧
            Spends (count + 1) mantissa left halved := by
        rcases ih (mantissa / 2) (exponent + 1) with ⟨left, halved, result, spends⟩
        refine ⟨left, halved + 1, ?_, spends.half room⟩
        rw [result, Nat.cast_succ, Int.add_right_comm, ← Int.add_assoc]
      rw [useNegativePowers]
      split
      · rename_i even
        exact halve (.inl even)
      · split
        · rcases ih (5 * mantissa) exponent with ⟨left, halved, result, spends⟩
          exact ⟨left, halved, result, spends.five⟩
        · rename_i full
          unfold mantissaBound at full
          exact halve (.inr (by omega))

/-! ## Digits without room -/

/-- The smallest mantissa of which something is left when a number of digits is dropped. -/
def leastKept : Nat → Nat
  | 0 => 0
  | 1 => 10
  | count + 2 => 10 * leastKept (count + 1) - 5

theorem nine_mul_leastKept (count : Nat) : 9 * leastKept (count + 1) = 85 * 10 ^ count + 5 := by
  induction count with
  | zero => rfl
  | succ count ih =>
      rw [leastKept, Nat.pow_succ]
      omega

theorem dropBelowScale_eq_none {count mantissa : Nat} :
    dropBelowScale count mantissa = none ↔ mantissa < leastKept count := by
  induction count generalizing mantissa with
  | zero => simp [dropBelowScale, leastKept]
  | succ count ih =>
      have least := nine_mul_leastKept count
      have power : 0 < 10 ^ count := Nat.pow_pos (by decide)
      rw [dropBelowScale]
      split
      · simp only [true_iff]
        omega
      · rw [ih]
        cases count with
        | zero =>
            simp only [leastKept]
            omega
        | succ count =>
            rw [leastKept]
            split <;> omega

theorem dropBelowScale_eq_zero {count mantissa value : Nat} (result : dropBelowScale count mantissa = some value) :
    value = 0 ↔ mantissa = 0 := by
  induction count generalizing mantissa with
  | zero =>
      rcases Option.some.inj result with rfl
      rfl
  | succ count ih =>
      rw [dropBelowScale] at result
      split at result
      · cases result
      · rw [ih result]
        split <;> omega

theorem dropBelowPrecision_spec (scale mantissa : Nat) :
    (dropBelowPrecision scale mantissa).2 ≤ scale ∧ ((dropBelowPrecision scale mantissa).1 = 0 ↔ mantissa = 0) := by
  induction scale generalizing mantissa with
  | zero => simp [dropBelowPrecision]
  | succ scale ih =>
      rw [dropBelowPrecision]
      split
      · simp
      · rename_i large
        have ⟨within, zero⟩ := ih (if mantissa % 10 ≥ 5 then mantissa / 10 + 1 else mantissa / 10)
        refine ⟨Nat.le_succ_of_le within, ?_⟩
        rw [zero]
        split <;> omega

theorem dropZeros_spec (scale mantissa : Nat) :
    (dropZeros scale mantissa).2 ≤ scale ∧ ((dropZeros scale mantissa).1 = 0 ↔ mantissa = 0) := by
  induction scale generalizing mantissa with
  | zero => simp [dropZeros]
  | succ scale ih =>
      rw [dropZeros]
      split
      · have ⟨within, zero⟩ := ih (mantissa / 10)
        refine ⟨Nat.le_succ_of_le within, ?_⟩
        rw [zero]
        omega
      · simp

theorem ofTens_negSucc_of_none {mantissa scale : Nat} (gone : dropBelowScale (scale + 1 - scaleBound) mantissa = none) :
    ofTens negative mantissa (.negSucc scale) = some ⟨negative, 0, 0⟩ := by
  unfold ofTens
  simp only
  rw [gone]

theorem ofTens_negSucc_of_some {mantissa scale value : Nat}
    (kept : dropBelowScale (scale + 1 - scaleBound) mantissa = some value) :
    ofTens negative mantissa (.negSucc scale) =
      let precise := dropBelowPrecision (scale + 1 - (scale + 1 - scaleBound)) value
      some ⟨negative, (dropZeros precise.2 precise.1).1, (dropZeros precise.2 precise.1).2⟩ := by
  unfold ofTens
  simp only
  rw [kept]

/-- Digits after the point: there is a decimal, and it is zero if nothing is left of the digits. -/
theorem exists_ofTens_neg (negative : Bool) (mantissa digits : Nat) :
    ∃ x, ofTens negative mantissa (-digits) = some x ∧ x.scale ≤ scaleBound ∧
      (x.mantissa = 0 ↔ mantissa = 0 ∨ mantissa < leastKept (digits - scaleBound)) := by
  cases digits with
  | zero => exact ⟨⟨negative, mantissa, 0⟩, rfl, Nat.zero_le _, by simp [leastKept]⟩
  | succ digits =>
      have exponent : -((digits + 1 : Nat) : Int) = .negSucc digits := rfl
      rw [exponent, ← dropBelowScale_eq_none]
      rcases kept : dropBelowScale (digits + 1 - scaleBound) mantissa with _ | value
      · exact ⟨_, ofTens_negSucc_of_none kept, Nat.zero_le _, by simp⟩
      · have precise := dropBelowPrecision_spec (digits + 1 - (digits + 1 - scaleBound)) value
        refine ⟨_, ofTens_negSucc_of_some kept, ?_, ?_⟩
        · have within := (dropZeros_spec (dropBelowPrecision (digits + 1 - (digits + 1 - scaleBound)) value).2
            (dropBelowPrecision (digits + 1 - (digits + 1 - scaleBound)) value).1).1
          simp only
          omega
        · simp [dropZeros_spec, precise.2, dropBelowScale_eq_zero kept]

/-! ## Which numbers become zero -/

/-- A number with digits below one has a decimal, which is zero if nothing is left of the digits without room. -/
theorem exists_ofBinary64?_of_lt (negative : Bool) (positive : code.val ≠ 0) {count : Nat}
    (below : elevation code.val + (count + 1) = 1074) :
    ∃ x left halved, ofBinary64? (.finite negative code) = some x ∧ x.scale ≤ scaleBound ∧
      Spends (count + 1) (significand code) left halved ∧
      (x.mantissa = 0 ↔ left = 0 ∨ left < leastKept (count + 1 - halved - scaleBound)) := by
  rcases useNegativePowers_spends (count + 1) (significand code) (.negSucc count) with ⟨left, halved, result, spends⟩
  have exponent : Int.negSucc count + halved = -(count + 1 - halved : Nat) := by
    have within := spends.halved_le
    rw [Int.negSucc_eq]
    omega
  rcases exists_ofTens_neg negative left (count + 1 - halved) with ⟨x, tens, within, zero⟩
  refine ⟨x, left, halved, ?_, within, spends, zero⟩
  rw [ofBinary64?_of_lt positive below, result, exponent, tens]

/-- A number without digits below one has a decimal other than zero, if it has one. -/
theorem of_ofBinary64?_of_le (positive : code.val ≠ 0) {power : Nat} (above : elevation code.val = 1074 + power)
    {x : Decimal} (converted : ofBinary64? (.finite negative code) = some x) : x.scale = 0 ∧ x.mantissa ≠ 0 := by
  rw [ofBinary64?_of_le positive above] at converted
  split at converted
  · rcases Option.some.inj converted with rfl
    exact ⟨rfl, Nat.mul_ne_zero (Nat.ne_of_gt (Binary64.significand_pos positive)) (Nat.ne_of_gt (Nat.two_pow_pos power))⟩
  · cases converted

theorem scale_le_of_ofBinary64? {x : Binary64} {y : Decimal} (converted : ofBinary64? x = some y) :
    y.scale ≤ scaleBound := by
  rcases x with _ | negative | ⟨negative, code⟩
  · cases converted
  · cases converted
  · by_cases zero : code.val = 0
    · rcases Option.some.inj ((ofBinary64?_of_eq_zero zero).symm.trans converted) with rfl
      exact Nat.zero_le _
    · rcases Nat.lt_or_ge (elevation code.val) 1074 with below | above
      · rcases Nat.exists_eq_add_of_lt below with ⟨count, below⟩
        rcases exists_ofBinary64?_of_lt negative zero below.symm with ⟨z, _, _, found, within, _⟩
        rcases Option.some.inj (converted.symm.trans found) with rfl
        exact within
      · rcases Nat.exists_eq_add_of_le above with ⟨power, above⟩
        rw [(of_ofBinary64?_of_le zero above converted).1]
        exact Nat.zero_le _

namespace Spends

variable {count mantissa left halved : Nat}

theorem left_pos (spends : Spends count mantissa left halved) (short : count ≤ 1074) (positive : 0 < mantissa) :
    0 < left := by
  apply Nat.pos_of_ne_zero
  rintro rfl
  have nothing := spends.ge
  rw [Nat.zero_mul, Nat.mul_zero, Nat.le_zero_eq, Nat.mul_eq_zero, Nat.mul_eq_zero] at nothing
  have power : 0 < 5 ^ count := Nat.pow_pos (by decide)
  omega

/-- The smallest positive decimal and everything above it keep some digit. -/
theorem leastKept_le (spends : Spends count mantissa left halved) (short : count ≤ 1074)
    (large : 10 ^ count ≤ mantissa * 5 ^ count * 10 ^ scaleBound) : leastKept (count - halved - scaleBound) ≤ left := by
  rcases excess : count - halved - scaleBound with _ | dropped
  · exact Nat.zero_le _
  · have digits : 10 ^ count = 10 ^ halved * 10 ^ (dropped + 1) * 10 ^ scaleBound := by
      rw [← Nat.pow_add, ← Nat.pow_add]
      congr 1
      omega
    have value : 10 ^ halved * 10 ^ (dropped + 1) ≤ mantissa * 5 ^ count := by
      rw [digits] at large
      exact Nat.le_of_mul_le_mul_right large (Nat.pow_pos (by decide))
    have kept : (2 ^ (93 : Nat) - 1074) * 10 ^ (dropped + 1) ≤ 2 ^ (93 : Nat) * left := by
      apply Nat.le_of_mul_le_mul_right _ (Nat.pow_pos (by decide) : 0 < 10 ^ halved)
      calc (2 ^ (93 : Nat) - 1074) * 10 ^ (dropped + 1) * 10 ^ halved
          ≤ (2 ^ (93 : Nat) - count) * 10 ^ (dropped + 1) * 10 ^ halved := by
            exact Nat.mul_le_mul_right _ (Nat.mul_le_mul_right _ (by omega))
        _ = (2 ^ (93 : Nat) - count) * (10 ^ halved * 10 ^ (dropped + 1)) := by ring
        _ ≤ (2 ^ (93 : Nat) - count) * (mantissa * 5 ^ count) := Nat.mul_le_mul_left _ value
        _ ≤ 2 ^ (93 : Nat) * (left * 10 ^ halved) := spends.ge
        _ = 2 ^ (93 : Nat) * left * 10 ^ halved := by ring
    have least := nine_mul_leastKept dropped
    have positive : 0 < 10 ^ dropped := Nat.pow_pos (by decide)
    rw [Nat.pow_succ] at kept
    omega

/-- Clearly below the smallest positive decimal no digit is kept. -/
theorem lt_leastKept (spends : Spends count mantissa left halved)
    (small : 18 * (mantissa * 5 ^ count) * 10 ^ scaleBound < 17 * 10 ^ count) :
    left = 0 ∨ left < leastKept (count - halved - scaleBound) := by
  have value : 18 * left * (10 ^ halved * 10 ^ scaleBound) < 17 * 10 ^ count := by
    calc 18 * left * (10 ^ halved * 10 ^ scaleBound) = 18 * (left * 10 ^ halved) * 10 ^ scaleBound := by ring
      _ ≤ 18 * (mantissa * 5 ^ count) * 10 ^ scaleBound :=
        Nat.mul_le_mul_right _ (Nat.mul_le_mul_left _ spends.le)
      _ < 17 * 10 ^ count := small
  rw [← Nat.pow_add] at value
  have positive : 0 < 10 ^ (halved + scaleBound) := Nat.pow_pos (by decide)
  rcases excess : count - halved - scaleBound with _ | dropped
  · have digits : 10 ^ count ≤ 10 ^ (halved + scaleBound) := Nat.pow_le_pow_right (by decide) (by omega)
    have few : 18 * left < 17 := by
      apply Nat.lt_of_mul_lt_mul_right (a := 10 ^ (halved + scaleBound))
      omega
    exact .inl (by omega)
  · have digits : 10 ^ count = 10 ^ (dropped + 1) * 10 ^ (halved + scaleBound) := by
      rw [← Nat.pow_add]
      congr 1
      omega
    have few : 18 * left < 17 * 10 ^ (dropped + 1) := by
      apply Nat.lt_of_mul_lt_mul_right (a := 10 ^ (halved + scaleBound))
      rw [Nat.mul_assoc 17, ← digits]
      exact value
    have least := nine_mul_leastKept dropped
    rw [Nat.pow_succ] at few
    exact .inr (by omega)

end Spends

/-- A magnitude with digits below one, as a fraction of ten powers. -/
theorem magnitude_mul_ten_pow {count : Nat} (below : elevation code.val + count = 1074) :
    magnitude code.val * 10 ^ count = significand code.val * 5 ^ count * unitsPerOne := by
  rw [Binary64.unitsPerOne_eq below.symm, Binary64.magnitude_eq_significand_mul, Nat.pow_add,
    show 10 = 5 * 2 from rfl, Nat.mul_pow]
  ring

/-- The decimal of a number that is no less than the smallest positive decimal is not zero. -/
theorem mantissa_ne_zero_of_ofBinary64? (large : unitsPerOne ≤ magnitude code.val * 10 ^ scaleBound) {x : Decimal}
    (converted : ofBinary64? (.finite negative code) = some x) : x.mantissa ≠ 0 := by
  have one := Binary64.unitsPerOne_pos
  have positive : code.val ≠ 0 := by
    intro zero
    rw [zero, Binary64.magnitude_eq_significand_mul] at large
    simp [significand] at large
    omega
  rcases Nat.lt_or_ge (elevation code.val) 1074 with below | above
  · rcases Nat.exists_eq_add_of_lt below with ⟨count, below⟩
    rcases exists_ofBinary64?_of_lt negative positive below.symm with
      ⟨y, left, halved, found, _, spends, zero⟩
    rcases Option.some.inj (converted.symm.trans found) with rfl
    have digits := @magnitude_mul_ten_pow code (count + 1) below.symm
    have value : 10 ^ (count + 1) ≤ significand code.val * 5 ^ (count + 1) * 10 ^ scaleBound := by
      apply Nat.le_of_mul_le_mul_right _ one
      calc 10 ^ (count + 1) * unitsPerOne ≤ 10 ^ (count + 1) * (magnitude code.val * 10 ^ scaleBound) :=
            Nat.mul_le_mul_left _ large
        _ = magnitude code.val * 10 ^ (count + 1) * 10 ^ scaleBound := by ring
        _ = significand code.val * 5 ^ (count + 1) * 10 ^ scaleBound * unitsPerOne := by rw [digits]; ring
    have kept := spends.leastKept_le (by omega) value
    have present := spends.left_pos (by omega) (Binary64.significand_pos positive)
    rw [Ne, zero]
    omega
  · rcases Nat.exists_eq_add_of_le above with ⟨power, above⟩
    exact (of_ofBinary64?_of_le positive above converted).2

/-- The decimal of a number that is clearly less than the smallest positive decimal is zero. -/
theorem exists_ofBinary64?_eq_zero (negative : Bool)
    (small : 18 * magnitude code.val * 10 ^ scaleBound < 17 * unitsPerOne) :
    ∃ x, ofBinary64? (.finite negative code) = some x ∧ x.mantissa = 0 := by
  by_cases zero : code.val = 0
  · exact ⟨_, ofBinary64?_of_eq_zero zero, rfl⟩
  · have below : elevation code.val < 1074 := by
      by_contra above
      have ⟨places, units⟩ : ∃ places, 1074 = places := ⟨1074, rfl⟩
      have least : unitsPerOne ≤ magnitude code.val := by
        rw [Binary64.unitsPerOne_eq units, Binary64.magnitude_eq_significand_mul]
        exact Nat.le_trans (Nat.pow_le_pow_right Nat.two_pos (by omega))
          (Nat.le_mul_of_pos_left _ (Binary64.significand_pos zero))
      have power : 1 ≤ 10 ^ scaleBound := by decide
      have more := Nat.mul_le_mul least power
      rw [Nat.mul_assoc] at small
      omega
    rcases Nat.exists_eq_add_of_lt below with ⟨count, below⟩
    rcases exists_ofBinary64?_of_lt negative zero below.symm with
      ⟨x, left, halved, found, _, spends, isZero⟩
    have digits := @magnitude_mul_ten_pow code (count + 1) below.symm
    refine ⟨x, found, isZero.2 (spends.lt_leastKept ?_)⟩
    apply Nat.lt_of_mul_lt_mul_right (a := unitsPerOne)
    calc 18 * (significand code.val * 5 ^ (count + 1)) * 10 ^ scaleBound * unitsPerOne
        = 18 * (significand code.val * 5 ^ (count + 1) * unitsPerOne) * 10 ^ scaleBound := by ring
      _ = 18 * magnitude code.val * 10 ^ scaleBound * 10 ^ (count + 1) := by rw [← digits]; ring
      _ < 17 * unitsPerOne * 10 ^ (count + 1) :=
        Nat.mul_lt_mul_of_pos_right small (Nat.pow_pos (by decide))
      _ = 17 * 10 ^ (count + 1) * unitsPerOne := by ring

end Decimal

end TreePath

import TreePath.Proofs.Number.Conversion

/-!
# Bounds that rounding keeps

A quotient of units that is not below a magnitude is not rounded below it, and the same goes for not above. So
a chain of operations keeps bounds as long as they are magnitudes: `AtLeast` bounds numbers from below, whether they are
finite or not, and `UpTo` bounds finite numbers from above by powers of two.
-/

namespace TreePath

namespace Binary64

theorem magnitude_mono {code code' : Nat} (le : code ≤ code') : magnitude code ≤ magnitude code' := by
  by_contra greater
  have rounded := codeOfRatio_mono (Nat.le_of_lt (Nat.not_le.1 greater)) 1
  rw [codeOfRatio_magnitude, codeOfRatio_magnitude] at rounded
  exact greater (Nat.le_of_eq (congrArg magnitude (Nat.le_antisymm le rounded)))

/-- A magnitude times a number, divided by that number, is rounded to its own code. -/
theorem codeOfRatio_magnitude_mul (code : Nat) {denominator : Nat} (positive : 0 < denominator) :
    codeOfRatio (magnitude code * denominator) denominator = code := by
  have exact := codeOfRatio_scale (magnitude code) 1 positive
  rwa [Nat.one_mul, codeOfRatio_magnitude] at exact

/-- A quotient that is no less than a magnitude is not rounded below it. -/
theorem le_codeOfRatio {code numerator denominator : Nat} (positive : 0 < denominator)
    (le : magnitude code * denominator ≤ numerator) : code ≤ codeOfRatio numerator denominator := by
  have mono := codeOfRatio_mono le denominator
  rwa [codeOfRatio_magnitude_mul code positive] at mono

/-- A quotient that is no more than a magnitude is not rounded above it. -/
theorem codeOfRatio_le {code numerator denominator : Nat} (positive : 0 < denominator)
    (le : numerator ≤ magnitude code * denominator) : codeOfRatio numerator denominator ≤ code := by
  have mono := codeOfRatio_mono le denominator
  rwa [codeOfRatio_magnitude_mul code positive] at mono

/-! ## Bounds from below -/

/-- A number of units that is a magnitude, of whatever size. -/
def IsMagnitude (units : Nat) : Prop :=
  ∃ code, magnitude code = units

theorem isMagnitude_two_pow (exponent : Nat) : IsMagnitude (2 ^ exponent) := by
  rcases Nat.lt_or_ge exponent 52 with small | large
  · refine ⟨2 ^ exponent, ?_⟩
    have below : 2 ^ exponent < 2 ^ (52 : Nat) := Nat.pow_lt_pow_right (by decide) small
    rw [magnitude_eq_significand_mul, significand, elevation, Nat.div_eq_of_lt below, Nat.mod_eq_of_lt below]
    simp
  · refine ⟨(exponent - 51) * 2 ^ (52 : Nat) + 0, ?_⟩
    rw [magnitude_eq (by omega) (by decide), Nat.add_zero, ← Nat.pow_add]
    congr 1
    omega

theorem isMagnitude_unitsPerOne : IsMagnitude unitsPerOne := by
  have ⟨places, units⟩ : ∃ places, 1074 = places := ⟨1074, rfl⟩
  rw [unitsPerOne_eq units]
  exact isMagnitude_two_pow places

theorem exists_half : ∃ half, IsMagnitude half ∧ unitsPerOne = 2 * half := by
  have ⟨places, units⟩ : ∃ places, 1074 = places + 1 := ⟨1073, rfl⟩
  refine ⟨2 ^ places, isMagnitude_two_pow places, ?_⟩
  rw [unitsPerOne_eq units, Nat.pow_succ']

theorem ne_zero_of_magnitude_pos {code : Nat} (positive : 0 < magnitude code) : code ≠ 0 := by
  rintro rfl
  exact Nat.lt_irrefl 0 positive

/-- A number under a sign is infinite or has at least so many units. -/
inductive AtLeast (negative : Bool) (units : Nat) : Binary64 → Prop
  | infinite : AtLeast negative units (infinite negative)
  | finite (code : Fin 0x7FF0000000000000) (enough : units ≤ magnitude code.val) :
      AtLeast negative units (finite negative code)

/-- Rounding keeps every bound that is a magnitude itself. -/
theorem atLeast_ofRatio (negative : Bool) {units numerator denominator : Nat} (representable : IsMagnitude units)
    (positive : 0 < denominator) (le : units * denominator ≤ numerator) :
    AtLeast negative units (ofRatio negative numerator denominator) := by
  rcases representable with ⟨code, rfl⟩
  unfold ofRatio
  simp only
  split
  · exact .finite _ (magnitude_mono (le_codeOfRatio positive le))
  · exact .infinite

theorem atLeast_ofInt {value : Int} (present : value ≠ 0) :
    AtLeast (decide (value < 0)) unitsPerOne (ofInt value) := by
  apply atLeast_ofRatio _ isMagnitude_unitsPerOne Nat.one_pos
  rw [Nat.mul_one]
  exact Nat.le_mul_of_pos_left _ (Int.natAbs_pos.2 present)

theorem atLeast_ofInt_natCast {value : Nat} (present : value ≠ 0) : AtLeast false unitsPerOne (ofInt value) := by
  have atLeast := atLeast_ofInt (Int.natCast_ne_zero.2 present)
  rwa [decide_eq_false (Int.not_lt.2 (Int.natCast_nonneg value))] at atLeast

theorem atLeast_zero_ofInt (value : Nat) : AtLeast false 0 (ofInt value) := by
  have atLeast : AtLeast (decide ((value : Int) < 0)) 0 (ofInt value) :=
    atLeast_ofRatio _ ⟨0, rfl⟩ Nat.one_pos (by rw [Nat.zero_mul]; exact Nat.zero_le _)
  rwa [decide_eq_false (Int.not_lt.2 (Int.natCast_nonneg value))] at atLeast

namespace AtLeast

variable {negative negative' : Bool} {units units' bound : Nat} {x y : Binary64}

theorem mul (atLeast : AtLeast negative units x) (atLeast' : AtLeast negative' units' y) (positive : 0 < units)
    (positive' : 0 < units') (representable : IsMagnitude bound) (le : bound * unitsPerOne ≤ units * units') :
    AtLeast (negative != negative') bound (x.mul y) := by
  cases atLeast with
  | infinite =>
      cases atLeast' with
      | infinite => exact .infinite
      | finite code' enough' =>
          rw [Binary64.mul, if_neg (ne_zero_of_magnitude_pos (Nat.lt_of_lt_of_le positive' enough'))]
          exact .infinite
  | finite code enough =>
      cases atLeast' with
      | infinite =>
          rw [Binary64.mul, if_neg (ne_zero_of_magnitude_pos (Nat.lt_of_lt_of_le positive enough))]
          exact .infinite
      | finite code' enough' =>
          exact atLeast_ofRatio _ representable unitsPerOne_pos (Nat.le_trans le (Nat.mul_le_mul enough enough'))

theorem div (atLeast : AtLeast negative units x) {divisor : Fin 0x7FF0000000000000} (present : 0 < magnitude divisor.val)
    (representable : IsMagnitude bound) (le : bound * magnitude divisor.val ≤ units * unitsPerOne) :
    AtLeast negative bound (x.div (.finite false divisor)) := by
  rw [← Bool.bne_false negative]
  cases atLeast with
  | infinite => exact .infinite
  | finite code enough =>
      rw [Binary64.div, if_neg (ne_zero_of_magnitude_pos present)]
      exact atLeast_ofRatio _ representable present (Nat.le_trans le (Nat.mul_le_mul_right _ enough))

/-- A sum of numbers that are not negative is no less than the second of them. -/
theorem add (atLeast : AtLeast false units x) (atLeast' : AtLeast false bound y) (representable : IsMagnitude bound) :
    AtLeast false bound (x.add y) := by
  cases atLeast with
  | infinite =>
      cases atLeast' with
      | infinite => exact .infinite
      | finite code' enough' => exact .infinite
  | finite code enough =>
      cases atLeast' with
      | infinite => exact .infinite
      | finite code' enough' =>
          simp only [Binary64.add, Bool.false_eq_true, if_false]
          split
          · exact .finite _ (by omega)
          · rw [decide_eq_false (by omega)]
            exact atLeast_ofRatio _ representable Nat.one_pos (by omega)

theorem round (atLeast : AtLeast negative units x) (half : unitsPerOne ≤ 2 * units) :
    AtLeast negative unitsPerOne x.round := by
  cases atLeast with
  | infinite => exact .infinite
  | finite code enough =>
      rw [Binary64.round]
      apply atLeast_ofRatio _ isMagnitude_unitsPerOne Nat.one_pos
      have rounded : 1 ≤ roundHalfUp (magnitude code.val) unitsPerOne := by
        have one := unitsPerOne_pos
        rw [roundHalfUp, Nat.le_div_iff_mul_le (by omega)]
        omega
      rw [Nat.mul_one]
      exact Nat.le_mul_of_pos_left _ rounded

theorem withSign (atLeast : AtLeast negative units x) : AtLeast negative' units (x.withSign negative') := by
  cases atLeast with
  | infinite => exact .infinite
  | finite code enough => exact .finite code enough

theorem isZero_eq_false (atLeast : AtLeast negative units x) (positive : 0 < units) : x.isZero = false := by
  cases atLeast with
  | infinite => rfl
  | finite code enough =>
      exact beq_eq_false_iff_ne.2 (ne_zero_of_magnitude_pos (Nat.lt_of_lt_of_le positive enough))

theorem place?_ne_zero (atLeast : AtLeast negative units x) (positive : 0 < units) : x.place? ≠ some 0 := by
  cases atLeast with
  | infinite => cases negative <;> simp [place?, codeCount]
  | finite code enough =>
      have present := ne_zero_of_magnitude_pos (Nat.lt_of_lt_of_le positive enough)
      cases negative <;> simp only [place?, ne_eq, Option.some.injEq] <;> omega

end AtLeast

/-! ## Bounds from above -/

/-- Rounding to whole multiples does not exceed a multiple that was not exceeded before. -/
theorem roundHalfUp_le {numerator bound denominator : Nat} (le : numerator ≤ bound * denominator) :
    roundHalfUp numerator denominator ≤ bound := by
  rcases Nat.eq_zero_or_pos denominator with rfl | positive
  · simp [roundHalfUp]
  · apply Nat.le_of_lt_succ
    apply Nat.div_lt_of_lt_mul
    calc 2 * numerator + denominator < 2 * (bound * denominator) + 2 * denominator := by omega
      _ = 2 * denominator * (bound + 1) := by ring

/-- A number is finite, and its magnitude is at most a power of two. -/
inductive UpTo (exponent : Nat) : Binary64 → Prop
  | finite (negative : Bool) (code : Fin 0x7FF0000000000000)
      (few : magnitude code.val ≤ 2 ^ exponent * unitsPerOne) : UpTo exponent (finite negative code)

theorem upTo_ofRatio (negative : Bool) {exponent numerator denominator : Nat} (finite : exponent ≤ 1023)
    (positive : 0 < denominator) (le : numerator ≤ 2 ^ exponent * unitsPerOne * denominator) :
    UpTo exponent (ofRatio negative numerator denominator) := by
  rcases exists_magnitude_two_pow finite with ⟨code, small, isPower⟩
  rw [← isPower] at le
  have rounded := codeOfRatio_le positive le
  have isFinite : codeOfRatio numerator denominator < 0x7FF0000000000000 := Nat.lt_of_le_of_lt rounded small
  simp only [ofRatio, isFinite, dif_pos]
  apply UpTo.finite
  rw [← isPower]
  exact magnitude_mono rounded

theorem upTo_ofInt {value : Int} {exponent : Nat} (finite : exponent ≤ 1023) (le : value.natAbs ≤ 2 ^ exponent) :
    UpTo exponent (ofInt value) := by
  apply upTo_ofRatio _ finite Nat.one_pos
  rw [Nat.mul_one]
  exact Nat.mul_le_mul_right _ le

namespace UpTo

variable {exponent exponent' : Nat} {x y : Binary64}

theorem isFinite (upTo : UpTo exponent x) : x.isFinite = true := by
  cases upTo
  rfl

theorem add (upTo : UpTo exponent x) (upTo' : UpTo exponent y) (finite : exponent + 1 ≤ 1023) :
    UpTo (exponent + 1) (x.add y) := by
  cases upTo with
  | finite negative code few =>
      cases upTo' with
      | finite negative' code' few' =>
          have size (negative : Bool) (units : Nat) : (if negative then -(units : Int) else units).natAbs = units := by
            cases negative <;> simp
          have double : 2 ^ (exponent + 1) * unitsPerOne = 2 ^ exponent * unitsPerOne + 2 ^ exponent * unitsPerOne := by
            ring
          have sum := Int.natAbs_add_le (if negative then -(magnitude code.val : Int) else magnitude code.val)
            (if negative' then -(magnitude code'.val : Int) else magnitude code'.val)
          rw [size, size] at sum
          simp only [Binary64.add]
          generalize (if negative = true then -(magnitude code.val : Int) else magnitude code.val) = left at sum ⊢
          generalize (if negative' = true then -(magnitude code'.val : Int) else magnitude code'.val) = right at sum ⊢
          split
          · exact .finite _ _ (Nat.zero_le _)
          · apply upTo_ofRatio _ finite Nat.one_pos
            rw [double, Nat.mul_one]
            exact Nat.le_trans sum (Nat.add_le_add few few')

theorem mul (upTo : UpTo exponent x) (upTo' : UpTo exponent' y) (finite : exponent + exponent' ≤ 1023) :
    UpTo (exponent + exponent') (x.mul y) := by
  cases upTo with
  | finite negative code few =>
      cases upTo' with
      | finite negative' code' few' =>
          apply upTo_ofRatio _ finite unitsPerOne_pos
          calc magnitude code.val * magnitude code'.val
              ≤ 2 ^ exponent * unitsPerOne * (2 ^ exponent' * unitsPerOne) := Nat.mul_le_mul few few'
            _ = 2 ^ (exponent + exponent') * unitsPerOne * unitsPerOne := by ring

/-- Dividing by a number that is no less than one keeps every bound. -/
theorem div (upTo : UpTo exponent x) (finite : exponent ≤ 1023) {divisor : Fin 0x7FF0000000000000}
    (large : unitsPerOne ≤ magnitude divisor.val) (negative : Bool) :
    UpTo exponent (x.div (.finite negative divisor)) := by
  have present := Nat.lt_of_lt_of_le unitsPerOne_pos large
  cases upTo with
  | finite negative' code few =>
      rw [Binary64.div, if_neg (ne_zero_of_magnitude_pos present)]
      exact upTo_ofRatio _ finite present (Nat.mul_le_mul few large)

theorem round (upTo : UpTo exponent x) (finite : exponent ≤ 1023) : UpTo exponent x.round := by
  cases upTo with
  | finite negative code few =>
      have rounded := Nat.mul_le_mul_right unitsPerOne (roundHalfUp_le few)
      rw [← Nat.mul_one (2 ^ exponent * unitsPerOne)] at rounded
      rw [Binary64.round]
      exact upTo_ofRatio negative finite Nat.one_pos rounded

theorem withSign (upTo : UpTo exponent x) (negative : Bool) : UpTo exponent (x.withSign negative) := by
  cases upTo with
  | finite negative' code few => exact .finite negative code few

end UpTo

/-- An integer of moderate size is a finite number of moderate size. -/
theorem exists_ofInt_eq_finite {value : Nat} (present : value ≠ 0) {exponent : Nat} (finite : exponent ≤ 1023)
    (small : value ≤ 2 ^ exponent) :
    ∃ code, ofInt value = .finite false code ∧ unitsPerOne ≤ magnitude code.val ∧
      magnitude code.val ≤ 2 ^ exponent * unitsPerOne := by
  have atLeast := atLeast_ofInt_natCast present
  have upTo : UpTo exponent (ofInt value) := upTo_ofInt finite small
  generalize ofInt value = number at atLeast upTo
  cases atLeast with
  | infinite => cases upTo
  | finite code enough =>
      cases upTo with
      | finite _ _ few => exact ⟨code, rfl, enough, few⟩

end Binary64

/-- The power of ten that a decimal is divided by is a finite number of moderate size. -/
theorem Decimal.exists_ofInt_tenPow {scale : Nat} (within : scale ≤ scaleBound) :
    ∃ code, Binary64.ofInt (10 ^ scale : Nat) = .finite false code ∧
      Binary64.unitsPerOne ≤ Binary64.magnitude code.val ∧
      Binary64.magnitude code.val ≤ 2 ^ (94 : Nat) * Binary64.unitsPerOne := by
  apply Binary64.exists_ofInt_eq_finite (Nat.ne_of_gt (Nat.pow_pos (by decide))) (by decide)
  calc 10 ^ scale ≤ 10 ^ scaleBound := Nat.pow_le_pow_right (by decide) within
    _ ≤ 2 ^ (94 : Nat) := by decide

end TreePath

import TreePath.Proofs.Number.Bounds
import TreePath.Regex.Standard

/-!
# Products that vanish

A product of an integer and a floating-point number is computed in decimals. No decimal is lost in a product with an integer,
and no decimal other than zero becomes zero as a floating-point number. But a number below the smallest positive
decimal is zero as soon as it is a decimal, and then so is its product. Where decimals have no room, the product of the
floating-point numbers stands in, and that is not zero either.
-/

namespace TreePath

namespace Binary64

/-! ## Powers of ten and their inverses -/

/-- Some magnitude is at most the inverse of a number and at least half of it. -/
theorem exists_inverse {units : Nat} (positive : 0 < units) (small : units ≤ 2 ^ (94 : Nat) * unitsPerOne) :
    ∃ inverse, IsMagnitude inverse ∧ 0 < inverse ∧ inverse * units ≤ unitsPerOne * unitsPerOne ∧
      unitsPerOne * unitsPerOne ≤ 2 * inverse * units := by
  have ⟨places, one⟩ : ∃ places, 1074 = places := ⟨1074, rfl⟩
  rw [unitsPerOne_eq one] at small ⊢
  have least := Nat.log2_self_le (Nat.ne_of_gt positive)
  have below := @Nat.lt_log2_self units
  have digits : units.log2 ≤ 94 + places := by
    rw [← Nat.pow_add] at small
    exact (Nat.pow_le_pow_iff_right (by decide)).1 (Nat.le_trans least small)
  refine ⟨2 ^ (2 * places - 1 - units.log2), isMagnitude_two_pow _, Nat.two_pow_pos _, ?_, ?_⟩
  · calc 2 ^ (2 * places - 1 - units.log2) * units
        ≤ 2 ^ (2 * places - 1 - units.log2) * 2 ^ (units.log2 + 1) := Nat.mul_le_mul_left _ (Nat.le_of_lt below)
      _ = 2 ^ places * 2 ^ places := by
        rw [← Nat.pow_add, ← Nat.pow_add]
        congr 1
        omega
  · calc 2 ^ places * 2 ^ places = 2 * 2 ^ (2 * places - 1 - units.log2) * 2 ^ units.log2 := by
          rw [← Nat.pow_succ', ← Nat.pow_add, ← Nat.pow_add]
          congr 1
          omega
      _ ≤ 2 * 2 ^ (2 * places - 1 - units.log2) * units := Nat.mul_le_mul_left _ least

theorem codeOfRatio_zero {denominator : Nat} (positive : 0 < denominator) : codeOfRatio 0 denominator = 0 := by
  have rounded := roundHalfEven_mul 0 positive
  rw [Nat.zero_mul] at rounded
  simp [codeOfRatio, rounded]

theorem ofRatio_zero (negative : Bool) {denominator : Nat} (positive : 0 < denominator) :
    ofRatio negative 0 denominator = zero negative := by
  unfold ofRatio
  simp only [codeOfRatio_zero positive]
  rfl

theorem isZero_zero_div {code : Fin 0x7FF0000000000000} (present : 0 < magnitude code.val) :
    ((ofInt (0 : Nat)).div (.finite false code)).isZero = true := by
  have zero : ofInt (0 : Nat) = .zero false := by
    rw [ofInt, Int.natAbs_natCast, Nat.zero_mul]
    exact ofRatio_zero _ Nat.one_pos
  have nothing : magnitude 0 = 0 := rfl
  rw [zero, Binary64.zero, Binary64.div, if_neg (ne_zero_of_magnitude_pos present)]
  simp only [nothing, Nat.zero_mul, ofRatio_zero _ present]
  rfl

theorem placeOfInt_zero : placeOfInt 0 = 0 := by
  rw [placeOfInt, Int.natAbs_zero, Nat.zero_mul, codeOfRatio_zero Nat.one_pos]
  rfl

theorem magnitude_pos {code : Nat} (positive : code ≠ 0) : 0 < magnitude code := by
  rw [magnitude_eq_significand_mul]
  exact Nat.mul_pos (significand_pos positive) (Nat.two_pow_pos _)

end Binary64

namespace Decimal

open Binary64 (AtLeast IsMagnitude unitsPerOne magnitude)

/-- The number near a decimal is zero only if the decimal is. -/
theorem exists_atLeast_toBinary64 {x : Decimal} (present : x.mantissa ≠ 0) (within : x.scale ≤ scaleBound) :
    ∃ units, 0 < units ∧ AtLeast x.negative units x.toBinary64 := by
  have one := Binary64.unitsPerOne_pos
  rcases exists_ofInt_tenPow within with ⟨code, isPower, large, moderate⟩
  rcases Binary64.exists_inverse (Nat.lt_of_lt_of_le one large) moderate with
    ⟨inverse, representable, positive, above, below⟩
  have tens : 0 < magnitude code.val := Nat.lt_of_lt_of_le one large
  have fraction (digits : x.mantissa % 10 ^ x.scale ≠ 0) :
      AtLeast false inverse ((Binary64.ofInt (x.mantissa % 10 ^ x.scale : Nat)).div (.finite false code)) :=
    (Binary64.atLeast_ofInt_natCast digits).div tens representable above
  rw [toBinary64]
  split
  · exact ⟨_, one, (Binary64.atLeast_ofInt_natCast present).withSign⟩
  · simp only [isPower]
    split
    · rename_i zero
      -- there are no digits after the point, so there are some before it
      have noDigits : x.mantissa % 10 ^ x.scale = 0 := by
        by_contra digits
        rw [(fraction digits).isZero_eq_false positive] at zero
        cases zero
      have whole : x.mantissa / 10 ^ x.scale ≠ 0 := by
        intro nothing
        have split := Nat.div_add_mod x.mantissa (10 ^ x.scale)
        rw [nothing, noDigits, Nat.mul_zero] at split
        exact present split.symm
      exact ⟨_, one, (Binary64.atLeast_ofInt_natCast whole).withSign⟩
    · rename_i notZero
      have digits : x.mantissa % 10 ^ x.scale ≠ 0 := by
        intro noDigits
        rw [noDigits] at notZero
        exact notZero (Binary64.isZero_zero_div tens)
      -- the fraction is at least the inverse of the power, so the sum times the power is at least a half
      rcases Binary64.exists_half with ⟨half, isHalf, halves⟩
      have sum := (Binary64.atLeast_zero_ofInt (x.mantissa / 10 ^ x.scale)).add (fraction digits) representable
      have half_le : half * unitsPerOne ≤ inverse * magnitude code.val := by
        have doubled : 2 * (half * unitsPerOne) ≤ 2 * (inverse * magnitude code.val) := by
          rw [← Nat.mul_assoc, ← halves, ← Nat.mul_assoc]
          exact below
        omega
      have factor : AtLeast false (magnitude code.val) (.finite false code) := .finite code (Nat.le_refl _)
      have product : AtLeast false half _ := sum.mul factor positive tens isHalf half_le
      have rounded := product.round (Nat.le_of_eq halves)
      exact ⟨inverse, positive, (rounded.div tens representable above).withSign⟩

/-! ## Products with room -/

theorem mem_of_range_eq_append {count n : Nat} {earlier later : List Nat}
    (split : List.range count = earlier ++ (n + 1) :: later) : n ∈ earlier := by
  have ordered : (List.range count).Pairwise (· < ·) := List.pairwise_lt_range
  have last : n + 1 ∈ List.range count := by simp [split]
  have member : n ∈ List.range count := List.mem_range.2 (Nat.lt_of_succ_lt (List.mem_range.1 last))
  rw [split, List.mem_append, List.mem_cons] at member
  rw [split, List.pairwise_append, List.pairwise_cons] at ordered
  rcases member with member | same | member
  · exact member
  · omega
  · have after := ordered.2.1.1 n member
    omega

/-- A value that is not zero keeps digits when it is made to fit: the last digits dropped made room for the others. -/
theorem fit?_ne_zero {negative : Bool} {value scale : Nat} {x : Decimal} (present : value ≠ 0)
    (within : scale ≤ scaleBound) (fits : fit? negative value scale = some x) :
    x.mantissa ≠ 0 ∧ x.scale ≤ scaleBound := by
  rw [fit?, List.findSome?_eq_some_iff] at fits
  rcases fits with ⟨earlier, dropped, later, attempts, found, failed⟩
  simp only at found failed
  split at found
  · rcases Option.some.inj found with rfl
    refine ⟨?_, Nat.le_trans (Nat.sub_le _ _) within⟩
    cases dropped with
    | zero =>
        have exact := roundHalfEven_mul value Nat.one_pos
        rw [Nat.mul_one] at exact
        simp only [Nat.pow_zero, exact]
        exact present
    | succ dropped =>
        have member : dropped ∈ earlier := mem_of_range_eq_append attempts
        have full : mantissaBound ≤ roundHalfEven value (10 ^ dropped) := by
          by_contra room
          have attempt := failed dropped member
          rw [if_pos ⟨Nat.not_le.1 room, by omega⟩] at attempt
          cases attempt
        have quotient : 10 ≤ value / 10 ^ dropped := by
          have rounded := roundHalfEven_le value (10 ^ dropped)
          unfold mantissaBound at full
          omega
        have shorter : 1 ≤ value / 10 ^ (dropped + 1) := by
          rw [Nat.pow_succ, ← Nat.div_div_eq_div_mul]
          omega
        exact Nat.ne_of_gt (Nat.le_trans shorter (div_le_roundHalfEven _ _))
  · cases found

theorem mul?_spec {x y z : Decimal} (within : x.scale + y.scale ≤ scaleBound) (multiplied : x.mul? y = some z) :
    z.scale ≤ scaleBound ∧ (z.mantissa = 0 ↔ x.mantissa = 0 ∨ y.mantissa = 0) := by
  unfold mul? at multiplied
  split at multiplied
  · rename_i zero
    rcases Option.some.inj multiplied with rfl
    exact ⟨Nat.zero_le _, by simp [zero]⟩
  · rename_i present
    have scales : ¬(x.mantissa < 2 ^ (32 : Nat) ∧ y.mantissa < 2 ^ (32 : Nat) ∧ x.scale + y.scale > 47) := by
      unfold scaleBound at within
      omega
    rw [if_neg scales] at multiplied
    have product : x.mantissa * y.mantissa ≠ 0 := by
      rw [Ne, Nat.mul_eq_zero]
      exact present
    have fitted := fit?_ne_zero product within multiplied
    exact ⟨fitted.2, iff_of_false fitted.1 present⟩

theorem toInt?_eq_zero {x : Decimal} : x.toInt? = some 0 ↔ x.mantissa = 0 := by
  have parts := Nat.div_add_mod x.mantissa (10 ^ x.scale)
  constructor
  · intro integral
    unfold toInt? at integral
    split at integral
    · rename_i noDigits
      have whole : x.mantissa / 10 ^ x.scale = 0 := by
        have signs := Option.some.inj integral
        split at signs <;> omega
      rw [whole, noDigits, Nat.mul_zero] at parts
      exact parts.symm
    · cases integral
  · intro zero
    simp [toInt?, zero]

end Decimal

namespace Numeric

open Binary64 (AtLeast unitsPerOne magnitude)

/-- A product in decimals, where there is one, and the product of the floating-point numbers otherwise. -/
def productOr (product : Option Decimal) (floats : Binary64) : Option Numeric :=
  match product with
  | some result => some (ofDecimal result)
  | none => ofFloat? floats

theorem mul?_integer_float (n : Int64) (x : Binary64) :
    mul? (integer n) (float x) =
      productOr ((Decimal.ofBinary64? x).bind fun y => (Decimal.ofInt n.toInt).mul? y) ((Binary64.ofInt64 n).mul x) := by
  simp only [mul?, combine?, toDecimal?, productOr, toFloat]
  cases Decimal.ofBinary64? x <;> rfl

theorem mul?_float_integer (n : Int64) (x : Binary64) :
    mul? (float x) (integer n) =
      productOr ((Decimal.ofBinary64? x).bind fun y => y.mul? (Decimal.ofInt n.toInt)) (x.mul (Binary64.ofInt64 n)) := by
  simp only [mul?, combine?, toDecimal?, productOr, toFloat]
  cases Decimal.ofBinary64? x <;> rfl

section Products

variable [RegexSyntax]

theorem float_equals_zero {x : Binary64} : (float x).Equals (integer 0) ↔ x.place? = some 0 := by
  have mixed : ¬ ∃ m n, float x = integer m ∧ integer 0 = integer n := by simp
  have zero : (integer 0).place? = some 0 := by
    rw [place?_integer, Int64.toInt_zero, Binary64.placeOfInt_zero]
  rw [equals_iff, compare?_eq_some mixed, zero]
  simp [place?, toFloat]

/-- A decimal result equals zero only if the decimal does. -/
theorem ofDecimal_equals_zero {x : Decimal} (within : x.scale ≤ Decimal.scaleBound) :
    (ofDecimal x).Equals (integer 0) ↔ x.mantissa = 0 := by
  unfold ofDecimal
  split
  · rename_i n whole
    rw [Option.bind_eq_some_iff] at whole
    rcases whole with ⟨value, integral, narrow⟩
    rw [integer_equals_integer, ← Decimal.toInt?_eq_zero, integral, Option.some.injEq, ← toInt_of_int64? narrow,
      ← Int64.toInt_zero, Int64.toInt_inj]
  · rename_i fractional
    have present : x.mantissa ≠ 0 := by
      intro zero
      rw [Decimal.toInt?_eq_zero.2 zero] at fractional
      cases fractional
    rcases Decimal.exists_atLeast_toBinary64 present within with ⟨units, positive, atLeast⟩
    rw [float_equals_zero]
    exact iff_of_false (atLeast.place?_ne_zero positive) present

/-! ## Products of both kinds -/

/-- A floating-point number becomes zero when it becomes a decimal. -/
def VanishesAsDecimal (x : Binary64) : Prop :=
  ∃ y, Decimal.ofBinary64? x = some y ∧ y.mantissa = 0

/-- Two numbers have a product that equals zero. -/
def ProductVanishes (left right : Numeric) : Prop :=
  ∃ product, Term.applyBinary .multiply (.number left) (.number right) = .number product ∧ product.Equals (integer 0)

theorem productVanishes_iff {left right : Numeric} :
    ProductVanishes left right ↔ ∃ product, left.mul? right = some product ∧ product.Equals (integer 0) := by
  have multiplied : Term.applyBinary .multiply (.number left) (.number right) = Term.ofNumeric? (left.mul? right) := rfl
  rw [ProductVanishes, multiplied]
  cases left.mul? right <;> simp [Term.ofNumeric?]

theorem productOr_equals_zero {product : Option Decimal} {floats : Binary64}
    (within : ∀ z, product = some z → z.scale ≤ Decimal.scaleBound) (present : product = none → floats.place? ≠ some 0) :
    (∃ result, productOr product floats = some result ∧ result.Equals (integer 0)) ↔
      ∃ z, product = some z ∧ z.mantissa = 0 := by
  cases product with
  | some z => simp [productOr, ofDecimal_equals_zero (within z rfl)]
  | none =>
      have notZero : ¬ (float floats).Equals (integer 0) := fun zero => present rfl (float_equals_zero.1 zero)
      simp [productOr, ofFloat?, notZero]

variable {negative : Bool} {code : Fin 0x7FF0000000000000}

/--
A product that decimals compute without losing anything, for which floating-point numbers other than zero stand in, equals
zero only if one factor was lost on its way to the decimals.
-/
theorem productOr_vanishes {multiply : Decimal → Option Decimal} {floats : Binary64}
    (total : ∀ y : Decimal, y.mantissa = 0 → multiply y ≠ none)
    (lossless : ∀ y z : Decimal, y.scale ≤ Decimal.scaleBound → multiply y = some z →
      z.scale ≤ Decimal.scaleBound ∧ (z.mantissa = 0 ↔ y.mantissa = 0))
    (present : code.val ≠ 0 → floats.place? ≠ some 0) :
    (∃ result, productOr ((Decimal.ofBinary64? (.finite negative code)).bind multiply) floats = some result ∧
        result.Equals (integer 0)) ↔
      VanishesAsDecimal (.finite negative code) := by
  rw [productOr_equals_zero]
  · constructor
    · rintro ⟨z, multiplied, zero⟩
      rcases Option.bind_eq_some_iff.1 multiplied with ⟨y, converted, multiplied⟩
      exact ⟨y, converted, (lossless y z (Decimal.scale_le_of_ofBinary64? converted) multiplied).2.1 zero⟩
    · rintro ⟨y, converted, zero⟩
      rcases Option.ne_none_iff_exists'.1 (total y zero) with ⟨z, multiplied⟩
      refine ⟨z, ?_, (lossless y z (Decimal.scale_le_of_ofBinary64? converted) multiplied).2.2 zero⟩
      rw [converted, Option.bind_some, multiplied]
  · intro z multiplied
    rcases Option.bind_eq_some_iff.1 multiplied with ⟨y, converted, multiplied⟩
    exact (lossless y z (Decimal.scale_le_of_ofBinary64? converted) multiplied).1
  · intro none
    apply present
    intro zero
    rw [Decimal.ofBinary64?_of_eq_zero zero, Option.bind_some] at none
    exact total _ rfl none

theorem productVanishes_iff_vanishesAsDecimal {n : Int64} (present : n ≠ 0) (negative : Bool)
    (code : Fin 0x7FF0000000000000) :
    (ProductVanishes (integer n) (float (.finite negative code)) ↔ VanishesAsDecimal (.finite negative code)) ∧
      (ProductVanishes (float (.finite negative code)) (integer n) ↔ VanishesAsDecimal (.finite negative code)) := by
  have one := Binary64.unitsPerOne_pos
  have integral : n.toInt ≠ 0 := fun zero => present (Int64.toInt_inj.1 (zero.trans Int64.toInt_zero.symm))
  have digits : (Decimal.ofInt n.toInt).mantissa ≠ 0 := Int.natAbs_ne_zero.2 integral
  have factor : AtLeast (decide (n.toInt < 0)) unitsPerOne (Binary64.ofInt64 n) := Binary64.atLeast_ofInt integral
  have self : AtLeast negative (magnitude code.val) (.finite negative code) := .finite code (Nat.le_refl _)
  rw [productVanishes_iff, productVanishes_iff, mul?_integer_float, mul?_float_integer]
  constructor
  · apply productOr_vanishes
    · intro y zero
      simp [Decimal.mul?, zero]
    · intro y z within multiplied
      have product := Decimal.mul?_spec (by rwa [Decimal.ofInt, Nat.zero_add]) multiplied
      rwa [or_iff_right digits] at product
    · intro positive
      have units := Binary64.magnitude_pos positive
      exact (factor.mul self one units ⟨code.val, rfl⟩ (Nat.le_of_eq (Nat.mul_comm _ _))).place?_ne_zero units
  · apply productOr_vanishes
    · intro y zero
      simp [Decimal.mul?, zero]
    · intro y z within multiplied
      have product := Decimal.mul?_spec (by rwa [Decimal.ofInt, Nat.add_zero]) multiplied
      rwa [or_iff_left digits] at product
    · intro positive
      have units := Binary64.magnitude_pos positive
      exact (self.mul factor units one ⟨code.val, rfl⟩ (Nat.le_refl _)).place?_ne_zero units

/--
The product of an integer other than zero and a finite floating-point number equals zero, in either order, just when the
floating-point number becomes zero as a decimal. It does not if its magnitude is at least `10 ^ -28`, the smallest positive
decimal, and it does if its magnitude is below `17/18` of that.
-/
theorem mixed_product_vanishes {n : Int64} (present : n ≠ 0) {x : Binary64} {units : Int} (finite : x.units? = some units) :
    (ProductVanishes (integer n) (float x) ↔ VanishesAsDecimal x) ∧
      (ProductVanishes (float x) (integer n) ↔ VanishesAsDecimal x) ∧
      (unitsPerOne ≤ units.natAbs * 10 ^ (28 : Nat) →
        ¬ ProductVanishes (integer n) (float x) ∧ ¬ ProductVanishes (float x) (integer n)) ∧
      (18 * units.natAbs * 10 ^ (28 : Nat) < 17 * unitsPerOne →
        ProductVanishes (integer n) (float x) ∧ ProductVanishes (float x) (integer n)) := by
  have isFinite : ∃ negative code, x = .finite negative code ∧ units.natAbs = magnitude code.val := by
    unfold Binary64.units? at finite
    split at finite
    · exact ⟨false, _, rfl, by rw [← Option.some.inj finite, Int.natAbs_natCast]⟩
    · exact ⟨true, _, rfl, by rw [← Option.some.inj finite, Int.natAbs_neg, Int.natAbs_natCast]⟩
    · cases finite
  rcases isFinite with ⟨negative, code, rfl, magnitudes⟩
  have ⟨left, right⟩ := productVanishes_iff_vanishesAsDecimal present negative code
  refine ⟨left, right, ?_, ?_⟩
  · intro large
    rw [magnitudes] at large
    have kept : ¬ VanishesAsDecimal (.finite negative code) := by
      rintro ⟨y, converted, zero⟩
      exact Decimal.mantissa_ne_zero_of_ofBinary64? large converted zero
    exact ⟨fun vanishes => kept (left.1 vanishes), fun vanishes => kept (right.1 vanishes)⟩
  · intro small
    rw [magnitudes] at small
    have lost : VanishesAsDecimal (.finite negative code) := Decimal.exists_ofBinary64?_eq_zero negative small
    exact ⟨left.2 lost, right.2 lost⟩

end Products

/-- The floating-point numbers `2 ^ -93`, above `10 ^ -28`, and `9e-29` on the two sides of the limit. -/
theorem mixed_product_vanishes_aroundLimit :
    ¬ ProductVanishes (integer 3) (float (.finite false 0x3A20000000000000)) ∧
      ProductVanishes (integer 3) (float (.finite false 0x3A1C85AADE7B89B0)) := by
  have above : (Binary64.finite false 0x3A20000000000000).units? = some (2 ^ (981 : Nat) : Nat) := by decide +kernel
  have below : (Binary64.finite false 0x3A1C85AADE7B89B0).units? = some (0x1C85AADE7B89B0 * 2 ^ (928 : Nat) : Nat) := by
    decide +kernel
  have kept := mixed_product_vanishes (n := 3) (by decide) above
  have lost := mixed_product_vanishes (n := 3) (by decide) below
  exact ⟨(kept.2.2.1 (by decide +kernel)).1, (lost.2.2.2 (by decide +kernel)).1⟩

/-- The product of 2 and `1e-29`, which is not below the smallest number with 53 digits, equals zero in either order. -/
theorem productVanishes_two_tenPowNeg29 :
    Binary64.ofDecimal false 1 (-29) = .finite false 0x39E95A5EFEA6B347 ∧
      2 ^ (52 : Nat) ≤ magnitude 0x39E95A5EFEA6B347 ∧
      ProductVanishes (integer 2) (float (.finite false 0x39E95A5EFEA6B347)) ∧
      ProductVanishes (float (.finite false 0x39E95A5EFEA6B347)) (integer 2) := by
  refine ⟨by decide +kernel, by decide +kernel, ?_, ?_⟩ <;> rw [productVanishes_iff] <;>
    exact ⟨integer 0, by decide +kernel, by decide +kernel⟩

end Numeric

end TreePath

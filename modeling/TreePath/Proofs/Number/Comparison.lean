import TreePath.Proofs.Number.Shortest
import TreePath.Regex.Standard
import TreePath.Script.Term

/-!
# Comparing integers with floating-point numbers

An integer is compared with a floating-point number as the number nearest to it. Rounding keeps the order of integers but may
make two of them one. So what is less than something less is less, whatever the kinds, and the laws that go through an
equality fail just where they would have to tell two integers apart of which the nearest number is the same.
-/

namespace TreePath

theorem roundHalfEven_mono {numerator numerator' : Nat} (le : numerator ≤ numerator') (denominator : Nat) :
    roundHalfEven numerator denominator ≤ roundHalfEven numerator' denominator := by
  by_cases same : numerator / denominator = numerator' / denominator
  · have split := Nat.div_add_mod numerator denominator
    have split' := Nat.div_add_mod numerator' denominator
    have remainders : numerator % denominator ≤ numerator' % denominator := by
      rw [same] at split
      omega
    simp only [roundHalfEven, same]
    split
    · rw [if_pos (by omega)]
    · split <;> omega
  · have quotients := Nat.div_le_div_right le (c := denominator)
    have above := roundHalfEven_le numerator denominator
    have below := div_le_roundHalfEven numerator' denominator
    omega

namespace Binary64

/-- A rounded quotient stays between the codes of the powers of two around it. -/
theorem codeOfRatio_bounds (numerator denominator : Nat) :
    ((numerator / denominator).log2 - 52) * 2 ^ (52 : Nat) ≤ codeOfRatio numerator denominator ∧
      codeOfRatio numerator denominator ≤ ((numerator / denominator).log2 - 52 + 2) * 2 ^ (52 : Nat) ∧
      (52 ≤ (numerator / denominator).log2 →
        ((numerator / denominator).log2 - 52 + 1) * 2 ^ (52 : Nat) ≤ codeOfRatio numerator denominator) := by
  simp only [codeOfRatio]
  generalize quotient : numerator / denominator = units
  have split : 2 ^ (53 : Nat) * 2 ^ (units.log2 - 52) = 2 ^ (53 + (units.log2 - 52)) := (Nat.pow_add 2 53 _).symm
  have quotient_lt : units / 2 ^ (units.log2 - 52) < 2 ^ (53 : Nat) := by
    apply Nat.div_lt_of_lt_mul
    rw [Nat.mul_comm, split]
    exact Nat.lt_of_lt_of_le Nat.lt_log2_self (Nat.pow_le_pow_right Nat.two_pos (by omega))
  have rounded_le := roundHalfEven_le numerator (denominator * 2 ^ (units.log2 - 52))
  have le_rounded := div_le_roundHalfEven numerator (denominator * 2 ^ (units.log2 - 52))
  rw [← Nat.div_div_eq_div_mul, quotient] at rounded_le le_rounded
  refine ⟨by omega, by omega, ?_⟩
  intro large
  have least : 2 ^ (52 : Nat) ≤ units / 2 ^ (units.log2 - 52) := by
    rw [Nat.le_div_iff_mul_le (Nat.two_pow_pos _), ← Nat.pow_add, Nat.add_sub_cancel' large]
    apply Nat.log2_self_le
    rintro rfl
    simp at large
  omega

/-- A larger quotient is rounded to no smaller a code. -/
theorem codeOfRatio_mono {numerator numerator' : Nat} (le : numerator ≤ numerator') (denominator : Nat) :
    codeOfRatio numerator denominator ≤ codeOfRatio numerator' denominator := by
  have quotients := Nat.div_le_div_right le (c := denominator)
  have logs : (numerator / denominator).log2 ≤ (numerator' / denominator).log2 := by
    by_cases zero : numerator / denominator = 0
    · simp [zero]
    · have present := Nat.lt_of_lt_of_le (Nat.pos_of_ne_zero zero) quotients
      exact (Nat.le_log2 (Nat.ne_of_gt present)).2 (Nat.le_trans (Nat.log2_self_le zero) quotients)
  by_cases same : (numerator / denominator).log2 - 52 = (numerator' / denominator).log2 - 52
  · simp only [codeOfRatio, same]
    exact Nat.add_le_add_left (roundHalfEven_mono le _) _
  · have above := (codeOfRatio_bounds numerator denominator).2.1
    have below := (codeOfRatio_bounds numerator' denominator).2.2 (by omega)
    omega

/-- The place that a sign and a code have in the order, beyond the finite magnitudes that of an infinity. -/
def placeOfCode (negative : Bool) (code : Nat) : Int :=
  if negative then -(min code codeCount : Nat) else (min code codeCount : Nat)

theorem place?_ofRatio (negative : Bool) (numerator denominator : Nat) :
    (ofRatio negative numerator denominator).place? =
      some (placeOfCode negative (codeOfRatio numerator denominator)) := by
  unfold ofRatio placeOfCode
  simp only [codeCount]
  split
  · rename_i small
    cases negative <;> simp [place?] <;> omega
  · rename_i large
    cases negative <;> simp [place?, codeCount] <;> omega

/-- The place of the number nearest to an integer. -/
def placeOfInt (value : Int) : Int :=
  placeOfCode (decide (value < 0)) (codeOfRatio (value.natAbs * unitsPerOne) 1)

theorem place?_ofInt (value : Int) : (ofInt value).place? = some (placeOfInt value) :=
  place?_ofRatio _ _ _

theorem placeOfCode_mono {code code' : Nat} (le : code ≤ code') :
    placeOfCode false code ≤ placeOfCode false code' ∧ placeOfCode true code' ≤ placeOfCode true code := by
  simp only [placeOfCode, if_true, Bool.false_eq_true, if_false]
  omega

theorem placeOfCode_true_le_false (code code' : Nat) : placeOfCode true code ≤ placeOfCode false code' := by
  simp only [placeOfCode, if_true, Bool.false_eq_true, if_false]
  omega

theorem placeOfInt_mono {value value' : Int} (le : value ≤ value') : placeOfInt value ≤ placeOfInt value' := by
  unfold placeOfInt
  by_cases negative : value < 0
  · rw [decide_eq_true negative]
    by_cases negative' : value' < 0
    · rw [decide_eq_true negative']
      apply (placeOfCode_mono _).2
      exact codeOfRatio_mono (Nat.mul_le_mul_right _ (by omega)) 1
    · rw [decide_eq_false negative']
      exact placeOfCode_true_le_false _ _
  · have negative' : ¬ value' < 0 := by omega
    rw [decide_eq_false negative, decide_eq_false negative']
    apply (placeOfCode_mono _).1
    exact codeOfRatio_mono (Nat.mul_le_mul_right _ (by omega)) 1

theorem unitsPerOne_pos : 0 < unitsPerOne := by
  have ⟨places, units⟩ : ∃ places, 1074 = places := ⟨1074, rfl⟩
  rw [unitsPerOne_eq units]
  exact Nat.two_pow_pos places

theorem magnitude_eq {exponent fraction : Nat} (positive : 0 < exponent) (small : fraction < 2 ^ (52 : Nat)) :
    magnitude (exponent * 2 ^ (52 : Nat) + fraction) = (2 ^ (52 : Nat) + fraction) * 2 ^ (exponent - 1) := by
  have quotient : (exponent * 2 ^ (52 : Nat) + fraction) / 2 ^ (52 : Nat) = exponent := by omega
  have remainder : (exponent * 2 ^ (52 : Nat) + fraction) % 2 ^ (52 : Nat) = fraction := by omega
  simp only [magnitude, quotient, remainder]
  exact if_neg (Nat.ne_of_gt positive)

/-- The powers of two up to `2 ^ 1023` are finite magnitudes. -/
theorem exists_magnitude_two_pow {exponent : Nat} (finite : exponent ≤ 1023) :
    ∃ code < codeCount, magnitude code = 2 ^ exponent * unitsPerOne := by
  have ⟨places, units⟩ : ∃ places, 1074 = places := ⟨1074, rfl⟩
  have moved : 0 < exponent + places - 51 := by omega
  refine ⟨(exponent + places - 51) * 2 ^ (52 : Nat) + 0, ?_, ?_⟩
  · rw [codeCount]
    omega
  · rw [magnitude_eq moved (by decide), Nat.add_zero, unitsPerOne_eq units, ← Nat.pow_add, ← Nat.pow_add]
    congr 1
    omega

/-- A natural number of at most 53 binary digits is a magnitude. -/
theorem exists_magnitude_of_le {n : Nat} (small : n ≤ 2 ^ (53 : Nat)) :
    ∃ code < codeCount, magnitude code = n * unitsPerOne := by
  by_cases zero : n = 0
  · exact ⟨0, by decide, by simp [zero, magnitude]⟩
  · have ⟨places, units⟩ : ∃ places, 1074 = places := ⟨1074, rfl⟩
    have logs : n.log2 ≤ 53 := (Nat.log2_lt zero).2 (by omega) |> Nat.le_of_lt_succ
    have least : 2 ^ n.log2 ≤ n := Nat.log2_self_le zero
    have below : n < 2 ^ (n.log2 + 1) := Nat.lt_log2_self
    by_cases full : n.log2 = 53
    · have isPower : n = 2 ^ n.log2 := by
        apply Nat.le_antisymm _ least
        rw [full]
        exact small
      rw [isPower]
      exact exists_magnitude_two_pow (by omega)
    · -- the digits are shifted to the left until there are 53 of them
      have shift : n.log2 + (52 - n.log2) = 52 := by omega
      have shifted : 2 ^ (52 : Nat) ≤ n * 2 ^ (52 - n.log2) := by
        calc 2 ^ (52 : Nat) = 2 ^ n.log2 * 2 ^ (52 - n.log2) := by rw [← Nat.pow_add, shift]
          _ ≤ n * 2 ^ (52 - n.log2) := Nat.mul_le_mul_right _ least
      have shifted' : n * 2 ^ (52 - n.log2) < 2 ^ (53 : Nat) := by
        calc n * 2 ^ (52 - n.log2) < 2 ^ (n.log2 + 1) * 2 ^ (52 - n.log2) :=
              Nat.mul_lt_mul_of_pos_right below (Nat.two_pow_pos _)
          _ = 2 ^ (53 : Nat) := by rw [← Nat.pow_add, Nat.add_right_comm, shift]
      refine ⟨(n.log2 + 1023) * 2 ^ (52 : Nat) + (n * 2 ^ (52 - n.log2) - 2 ^ (52 : Nat)), ?_, ?_⟩
      · rw [codeCount]
        omega
      · have powers : 52 - n.log2 + (n.log2 + 1023 - 1) = places := by omega
        rw [magnitude_eq (by omega) (by omega), Nat.add_sub_cancel' shifted, Nat.mul_assoc, ← Nat.pow_add, powers,
          unitsPerOne_eq units]

/-- Integers of at most 53 binary digits have places of their own. -/
theorem placeOfInt_inj {value value' : Int} (small : value.natAbs ≤ 2 ^ (53 : Nat))
    (small' : value'.natAbs ≤ 2 ^ (53 : Nat))
    (same : placeOfInt value = placeOfInt value') : value = value' := by
  rcases exists_magnitude_of_le small with ⟨code, finite, units⟩
  rcases exists_magnitude_of_le small' with ⟨code', finite', units'⟩
  have one : 0 < unitsPerOne := unitsPerOne_pos
  unfold placeOfInt placeOfCode at same
  rw [← units, ← units', codeOfRatio_magnitude, codeOfRatio_magnitude, Nat.min_eq_left (Nat.le_of_lt finite),
    Nat.min_eq_left (Nat.le_of_lt finite')] at same
  have codes : code = code' := by
    split at same <;> split at same <;> omega
  have magnitudes : value.natAbs = value'.natAbs := by
    apply Nat.eq_of_mul_eq_mul_right one
    rw [← units, ← units', codes]
  by_cases zero : value.natAbs = 0
  · omega
  · have notZero : code ≠ 0 := by
      rintro rfl
      have positive := Nat.mul_pos (Nat.pos_of_ne_zero zero) one
      rw [← units] at positive
      exact Nat.lt_irrefl 0 positive
    by_cases negative : value < 0 <;> by_cases negative' : value' < 0 <;> simp [negative, negative'] at same <;> omega

end Binary64

namespace Numeric

/-- A floating-point number cannot tell two integers apart: they differ, and the number nearest to both is the same. -/
def Blurs : Numeric → Numeric → Numeric → Prop
  | float _, integer m, integer n => m ≠ n ∧ (Binary64.ofInt64 m).same (.ofInt64 n) = true
  | _, _, _ => False

/-- An integer has at most 53 binary digits. -/
def IsExact : Numeric → Prop
  | integer n => n.toInt.natAbs ≤ 2 ^ (53 : Nat)
  | float _ => True

instance (x : Numeric) : Decidable x.IsExact :=
  match x with
  | integer n => inferInstanceAs (Decidable (n.toInt.natAbs ≤ 2 ^ (53 : Nat)))
  | float _ => inferInstanceAs (Decidable True)

instance (x left right : Numeric) : Decidable (x.Blurs left right) :=
  match x, left, right with
  | float _, integer m, integer n =>
    inferInstanceAs (Decidable (m ≠ n ∧ (Binary64.ofInt64 m).same (.ofInt64 n) = true))
  | integer _, _, _ | float _, float _, _ | float _, integer _, float _ => inferInstanceAs (Decidable False)

/-! ## Places in the order -/

/-- The place that a number has once it is a floating-point number. -/
def place? (x : Numeric) : Option Int :=
  x.toFloat.place?

@[simp]
theorem place?_integer (n : Int64) : (integer n).place? = some (Binary64.placeOfInt n.toInt) :=
  Binary64.place?_ofInt n.toInt

theorem compareFloats?_eq_some {left right : Binary64} {order : Ordering} :
    left.compare? right = some order ↔
      ∃ place place', left.place? = some place ∧ right.place? = some place' ∧ compare place place' = order := by
  unfold Binary64.compare?
  cases left.place? <;> cases right.place? <;> simp

theorem compare?_eq_some {left right : Numeric} {order : Ordering}
    (mixed : ¬ ∃ m n, left = integer m ∧ right = integer n) :
    left.compare? right = some order ↔
      ∃ place place', left.place? = some place ∧ right.place? = some place' ∧ compare place place' = order := by
  rcases left with m | x <;> rcases right with n | y <;>
    simp [compare?, compareFloats?_eq_some, place?] at mixed ⊢

@[simp]
theorem float_blurs_integers {x : Binary64} {m n : Int64} :
    (float x).Blurs (integer m) (integer n) ↔
      m ≠ n ∧ Binary64.placeOfInt m.toInt = Binary64.placeOfInt n.toInt := by
  have places : (integer m).toFloat.same (integer n).toFloat = true ↔
      Binary64.placeOfInt m.toInt = Binary64.placeOfInt n.toInt := by
    have atLeft := place?_integer m
    have atRight := place?_integer n
    rw [place?] at atLeft atRight
    simp [Binary64.same, compareFloats?_eq_some, atLeft, atRight]
  exact and_congr_right' places

@[simp]
theorem not_integer_blurs (m : Int64) (left right : Numeric) : ¬ (integer m).Blurs left right := by
  simp [Blurs]

/-- Numbers that are blurred are two integers with the same place. -/
theorem Blurs.place?_eq {x left right : Numeric} (blurs : x.Blurs left right) :
    left.place? = right.place? ∧ ∃ m n, left = integer m ∧ right = integer n := by
  rcases x with m | x
  · exact absurd blurs (not_integer_blurs m left right)
  · rcases left with m | y <;> rcases right with n | z <;> simp [Blurs] at blurs
    simp [(float_blurs_integers (x := x)).1 blurs]

/-- Integers of at most 53 binary digits are not blurred. -/
theorem not_blurs_of_isExact {a b c : Numeric} (exact : a.IsExact) (exact' : b.IsExact) : ¬ c.Blurs a b := by
  intro blurs
  rcases blurs.place?_eq with ⟨same, m, n, rfl, rfl⟩
  simp at same
  have equal := Binary64.placeOfInt_inj exact exact' same
  rcases c with o | x
  · exact not_integer_blurs o _ _ blurs
  · exact (float_blurs_integers.1 blurs).1 (Int64.toInt_inj.1 equal)

section Ordering

variable [RegexSyntax]

/-! ## The order of the operators -/

/-- The operator `==` holds between two numbers. -/
def Equals (left right : Numeric) : Prop :=
  Term.applyBinary .equal (.number left) (.number right) = .boolean true

/-- The operator `<` holds between two numbers. -/
def IsLess (left right : Numeric) : Prop :=
  Term.applyBinary .less (.number left) (.number right) = .boolean true

theorem equals_iff {left right : Numeric} : left.Equals right ↔ left.compare? right = some .eq := by
  simp [Equals, Term.applyBinary, Term.equal]

theorem isLess_iff {left right : Numeric} : left.IsLess right ↔ left.compare? right = some .lt := by
  simp [IsLess, Term.applyBinary, Term.order?]

instance (left right : Numeric) : Decidable (left.Equals right) :=
  decidable_of_iff _ equals_iff.symm

instance (left right : Numeric) : Decidable (left.IsLess right) :=
  decidable_of_iff _ isLess_iff.symm

/-! ## Places of equal and of smaller numbers -/

@[simp]
theorem integer_equals_integer {m n : Int64} : (integer m).Equals (integer n) ↔ m = n := by
  simp [equals_iff, compare?, Int64.toInt_inj]

@[simp]
theorem integer_isLess_integer {m n : Int64} : (integer m).IsLess (integer n) ↔ m.toInt < n.toInt := by
  simp [isLess_iff, compare?, compare_lt_iff_lt]

/-- Equal numbers have the same place. -/
theorem place?_of_equals {left right : Numeric} (equals : left.Equals right) :
    ∃ place, left.place? = some place ∧ right.place? = some place := by
  by_cases integers : ∃ m n, left = integer m ∧ right = integer n
  · rcases integers with ⟨m, n, rfl, rfl⟩
    simp [integer_equals_integer.1 equals]
  · rcases (compare?_eq_some integers).1 (equals_iff.1 equals) with ⟨place, place', atLeft, atRight, same⟩
    obtain rfl := compare_eq_iff_eq.1 same
    exact ⟨place, atLeft, atRight⟩

/-- Numbers with the same place are equal, unless both are integers. -/
theorem equals_of_place? {left right : Numeric} {place : Int} (atLeft : left.place? = some place)
    (atRight : right.place? = some place) (mixed : ¬ ∃ m n, left = integer m ∧ right = integer n) :
    left.Equals right :=
  equals_iff.2 ((compare?_eq_some mixed).2 ⟨place, place, atLeft, atRight, compare_eq_iff_eq.2 rfl⟩)

/-- A smaller number has a place before that of a larger one, or the same place if both are integers. -/
theorem place?_of_isLess {left right : Numeric} (less : left.IsLess right) :
    ∃ place place', left.place? = some place ∧ right.place? = some place' ∧ place ≤ place' ∧
      (place = place' → ∃ m n, left = integer m ∧ right = integer n) := by
  by_cases integers : ∃ m n, left = integer m ∧ right = integer n
  · have both := integers
    rcases integers with ⟨m, n, rfl, rfl⟩
    have le := Binary64.placeOfInt_mono (Int.le_of_lt (integer_isLess_integer.1 less))
    exact ⟨_, _, place?_integer m, place?_integer n, le, fun _ => both⟩
  · rcases (compare?_eq_some integers).1 (isLess_iff.1 less) with ⟨place, place', atLeft, atRight, lt⟩
    have lt := compare_lt_iff_lt.1 lt
    exact ⟨place, place', atLeft, atRight, Int.le_of_lt lt, fun same => absurd same (Int.ne_of_lt lt)⟩

theorem isLess_of_place? {left right : Numeric} {place place' : Int} (atLeft : left.place? = some place)
    (atRight : right.place? = some place') (lt : place < place') : left.IsLess right := by
  by_cases integers : ∃ m n, left = integer m ∧ right = integer n
  · rcases integers with ⟨m, n, rfl, rfl⟩
    simp only [place?_integer, Option.some.injEq] at atLeft atRight
    rw [integer_isLess_integer]
    by_contra notLess
    have le := Binary64.placeOfInt_mono (Int.not_lt.1 notLess)
    omega
  · exact isLess_iff.2 ((compare?_eq_some integers).2 ⟨place, place', atLeft, atRight, compare_lt_iff_lt.2 lt⟩)

/-! ## The laws of the order -/

variable {a b c : Numeric}

theorem IsLess.trans (less : a.IsLess b) (less' : b.IsLess c) : a.IsLess c := by
  rcases place?_of_isLess less with ⟨p, q, atA, atB, le, integers⟩
  rcases place?_of_isLess less' with ⟨q', r, atB', atC, le', integers'⟩
  obtain rfl := Option.some.inj (atB.symm.trans atB')
  by_cases apart : p < r
  · exact isLess_of_place? atA atC apart
  · rcases integers (by omega) with ⟨m, n, rfl, rfl⟩
    rcases integers' (by omega) with ⟨n', o, same, rfl⟩
    obtain rfl := Numeric.integer.inj same
    exact integer_isLess_integer.2 (Int.lt_trans (integer_isLess_integer.1 less) (integer_isLess_integer.1 less'))

/-- What equals the same number is equal, unless that number blurs it. -/
theorem Equals.trans_iff (equals : a.Equals b) (equals' : b.Equals c) : a.Equals c ↔ ¬ b.Blurs a c := by
  rcases place?_of_equals equals with ⟨p, atA, atB⟩
  rcases place?_of_equals equals' with ⟨p', atB', atC⟩
  obtain rfl := Option.some.inj (atB.symm.trans atB')
  by_cases integers : ∃ m n, a = integer m ∧ c = integer n
  · rcases integers with ⟨m, n, rfl, rfl⟩
    rcases b with o | x
    · simp_all
    · simp at atA atC
      simp [atA, atC]
  · have equal := equals_of_place? atA atC integers
    exact ⟨fun _ blurs => integers blurs.place?_eq.2, fun _ => equal⟩

theorem not_isLess_of_place? {x : Binary64} {right : Numeric} {place : Int}
    (atLeft : (float x).place? = some place) (atRight : right.place? = some place) :
    ¬ (float x).IsLess right ∧ ¬ right.IsLess (float x) := by
  constructor
  · intro less
    rcases place?_of_isLess less with ⟨p, q, atX, atRight', _, integers⟩
    obtain rfl := Option.some.inj (atLeft.symm.trans atX)
    obtain rfl := Option.some.inj (atRight.symm.trans atRight')
    simp at integers
  · intro less
    rcases place?_of_isLess less with ⟨p, q, atRight', atX, _, integers⟩
    obtain rfl := Option.some.inj (atLeft.symm.trans atX)
    obtain rfl := Option.some.inj (atRight.symm.trans atRight')
    simp at integers

/-- What equals a smaller number is smaller, unless it blurs the two. -/
theorem Equals.isLess_iff (equals : a.Equals b) (less : b.IsLess c) : a.IsLess c ↔ ¬ a.Blurs b c := by
  rcases place?_of_equals equals with ⟨p, atA, atB⟩
  rcases place?_of_isLess less with ⟨p', r, atB', atC, le, integers⟩
  obtain rfl := Option.some.inj (atB.symm.trans atB')
  by_cases apart : p = r
  · subst r
    rcases integers rfl with ⟨m, n, rfl, rfl⟩
    rcases a with o | x
    · simp_all
    · have differ : m ≠ n := by
        rintro rfl
        simp at less
      have notLess := (not_isLess_of_place? atA atC).1
      simp at atB atC
      simp [differ, atB, atC, notLess]
  · have less := isLess_of_place? atA atC (by omega)
    exact ⟨fun _ blurs => apart (Option.some.inj (atB.symm.trans (blurs.place?_eq.1.trans atC))), fun _ => less⟩

/-- What is less than a number is less than what equals it, unless that blurs the two. -/
theorem IsLess.equals_iff (less : a.IsLess b) (equals : b.Equals c) : a.IsLess c ↔ ¬ c.Blurs a b := by
  rcases place?_of_isLess less with ⟨p, r, atA, atB, le, integers⟩
  rcases place?_of_equals equals with ⟨r', atB', atC⟩
  obtain rfl := Option.some.inj (atB.symm.trans atB')
  by_cases apart : p = r
  · subst r
    rcases integers rfl with ⟨m, n, rfl, rfl⟩
    rcases c with o | x
    · simp_all
    · have differ : m ≠ n := by
        rintro rfl
        simp at less
      have notLess := (not_isLess_of_place? atC atA).2
      simp at atA atB
      simp [differ, atA, atB, notLess]
  · have less := isLess_of_place? atA atC (by omega)
    exact ⟨fun _ blurs => apart (Option.some.inj (atA.symm.trans (blurs.place?_eq.1.trans atB))), fun _ => less⟩

/--
Less is transitive for all numbers. Each of the laws that go through an equality holds unless a floating-point number of the
three blurs the other two, and then it fails. No integers of at most 53 binary digits are blurred.
-/
theorem order_laws (a b c : Numeric) :
    (a.IsLess b → b.IsLess c → a.IsLess c) ∧
    (a.Equals b → b.Equals c → (a.Equals c ↔ ¬ b.Blurs a c)) ∧
    (a.Equals b → b.IsLess c → (a.IsLess c ↔ ¬ a.Blurs b c)) ∧
    (a.IsLess b → b.Equals c → (a.IsLess c ↔ ¬ c.Blurs a b)) ∧
    (a.IsExact → b.IsExact → ¬ c.Blurs a b) :=
  ⟨IsLess.trans, Equals.trans_iff, Equals.isLess_iff, IsLess.equals_iff, not_blurs_of_isExact⟩

end Ordering

/-- The floating-point number one. -/
def floatOne : Numeric :=
  float (.finite false 0x3FF0000000000000)

/-- One is less than one and a half, which is less than two; one as an integer and as a floating-point number are the same. -/
theorem order_laws_aroundOne :
    (integer 1).IsLess (integer 2) ∧ (integer 1).Equals (integer 1) ∧ floatOne.IsLess (integer 2) ∧
      (integer 0).IsLess floatOne ∧ ¬ floatOne.Blurs (integer 1) (integer 2) := by
  have half : (integer 1).IsLess (float (.finite false 0x3FF8000000000000)) := by decide +kernel
  have half' : (float (.finite false 0x3FF8000000000000)).IsLess (integer 2) := by decide +kernel
  have one : (integer 1).Equals floatOne := by decide +kernel
  have one' : floatOne.Equals (integer 1) := by decide +kernel
  exact ⟨(order_laws _ _ _).1 half half', ((order_laws _ _ _).2.1 one one').2 (by decide +kernel),
    ((order_laws _ _ _).2.2.1 one' (by decide +kernel)).2 (by decide +kernel),
    ((order_laws _ (integer 1) _).2.2.2.1 (by decide +kernel) one).2 (by decide +kernel),
    (order_laws _ _ _).2.2.2.2 (by decide +kernel) (by decide +kernel)⟩

/-- The integers 2^53 and 2^53 + 1 both equal the floating-point number 2^53, and yet they differ. -/
theorem equals_twice_twoPow53 :
    (integer 9007199254740993).Equals (float (.finite false 0x4340000000000000)) ∧
      (float (.finite false 0x4340000000000000)).Equals (integer 9007199254740992) ∧
      ¬ (integer 9007199254740993).Equals (integer 9007199254740992) := by
  decide +kernel

end Numeric

end TreePath

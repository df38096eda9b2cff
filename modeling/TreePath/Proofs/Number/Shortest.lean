import TreePath.Proofs.Reading.Numeral

/-!
# Floating-point numbers are read back

The shortest numeral of a magnitude stands for a decimal that is rounded to it: every candidate is tried before it is
taken, and the zeros that are dropped from its digits count for the place. Both ways of writing a numeral keep its
value, so every finite number is read back from its digits.
-/

namespace TreePath

/-! ## Lengths of digits -/

theorem length_natDigits_le {n width : Nat} (positive : 0 < width) (below : n < 10 ^ width) :
    (natDigits n).length ≤ width :=
  (Nat.length_toDigits_le_iff (by decide) positive).2 below

theorem length_natDigits_pos (n : Nat) : 0 < (natDigits n).length :=
  Nat.length_toDigits_pos

theorem two_pow_le_ten_pow {exponent width : Nat} (wide : exponent ≤ 3 * width) : 2 ^ exponent ≤ 10 ^ width :=
  calc 2 ^ exponent ≤ 2 ^ (3 * width) := Nat.pow_le_pow_right (by decide) wide
    _ = (2 ^ (3 : Nat)) ^ width := Nat.pow_mul 2 3 width
    _ ≤ 10 ^ width := Nat.pow_le_pow_left (by decide) width

namespace Binary64

theorem magnitude_lt_two_pow {code exponent : Nat} (bound : code / 2 ^ (52 : Nat) - 1 ≤ exponent) :
    magnitude code < 2 ^ (53 + exponent) := by
  have fraction_lt : code % 2 ^ (52 : Nat) < 2 ^ (52 : Nat) := Nat.mod_lt _ (by decide)
  have mantissa_lt : 2 ^ (52 : Nat) + code % 2 ^ (52 : Nat) < 2 ^ (53 : Nat) := by omega
  rw [Nat.pow_add]
  unfold magnitude
  simp only
  split
  · exact Nat.lt_of_lt_of_le (by omega) (Nat.le_mul_of_pos_right (2 ^ (53 : Nat)) (Nat.two_pow_pos exponent))
  · exact Nat.mul_lt_mul_of_lt_of_le mantissa_lt (Nat.pow_le_pow_right (by decide) bound) (Nat.two_pow_pos _)

/-- No magnitude has more than 700 digits, counted in units. -/
theorem magnitude_lt (code : Fin 0x7FF0000000000000) {width : Nat} (wide : 700 ≤ width) :
    magnitude code.val < 10 ^ width := by
  have exponent_le : code.val / 2 ^ (52 : Nat) - 1 ≤ 3 * width - 53 := by
    have code_lt := code.isLt
    omega
  exact Nat.lt_of_lt_of_le (magnitude_lt_two_pow exponent_le) (two_pow_le_ten_pow (by omega))

theorem unitsPerOne_eq {places : Nat} (same : 1074 = places) : unitsPerOne = 2 ^ places := by
  unfold unitsPerOne
  exact congrArg _ same

end Binary64

namespace Numeral

/-! ## The value of a numeral -/

/-- A numeral whose decimal is rounded to the magnitude of a code. Its place is not far from zero. -/
structure Writes (numeral : Numeral) (code : Fin 0x7FF0000000000000) : Prop where
  isDigit : ∀ c ∈ numeral.digits, isDigit c = true
  value : Binary64.ofDecimal false (digitsValue numeral.digits) (numeral.place + 1 - numeral.digits.length) =
    .finite false code
  near : numeral.place.natAbs ≤ 20000

theorem exists_zeros (digits : List Char) :
    ∃ count, digits = (digits.reverse.dropWhile (· == '0')).reverse ++ List.replicate count '0' := by
  refine ⟨(digits.reverse.takeWhile (· == '0')).length, ?_⟩
  have zeros : digits.reverse.takeWhile (· == '0') =
      List.replicate (digits.reverse.takeWhile (· == '0')).length '0' := by
    apply List.eq_replicate_of_mem
    intro c member
    exact beq_iff_eq.1 (List.all_eq_true.1 List.all_takeWhile c member)
  have parts := congrArg List.reverse (@List.takeWhile_append_dropWhile _ (· == '0') digits.reverse)
  rw [List.reverse_reverse, List.reverse_append, zeros, List.reverse_replicate] at parts
  exact parts.symm

/-- Dropping the zeros at the end leaves the value as it is. -/
theorem ofScaled_writes {digits : Nat} {exponent : Int} {code : Fin 0x7FF0000000000000}
    (value : Binary64.ofDecimal false digits exponent = .finite false code)
    (few : (natDigits digits).length ≤ 4000) (near : exponent.natAbs ≤ 4000) :
    (ofScaled digits exponent).Writes code := by
  rcases exists_zeros (natDigits digits) with ⟨count, parts⟩
  have length_eq := congrArg List.length parts
  rw [List.length_append, List.length_replicate] at length_eq
  have value_eq := congrArg digitsValue parts
  rw [digitsValue_natDigits, digitsValue_append_zeros] at value_eq
  refine ⟨?_, ?_, ?_⟩
  · intro c member
    have present : c ∈ natDigits digits := parts ▸ List.mem_append_left _ member
    exact isDigit_of_mem_natDigits present
  · have shifted := value_eq ▸ value
    rw [Binary64.ofDecimal_shift] at shifted
    have exponent_eq : (ofScaled digits exponent).place + 1 - (ofScaled digits exponent).digits.length =
        exponent + count := by
      simp only [ofScaled]
      omega
    rw [exponent_eq]
    exact shifted
  · have positive := length_natDigits_pos digits
    simp only [ofScaled]
    omega

theorem leadingPlace_natAbs_le (code : Fin 0x7FF0000000000000) {width : Nat} (wide : 700 ≤ width) :
    (leadingPlace (Binary64.magnitude code.val) Binary64.unitsPerOne).natAbs ≤ width := by
  have width_pos : 0 < width := by omega
  have ⟨places, units⟩ : ∃ places, 1074 = places := ⟨1074, rfl⟩
  have units_pos : 0 < Binary64.unitsPerOne := by
    rw [Binary64.unitsPerOne_eq units]
    exact Nat.two_pow_pos places
  unfold leadingPlace
  split
  · have short := length_natDigits_le width_pos (Nat.lt_of_le_of_lt
      (Nat.div_le_self (Binary64.magnitude code.val) Binary64.unitsPerOne) (Binary64.magnitude_lt code wide))
    have positive := length_natDigits_pos (Binary64.magnitude code.val / Binary64.unitsPerOne)
    omega
  · have small : (Binary64.unitsPerOne - 1) / Binary64.magnitude code.val < 10 ^ width := by
      refine Nat.lt_of_le_of_lt (Nat.div_le_self _ _) (Nat.lt_of_lt_of_le (Nat.sub_lt units_pos Nat.one_pos) ?_)
      rw [Binary64.unitsPerOne_eq units]
      exact two_pow_le_ten_pow (by omega)
    have short := length_natDigits_le width_pos small
    omega

theorem readsBack_iff {code : Fin 0x7FF0000000000000} {digits : Nat} {exponent : Int} :
    readsBack code digits exponent = true ↔
      Binary64.ofDecimal false digits exponent = .finite false code := by
  rw [readsBack, beq_iff_eq]

/-- A candidate reads back, and it is a neighbour of the magnitude. -/
theorem atExponent?_eq_some {code : Fin 0x7FF0000000000000} {exponent : Int} {digits : Nat}
    (found : atExponent? code exponent = some digits) :
    readsBack code digits exponent = true ∧
      digits ≤ Binary64.magnitude code.val * 10 ^ (-exponent).toNat + 1 := by
  have below : Binary64.magnitude code.val * 10 ^ (-exponent).toNat /
      (Binary64.unitsPerOne * 10 ^ exponent.toNat) ≤ Binary64.magnitude code.val * 10 ^ (-exponent).toNat :=
    Nat.div_le_self _ _
  unfold atExponent? at found
  simp only at found
  split at found
  · rename_i lower upper
    split at found
    · rcases Option.some.inj found with rfl
      exact ⟨lower, Nat.le_succ_of_le below⟩
    · rcases Option.some.inj found with rfl
      exact ⟨upper, Nat.succ_le_succ below⟩
  · rename_i lower _
    rcases Option.some.inj found with rfl
    exact ⟨lower, Nat.le_succ_of_le below⟩
  · rename_i _ upper
    rcases Option.some.inj found with rfl
    exact ⟨upper, Nat.succ_le_succ below⟩
  · cases found

section Bounds

variable {code : Fin 0x7FF0000000000000} {width : Nat}

/-- A candidate whose exponent is not far from zero gives a numeral of the magnitude. -/
theorem candidate_writes {exponent : Int} {digits : Nat} (found : atExponent? code exponent = some digits)
    (wide : 700 ≤ width) (narrow : width ≤ 1000) (near : exponent.natAbs ≤ 1000) :
    (ofScaled digits exponent).Writes code := by
  rcases atExponent?_eq_some found with ⟨reads, digits_le⟩
  have digits_lt : digits < 10 ^ (width + (-exponent).toNat + 1) :=
    calc digits ≤ Binary64.magnitude code.val * 10 ^ (-exponent).toNat + 1 := digits_le
      _ ≤ 10 ^ width * 10 ^ (-exponent).toNat := by
          exact Nat.mul_lt_mul_of_pos_right (Binary64.magnitude_lt code wide) (Nat.pow_pos (by decide))
      _ = 10 ^ (width + (-exponent).toNat) := (Nat.pow_add 10 width _).symm
      _ < 10 ^ (width + (-exponent).toNat + 1) := Nat.pow_lt_pow_right (by decide) (Nat.lt_succ_self _)
  have short := length_natDigits_le (Nat.succ_pos _) digits_lt
  exact ofScaled_writes (readsBack_iff.1 reads) (by omega) (by omega)

/-- The magnitude written out in full is a numeral of it. -/
theorem expansion_writes {places : Nat} (units : 1074 = places) (wide : 700 ≤ width) (narrow : width ≤ 1000) :
    (ofScaled (Binary64.magnitude code.val * 5 ^ places) (-places)).Writes code := by
  have digits_lt : Binary64.magnitude code.val * 5 ^ places < 10 ^ (width + places) := by
    rw [Nat.pow_add]
    exact Nat.mul_lt_mul_of_lt_of_le (Binary64.magnitude_lt code wide)
      (Nat.pow_le_pow_left (by decide) places) (Nat.pow_pos (by decide))
  have short := length_natDigits_le (by omega) digits_lt
  exact ofScaled_writes (Binary64.ofDecimal_expansion (Binary64.unitsPerOne_eq units) code) (by omega) (by omega)

end Bounds

/-- The shortest numeral of a magnitude is rounded to that magnitude. -/
theorem shortest_writes (code : Fin 0x7FF0000000000000) : (shortest code).Writes code := by
  have place_near := leadingPlace_natAbs_le code (Nat.le_refl 700)
  unfold shortest
  extract_lets place attempt
  change place.natAbs ≤ 700 at place_near
  cases found : (List.range 17).findSome? attempt with
  | some numeral =>
      rcases List.exists_of_findSome?_eq_some found with ⟨count, member, attempted⟩
      have count_lt := List.mem_range.1 member
      rcases Option.map_eq_some_iff.1 attempted with ⟨digits, candidate, rfl⟩
      exact candidate_writes candidate (Nat.le_refl 700) (by decide) (by omega)
  | none => exact @expansion_writes code 700 1074 rfl (Nat.le_refl 700) (by decide)

theorem digits_ne_nil {numeral : Numeral} {code : Fin 0x7FF0000000000000} (writes : numeral.Writes code)
    (nonzero : code.val ≠ 0) : numeral.digits ≠ [] := by
  intro empty
  have value := writes.value
  rw [empty] at value
  rcases Binary64.finite.inj ((Binary64.ofDecimal_zero false _).symm.trans value) with ⟨-, rfl⟩
  exact nonzero rfl

/-! ## Texts of a numeral -/

/-- A whole part and a fraction which write a decimal that is rounded to the magnitude of a code. -/
structure Parts (whole fraction : List Char) (code : Fin 0x7FF0000000000000) : Prop where
  whole_ne_nil : whole ≠ []
  fraction_ne_nil : fraction ≠ []
  isDigit : ∀ c ∈ whole ++ fraction, isDigit c = true
  value : Binary64.ofDecimal false (digitsValue (whole ++ fraction)) (-fraction.length) = .finite false code

section Texts

variable {numeral : Numeral} {code : Fin 0x7FF0000000000000} {rest : List Char}

theorem isDigit_of_mem_zeros {count : Nat} {c : Char} (member : c ∈ List.replicate count '0') :
    TreePath.isDigit c = true := by
  rw [List.eq_of_mem_replicate member]
  rfl

/-- A whole part with a fraction behind it is read as the decimal that they write. -/
theorem Parts.readNumeric {whole fraction : List Char} (parts : Parts whole fraction code)
    (stops : stopsAt continuesNumeral rest = true) (negative : Bool) :
    readNumeric (signText negative ++ (whole ++ '.' :: fraction) ++ rest) =
      .ok (.float (.finite negative code), rest) := by
  have wholeParts := splitInteger_append negative ('.' :: fraction ++ rest) parts.whole_ne_nil
    (fun c member => parts.isDigit c (List.mem_append_left _ member)) rfl
  have fractionParts := splitFraction_append rest parts.fraction_ne_nil
    (fun c member => parts.isDigit c (List.mem_append_right _ member)) (stopsAt_isDigit stops)
  have found := floatOf?_positional whole fraction parts.whole_ne_nil parts.value negative
  rw [← List.append_assoc, List.append_assoc, TreePath.readNumeric, wholeParts]
  simp only [fractionParts, splitExponent_of_stopsAt stops, Option.isNone_some, Bool.false_and,
    Bool.false_eq_true, if_false, Option.getD_some, found, Option.map_some]

/-- Below one, zeros stand between the point and the digits. -/
theorem Writes.parts_of_neg (writes : numeral.Writes code) (present : numeral.digits ≠ [])
    (below : numeral.place < 0) :
    Parts ['0'] (List.replicate (-numeral.place - 1).toNat '0' ++ numeral.digits) code := by
  have padded : digitsValue (['0'] ++ (List.replicate (-numeral.place - 1).toNat '0' ++ numeral.digits)) =
      digitsValue numeral.digits :=
    (digitsValue_zeros_append 1 _).trans (digitsValue_zeros_append _ _)
  have exponent : -((List.replicate (-numeral.place - 1).toNat '0' ++ numeral.digits).length : Int) =
      numeral.place + 1 - numeral.digits.length := by
    rw [List.length_append, List.length_replicate]
    omega
  refine ⟨by simp, by simp [present], ?_, ?_⟩
  · intro c member
    rcases List.mem_append.1 member with zero | member
    · exact @isDigit_of_mem_zeros 1 c zero
    · rcases List.mem_append.1 member with zero | digit
      · exact isDigit_of_mem_zeros zero
      · exact writes.isDigit c digit
  · rw [padded, exponent]
    exact writes.value

/-- Zeros fill the whole part up if the digits end before the point. -/
theorem Writes.parts_of_short (writes : numeral.Writes code) (present : numeral.digits ≠ []) (filled : Nat)
    (width : numeral.place + 1 = numeral.digits.length + filled) :
    Parts (numeral.digits ++ List.replicate filled '0') ['0'] code := by
  refine ⟨by simp [present], by simp, ?_, ?_⟩
  · intro c member
    rcases List.mem_append.1 member with member | zero
    · rcases List.mem_append.1 member with digit | zero
      · exact writes.isDigit c digit
      · exact isDigit_of_mem_zeros zero
    · exact @isDigit_of_mem_zeros 1 c zero
  · have padded : digitsValue (numeral.digits ++ List.replicate filled '0' ++ ['0']) =
        digitsValue numeral.digits * 10 ^ (filled + 1) := by
      rw [List.append_assoc, ← digitsValue_append_zeros, List.replicate_succ']
    have exponent : (-1 : Int) + ((filled + 1 : Nat) : Int) = numeral.place + 1 - numeral.digits.length := by
      omega
    rw [padded, Binary64.ofDecimal_shift]
    exact exponent ▸ writes.value

/-- The point stands among the digits if there are enough of them. -/
theorem Writes.parts_of_long (writes : numeral.Writes code) {width : Nat} (positive : 0 < width)
    (place : numeral.place + 1 = width) (long : width < numeral.digits.length) :
    Parts (numeral.digits.take width) (numeral.digits.drop width) code := by
  have whole_length : (numeral.digits.take width).length = width := by
    rw [List.length_take]
    omega
  have fraction_length : (numeral.digits.drop width).length = numeral.digits.length - width := List.length_drop
  refine ⟨List.ne_nil_of_length_pos (by omega), List.ne_nil_of_length_pos (by omega), ?_, ?_⟩
  · rw [List.take_append_drop]
    exact writes.isDigit
  · have exponent : -((numeral.digits.drop width).length : Int) =
        numeral.place + 1 - numeral.digits.length := by
      omega
    rw [List.take_append_drop, exponent]
    exact writes.value

/-- A positional text has a whole part and a fraction. -/
theorem Writes.exists_parts (writes : numeral.Writes code) (present : numeral.digits ≠ []) :
    ∃ whole fraction, numeral.positional = whole ++ '.' :: fraction ∧ Parts whole fraction code := by
  rw [positional]
  by_cases below : numeral.place < 0
  · rw [if_pos below]
    exact ⟨_, _, rfl, writes.parts_of_neg present below⟩
  · rw [if_neg below]
    simp only
    by_cases long : numeral.place.toNat + 1 < numeral.digits.length
    · have fraction : (numeral.digits.drop (numeral.place.toNat + 1)).isEmpty = false := by
        rw [List.isEmpty_eq_false_iff]
        exact List.ne_nil_of_length_pos (by rw [List.length_drop]; omega)
      have unfilled : numeral.place.toNat + 1 - numeral.digits.length = 0 := by omega
      have parts := writes.parts_of_long (Nat.succ_pos numeral.place.toNat) (by omega) long
      rw [fraction, unfilled, List.replicate_zero, List.append_nil]
      exact ⟨_, _, rfl, parts⟩
    · have fraction : numeral.digits.drop (numeral.place.toNat + 1) = [] :=
        List.drop_of_length_le (by omega)
      have whole : numeral.digits.take (numeral.place.toNat + 1) = numeral.digits :=
        List.take_of_length_le (by omega)
      have parts := writes.parts_of_short present (numeral.place.toNat + 1 - numeral.digits.length) (by omega)
      rw [fraction, whole]
      exact ⟨_, _, rfl, parts⟩

theorem Writes.readNumeric_positional (writes : numeral.Writes code) (present : numeral.digits ≠ [])
    (stops : stopsAt continuesNumeral rest = true) (negative : Bool) :
    TreePath.readNumeric (signText negative ++ numeral.positional ++ rest) =
      .ok (.float (.finite negative code), rest) := by
  rcases writes.exists_parts present with ⟨whole, fraction, same, parts⟩
  rw [same]
  exact parts.readNumeric stops negative

theorem Writes.readNumeric_exponential (writes : numeral.Writes code) (present : numeral.digits ≠ [])
    (stops : stopsAt continuesNumeral rest = true) (negative : Bool) :
    TreePath.readNumeric (signText negative ++ numeral.exponential ++ rest) =
      .ok (.float (.finite negative code), rest) := by
  have value := writes.value
  have exponentParts := splitExponent_intDigits numeral.place (stopsAt_isDigit stops)
  have allDigits := writes.isDigit
  rw [exponential]
  match digits : numeral.digits with
  | [] => exact absurd digits present
  | [digit] =>
      rw [digits] at value allDigits
      have wholeParts := splitInteger_append negative ('e' :: intDigits numeral.place ++ rest)
        (List.cons_ne_nil digit []) allDigits rfl
      have fractionParts : splitFraction ('e' :: intDigits numeral.place ++ rest) =
          (none, 'e' :: intDigits numeral.place ++ rest) := splitFraction_of_stopsAt rfl
      have found := floatOf?_exponential [digit] [] writes.near (List.cons_ne_nil digit [])
        (by simpa using value) negative
      rw [← List.append_assoc, List.append_assoc, TreePath.readNumeric, wholeParts]
      simp only [fractionParts, exponentParts, Option.isNone_none, Option.isNone_some, Bool.and_false,
        Bool.false_eq_true, if_false, Option.getD_none, found, Option.map_some]
  | digit :: second :: fraction =>
      rw [digits] at value allDigits
      have wholeParts := splitInteger_append negative
        ('.' :: (second :: fraction) ++ ('e' :: intDigits numeral.place ++ rest)) (List.cons_ne_nil digit [])
        (fun c member => allDigits c (List.mem_cons.2 (.inl (List.mem_singleton.1 member)))) rfl
      have fractionParts := splitFraction_append ('e' :: intDigits numeral.place ++ rest)
        (List.cons_ne_nil second fraction) (fun c member => allDigits c (List.mem_cons_of_mem digit member)) rfl
      have exponent_eq : numeral.place + 1 - ((digit :: second :: fraction).length : Int) =
          numeral.place - ((second :: fraction).length : Int) := by
        simp only [List.length_cons]
        omega
      have found := floatOf?_exponential [digit] (second :: fraction) writes.near
        (List.cons_ne_nil digit []) (exponent_eq ▸ value) negative
      have text_eq : signText negative ++ (digit :: '.' :: second :: fraction ++ 'e' :: intDigits numeral.place) ++
          rest = signText negative ++ [digit] ++
            ('.' :: (second :: fraction) ++ ('e' :: intDigits numeral.place ++ rest)) := by
        simp
      rw [text_eq, TreePath.readNumeric, wholeParts]
      simp only [fractionParts, exponentParts, Option.isNone_some, Bool.and_false,
        Bool.false_eq_true, if_false, Option.getD_some, found, Option.map_some]

/-- Either text of a numeral begins with a digit. -/
theorem Writes.exists_digit (writes : numeral.Writes code) (present : numeral.digits ≠ []) :
    (∃ c more, numeral.positional = c :: more ∧ TreePath.isDigit c = true) ∧
      ∃ c more, numeral.exponential = c :: more ∧ TreePath.isDigit c = true := by
  constructor
  · rcases writes.exists_parts present with ⟨whole, fraction, same, parts⟩
    cases whole with
    | nil => exact absurd rfl parts.whole_ne_nil
    | cons c whole => exact ⟨c, _, same, parts.isDigit c List.mem_cons_self⟩
  · have allDigits := writes.isDigit
    rw [exponential]
    match digits : numeral.digits with
    | [] => exact absurd digits present
    | [digit] => exact ⟨digit, _, rfl, allDigits digit (by simp [digits])⟩
    | digit :: second :: fraction => exact ⟨digit, _, rfl, allDigits digit (by simp [digits])⟩

end Texts

end Numeral

/-- Every finite number is read back from its digits. -/
theorem readNumeric_digits {x : Binary64} (finite : x.isFinite = true) {rest : List Char}
    (stops : stopsAt continuesNumeral rest = true) : readNumeric (x.digits ++ rest) = .ok (.float x, rest) := by
  cases x with
  | nan => cases finite
  | infinite negative => cases finite
  | finite negative code =>
      have writes := Numeral.shortest_writes code
      have sign : (if negative = true then ['-'] else []) = signText negative := rfl
      rw [Binary64.digits, Binary64.digitsFrom]
      simp only [sign]
      by_cases zero : code.val = 0
      · have parts : Numeral.Parts ['0'] ['0'] code := by
          refine ⟨by simp, by simp, List.all_eq_true.1 rfl, ?_⟩
          rw [show code = ⟨0, by decide⟩ from Fin.ext zero]
          exact Binary64.ofDecimal_zero false _
        rw [if_pos zero]
        exact parts.readNumeric stops negative
      · have present := Numeral.digits_ne_nil writes zero
        rw [if_neg zero]
        split
        · exact writes.readNumeric_positional present stops negative
        · exact writes.readNumeric_exponential present stops negative

/-- The digits of a finite number begin with a digit after the sign. -/
theorem exists_digit_of_isFinite {x : Binary64} (finite : x.isFinite = true) :
    ∃ negative c more, x.digits = signText negative ++ c :: more ∧ isDigit c = true := by
  cases x with
  | nan => cases finite
  | infinite negative => cases finite
  | finite negative code =>
      have sign : (if negative = true then ['-'] else []) = signText negative := rfl
      rw [Binary64.digits, Binary64.digitsFrom]
      simp only [sign]
      by_cases zero : code.val = 0
      · rw [if_pos zero]
        exact ⟨negative, '0', ['.', '0'], rfl, rfl⟩
      · have writes := Numeral.shortest_writes code
        rcases writes.exists_digit (Numeral.digits_ne_nil writes zero) with
          ⟨⟨c, more, positional, digit⟩, first, others, exponential, firstDigit⟩
        rw [if_neg zero]
        split
        · exact ⟨negative, c, more, by rw [positional], digit⟩
        · exact ⟨negative, first, others, by rw [exponential], firstDigit⟩

end TreePath

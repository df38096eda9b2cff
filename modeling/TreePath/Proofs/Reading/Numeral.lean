import TreePath.Number.Shortest
import TreePath.Proofs.Number.Scaling
import TreePath.Proofs.Reading.Delimited
import TreePath.Reading.Numeral

/-!
# Numerals are read back

An integer is read back from its digits wherever a numeral may end. A floating-point number is read back from its whole
part, fraction and exponent if the decimal that these make is rounded to it.
-/

namespace TreePath

/-! ## Where a numeral, word or name ends -/

/-- Whether a text ends or goes on with a character outside of a class. -/
def stopsAt (belongs : Char → Bool) : List Char → Bool
  | [] => true
  | c :: _ => !belongs c

theorem takeWhile_append_of_stopsAt {belongs : Char → Bool} {taken rest : List Char}
    (all : ∀ c ∈ taken, belongs c = true) (stops : stopsAt belongs rest = true) :
    (taken ++ rest).takeWhile belongs = taken := by
  have none_left : rest.takeWhile belongs = [] := by
    cases rest with
    | nil => rfl
    | cons c rest =>
        rw [stopsAt, Bool.not_eq_true'] at stops
        rw [List.takeWhile_cons, stops]
        rfl
  rw [List.takeWhile_append_of_pos all, none_left, List.append_nil]

theorem stopsAt_of_imp {narrow wide : Char → Bool} (belongs : ∀ c, narrow c = true → wide c = true)
    {rest : List Char} (stops : stopsAt wide rest = true) : stopsAt narrow rest = true := by
  cases rest with
  | nil => rfl
  | cons c rest =>
      rw [stopsAt, Bool.not_eq_true'] at stops ⊢
      refine Bool.eq_false_iff.2 fun inside => ?_
      rw [belongs c inside] at stops
      cases stops

/-- Whether a character would be taken for a part of the numeral before it. -/
def continuesNumeral (c : Char) : Bool :=
  c == '.' || isAlphanumeric c || c == '_'

theorem continuesNumeral_of_isDigit (c : Char) (digit : isDigit c = true) : continuesNumeral c = true := by
  have ascii : c.toNat < 128 := by
    rw [isDigit, Bool.and_eq_true, decide_eq_true_iff, decide_eq_true_iff] at digit
    exact Nat.lt_of_le_of_lt digit.2 (by decide)
  simp [continuesNumeral, isAlphanumeric, ascii, digit]

theorem stopsAt_isDigit {rest : List Char} (stops : stopsAt continuesNumeral rest = true) :
    stopsAt isDigit rest = true :=
  stopsAt_of_imp continuesNumeral_of_isDigit stops

/-! ## Digits -/

theorem isDigit_of_mem_natDigits {n : Nat} {c : Char} (member : c ∈ natDigits n) : isDigit c = true :=
  Nat.isDigit_of_mem_toDigits (by decide) (by decide) member

theorem natDigits_ne_nil (n : Nat) : natDigits n ≠ [] :=
  Nat.toDigits_ne_nil

theorem digitsValue_natDigits (n : Nat) : digitsValue (natDigits n) = n :=
  Nat.ofDigitChars_ten_toDigits

theorem digitsValue_append_zeros (digits : List Char) (count : Nat) :
    digitsValue (digits ++ List.replicate count '0') = digitsValue digits * 10 ^ count := by
  have parts := @Nat.ofDigitChars_append 10 digits (List.replicate count '0') 0
  rw [Nat.ofDigitChars_replicate_zero, Nat.mul_comm] at parts
  exact parts

theorem digitsValue_zeros_append (count : Nat) (digits : List Char) :
    digitsValue (List.replicate count '0' ++ digits) = digitsValue digits := by
  have parts := @Nat.ofDigitChars_append 10 (List.replicate count '0') digits 0
  rw [Nat.ofDigitChars_replicate_zero, Nat.mul_zero] at parts
  exact parts

/-- The sign in front of a numeral. -/
def signText (negative : Bool) : List Char :=
  if negative then ['-'] else []

theorem intDigits_eq (n : Int) : intDigits n = signText (decide (n < 0)) ++ natDigits n.natAbs := by
  by_cases negative : n < 0
  · simp [intDigits, signText, negative]
  · simp [intDigits, signText, negative]

/-- Sign and digits are split off from what follows them. -/
theorem splitInteger_append (negative : Bool) {digits : List Char} (rest : List Char) (present : digits ≠ [])
    (all : ∀ c ∈ digits, isDigit c = true) (stops : stopsAt isDigit rest = true) :
    splitInteger (signText negative ++ digits ++ rest) = (negative, digits, rest) := by
  have taken := takeWhile_append_of_stopsAt all stops
  cases negative with
  | true =>
      show (true, (digits ++ rest).takeWhile isDigit,
        (digits ++ rest).drop ((digits ++ rest).takeWhile isDigit).length) = _
      rw [taken, List.drop_left]
  | false =>
      cases digits with
      | nil => exact absurd rfl present
      | cons c digits =>
          have notMinus : c ≠ '-' := by
            rintro rfl
            exact absurd (all '-' List.mem_cons_self) (by decide)
          show splitInteger (c :: digits ++ rest) = _
          rw [splitInteger]
          · rw [taken, List.drop_left]
          · rintro tail ⟨rfl, -⟩
            exact notMinus rfl

/-! ## Integers -/

theorem integerOf?_natDigits (n : Int64) :
    integerOf? (decide (n.toInt < 0)) (natDigits n.toInt.natAbs) = some n := by
  have present : (natDigits n.toInt.natAbs).isEmpty = false :=
    List.isEmpty_eq_false_iff.2 (natDigits_ne_nil _)
  have value : (if decide (n.toInt < 0) = true then -(n.toInt.natAbs : Int) else n.toInt.natAbs) = n.toInt := by
    split
    · rename_i negative
      have below := of_decide_eq_true negative
      omega
    · rename_i positive
      have above := of_decide_eq_false (Bool.not_eq_true _ ▸ positive)
      omega
  rw [integerOf?, present, digitsValue_natDigits, value]
  exact int64?_toInt n

/-- An integer is read back where no numeral can go on. -/
theorem readInteger_intDigits (n : Int64) {rest : List Char} (stops : stopsAt continuesNumeral rest = true) :
    readInteger (intDigits n.toInt ++ rest) = .ok (n, rest) := by
  have parts := splitInteger_append (decide (n.toInt < 0)) rest (natDigits_ne_nil n.toInt.natAbs)
    (fun c => isDigit_of_mem_natDigits) (stopsAt_isDigit stops)
  rw [intDigits_eq, readInteger, parts]
  simp only [integerOf?_natDigits]
  cases rest with
  | nil => rfl
  | cons c rest =>
      rw [stopsAt, Bool.not_eq_true', continuesNumeral] at stops
      simp [stops]

/-! ## Fractions and exponents -/

theorem splitFraction_of_stopsAt {rest : List Char} (stops : stopsAt (· == '.') rest = true) :
    splitFraction rest = (none, rest) := by
  cases rest with
  | nil => rfl
  | cons c rest =>
      rw [splitFraction]
      rintro tail ⟨rfl, rfl⟩
      simp [stopsAt] at stops

theorem splitFraction_append {digits : List Char} (rest : List Char) (present : digits ≠ [])
    (all : ∀ c ∈ digits, isDigit c = true) (stops : stopsAt isDigit rest = true) :
    splitFraction ('.' :: digits ++ rest) = (some digits, rest) := by
  have filled : digits.isEmpty = false := List.isEmpty_eq_false_iff.2 present
  simp only [List.cons_append, splitFraction, takeWhile_append_of_stopsAt all stops, filled,
    List.drop_left, Bool.false_eq_true, if_false]

theorem splitExponent_of_stopsAt {rest : List Char} (stops : stopsAt continuesNumeral rest = true) :
    splitExponent rest = (none, rest) := by
  cases rest with
  | nil => rfl
  | cons c rest =>
      rw [stopsAt, Bool.not_eq_true'] at stops
      have noMark : ¬(c = 'e' ∨ c = 'E') := by
        rintro (rfl | rfl)
        · exact absurd stops (by decide)
        · exact absurd stops (by decide)
      rw [splitExponent.eq_def]
      exact if_neg noMark

theorem splitExponent_intDigits (n : Int) {rest : List Char} (stops : stopsAt isDigit rest = true) :
    splitExponent ('e' :: intDigits n ++ rest) = (some (decide (n < 0), natDigits n.natAbs), rest) := by
  have taken := takeWhile_append_of_stopsAt (fun c => @isDigit_of_mem_natDigits n.natAbs c) stops
  by_cases negative : n < 0
  · simp [splitExponent, intDigits, negative, taken]
  · have digits_eq : ∃ c digits, natDigits n.natAbs = c :: digits ∧ isDigit c = true := by
      cases digits : natDigits n.natAbs with
      | nil => exact absurd digits (natDigits_ne_nil _)
      | cons c more => exact ⟨c, more, rfl, isDigit_of_mem_natDigits (digits ▸ List.mem_cons_self)⟩
    rcases digits_eq with ⟨c, digits, same, digit⟩
    have notPlus : c ≠ '+' := by
      rintro rfl
      exact absurd digit (by decide)
    have notMinus : c ≠ '-' := by
      rintro rfl
      exact absurd digit (by decide)
    rw [same] at taken
    simp only [List.cons_append] at taken
    simp [splitExponent, intDigits, negative, same, taken, notPlus, notMinus]

/-- An integer is read back as a number, too. -/
theorem readNumeric_intDigits (n : Int64) {rest : List Char} (stops : stopsAt continuesNumeral rest = true) :
    readNumeric (intDigits n.toInt ++ rest) = .ok (.integer n, rest) := by
  have parts := splitInteger_append (decide (n.toInt < 0)) rest (natDigits_ne_nil n.toInt.natAbs)
    (fun c => isDigit_of_mem_natDigits) (stopsAt_isDigit stops)
  have noPoint : stopsAt (· == '.') rest = true := by
    refine stopsAt_of_imp (fun c point => ?_) stops
    rw [continuesNumeral, point, Bool.true_or, Bool.true_or]
  rw [intDigits_eq, readNumeric, parts]
  simp only [splitFraction_of_stopsAt noPoint, splitExponent_of_stopsAt stops, Option.isNone_none, Bool.and_self,
    if_true, integerOf?_natDigits, Option.map_some]

/-! ## Floating-point numbers -/

section Floats

variable (whole fraction : List Char) {code : Fin 0x7FF0000000000000}

theorem floatOf?_positional (present : whole ≠ [])
    (value : Binary64.ofDecimal false (digitsValue (whole ++ fraction)) (-fraction.length) = .finite false code)
    (negative : Bool) : floatOf? negative whole fraction none = some (.finite negative code) := by
  have filled : (whole ++ fraction).isEmpty = false := by simp [present]
  have signed := Binary64.ofDecimal_sign value negative
  simp only [floatOf?, Int.zero_sub, signed, filled, Binary64.isFinite, Bool.not_false, Bool.and_true, if_true]

theorem floatOf?_exponential {exponent : Int} (small : exponent.natAbs ≤ 20000) (present : whole ≠ [])
    (value : Binary64.ofDecimal false (digitsValue (whole ++ fraction)) (exponent - fraction.length) =
      .finite false code)
    (negative : Bool) :
    floatOf? negative whole fraction (some (decide (exponent < 0), natDigits exponent.natAbs)) =
      some (.finite negative code) := by
  have filled : (whole ++ fraction).isEmpty = false := by simp [present]
  have signed := Binary64.ofDecimal_sign value negative
  have uncut : min exponent.natAbs (20000 + (whole ++ fraction).length) = exponent.natAbs := by omega
  have power : (if decide (exponent < 0) = true then -(exponent.natAbs : Int) else exponent.natAbs) = exponent := by
    split
    · rename_i down
      have below := of_decide_eq_true down
      omega
    · rename_i up
      have above := of_decide_eq_false (Bool.not_eq_true _ ▸ up)
      omega
  cases digits : natDigits exponent.natAbs with
  | nil => exact absurd digits (natDigits_ne_nil _)
  | cons c more =>
      rw [floatOf?]
      · simp only
        rw [← digits, digitsValue_natDigits, uncut, power]
        simp only [signed, filled, Binary64.isFinite, Bool.not_false, Bool.and_true, if_true]
      · simp

end Floats

end TreePath

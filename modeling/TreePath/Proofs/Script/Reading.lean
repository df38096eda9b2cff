import TreePath.Proofs.Path.Bracket
import TreePath.Proofs.Path.Legible
import TreePath.Proofs.Number.Shortest
import TreePath.Proofs.Script.Rendering

/-!
# Operands and operators are read back

The texts of an operand are read back as its equation: as an operand of another operator up to the blank or mark behind
it, and on its own up to where a script or a group ends. The budget that this takes is bounded by the length of the
text. An operator is read back if its operands are.
-/

namespace TreePath

/-! ## Where operands and scripts end -/

/-- Whether a text ends or goes on with one of some marks. -/
def endsIn (marks : List Char) : List Char → Bool
  | [] => true
  | c :: _ => marks.contains c

/-- The characters that can follow an equation. -/
def equationEnds : List Char := [')', ',', ']']

/-- The characters that can follow an operand. -/
def operandEnds : List Char := ' ' :: equationEnds

theorem stopsAt_of_endsIn {marks : List Char} {belongs : Char → Bool}
    (outside : (marks.all fun c => !belongs c) = true) {rest : List Char} (ends : endsIn marks rest = true) :
    stopsAt belongs rest = true := by
  cases rest with
  | nil => rfl
  | cons c rest =>
      rw [endsIn, List.contains_iff_mem] at ends
      exact List.all_eq_true.1 outside c ends

theorem endsIn_operandEnds {rest : List Char} (ends : endsIn equationEnds rest = true) :
    endsIn operandEnds rest = true := by
  cases rest with
  | nil => rfl
  | cons c rest =>
      rw [endsIn, List.contains_iff_mem] at ends ⊢
      exact List.mem_cons_of_mem _ ends

theorem readOperator_of_endsIn {rest : List Char} (ends : endsIn equationEnds rest = true) :
    readOperator rest = .ok none := by
  cases rest with
  | nil => rfl
  | cons c rest =>
      rw [endsIn, List.contains_iff_mem] at ends
      simp only [equationEnds, List.mem_cons, List.not_mem_nil, or_false] at ends
      rcases ends with rfl | rfl | rfl <;> rfl

theorem splitWord_append {word rest : List Char} (inside : ∀ c ∈ word, isWordPart c = true)
    (stops : stopsAt isWordPart rest = true) : splitWord (word ++ rest) = (word, rest) := by
  rw [splitWord]
  simp only [takeWhile_append_of_stopsAt inside stops, List.drop_left]

theorem startsNumeric_signText (negative : Bool) {c : Char} (digit : isDigit c = true) (text : List Char) :
    startsNumeric (signText negative ++ c :: text) = true := by
  cases negative with
  | true => exact digit
  | false =>
      show startsNumeric (c :: text) = true
      rw [startsNumeric]
      · exact digit
      · rintro d more ⟨rfl, -⟩
        cases digit

variable [RegexSyntax]

theorem readOperators_of_endsIn {budget : Nat} (enough : 0 < budget) (loosest : Nat) (left : Equation)
    {rest : List Char} (ends : endsIn equationEnds rest = true) :
    readOperators budget loosest left rest = .ok (left, rest) := by
  cases budget with
  | zero => cases enough
  | succ budget =>
      rw [readOperators, readOperator_of_endsIn ends]
      rfl

theorem readOperand_blank (budget : Nat) (text : List Char) :
    readOperand (budget + 1) (' ' :: text) = readOperand (budget + 1) text := by
  rw [readOperand.eq_def, readOperand.eq_def]
  rfl

/-! ## Texts that are read back -/

/-- The texts of a rendering are read as an equation. -/
structure Rendering.Reads (rendering : Rendering) (equation : Equation) : Prop where
  nested : ∀ {budget : Nat} {rest : List Char}, 4 * rendering.nested.length ≤ budget →
    endsIn operandEnds rest = true → readOperand budget (rendering.nested ++ rest) = .ok (equation, rest)
  alone : ∀ {budget : Nat} {rest : List Char}, 4 * rendering.alone.length + 1 ≤ budget →
    endsIn equationEnds rest = true →
      readEquation budget Operator.loosest (rendering.alone ++ rest) = .ok (equation, rest)

namespace Rendering

variable {equation : Equation}

/-- What is read as an operand has at least one character. -/
theorem length_pos_of_reads {text : List Char}
    (reads : ∀ {budget : Nat} {rest : List Char}, 4 * text.length ≤ budget → endsIn operandEnds rest = true →
      readOperand budget (text ++ rest) = .ok (equation, rest)) : 0 < text.length := by
  cases text with
  | nil =>
      have read := @reads 0 [] (Nat.le_refl 0) rfl
      rw [readOperand] at read
      cases read
  | cons c text => exact Nat.succ_pos _

/-- An operand is an equation of its own where no operator follows. -/
theorem readEquation_nested {text : List Char}
    (reads : ∀ {budget : Nat} {rest : List Char}, 4 * text.length ≤ budget → endsIn operandEnds rest = true →
      readOperand budget (text ++ rest) = .ok (equation, rest))
    {budget : Nat} (enough : 4 * text.length + 1 ≤ budget) (loosest : Nat) {rest : List Char}
    (ends : endsIn equationEnds rest = true) :
    readEquation budget loosest (text ++ rest) = .ok (equation, rest) := by
  have positive := length_pos_of_reads reads
  cases budget with
  | zero => omega
  | succ budget =>
      rw [readEquation, reads (by omega) (endsIn_operandEnds ends), ok_bind]
      exact readOperators_of_endsIn (by omega) loosest equation ends

/-- A text that is the same everywhere only has to be read as an operand. -/
theorem reads_same {text : List Char}
    (reads : ∀ {budget : Nat} {rest : List Char}, 4 * text.length ≤ budget → endsIn operandEnds rest = true →
      readOperand budget (text ++ rest) = .ok (equation, rest)) : (same text).Reads equation :=
  ⟨reads, fun enough ends => readEquation_nested reads enough Operator.loosest ends⟩

/-- A text that any budget is enough for is not empty. -/
theorem reads_leaf {text : List Char}
    (reads : ∀ {budget : Nat} {rest : List Char}, 0 < budget → endsIn operandEnds rest = true →
      readOperand budget (text ++ rest) = .ok (equation, rest)) : (same text).Reads equation := by
  have positive : 0 < text.length := by
    cases text with
    | nil =>
        have read := @reads 1 [] Nat.one_pos rfl
        rw [readOperand] at read
        cases read
    | cons c text => exact Nat.succ_pos _
  exact reads_same fun enough ends => reads (by omega) ends

end Rendering

/-! ## Literals and patterns -/

section Literals

variable {budget : Nat} {rest : List Char}

theorem readOperand_writeQuoted (enough : 0 < budget) (text rest : List Char) :
    readOperand budget (writeQuoted text ++ rest) =
      .ok (.operand (.literal (.string (String.ofList text))), rest) := by
  have read := readQuoted_writeQuoted text rest
  rcases exists_writeQuoted text rest with ⟨more, same⟩
  rw [same] at read ⊢
  cases budget with
  | zero => cases enough
  | succ budget =>
      rw [readOperand, skipBlanks_cons rfl]
      simp only
      rw [if_neg (by decide), if_pos (by decide), read]
      rfl

theorem readOperand_writeSlashed (enough : 0 < budget) {pattern : Pattern} {source : List Char}
    (slashable : isSlashable source = true)
    (made : Pattern.ofSource? (String.ofList source) false true = some pattern) (rest : List Char) :
    readOperand budget (writeSlashed source ++ rest) = .ok (.operand (.pattern pattern), rest) := by
  have read := readSlashed_writeSlashed slashable rest
  have begins : ∃ more, writeSlashed source ++ rest = '/' :: more := ⟨_, rfl⟩
  rcases begins with ⟨more, same⟩
  rw [same] at read ⊢
  cases budget with
  | zero => cases enough
  | succ budget =>
      rw [readOperand, skipBlanks_cons rfl]
      simp only
      rw [if_neg (by decide), if_neg (by decide), if_pos trivial, readPattern, read, ok_bind]
      simp only [made]

/-- The characters that decide on their own which kind of operand begins. -/
def operandMarks : List Char := ['@', '$', '\'', '"', '/', '(', '!']

/-- Without a mark there is a number or a word. -/
theorem readOperand_unmarked {c : Char} (notBlank : isBlank c = false) (unmarked : c ∉ operandMarks)
    (text : List Char) :
    readOperand (budget + 1) (c :: text) =
      if startsNumeric (c :: text) then readNumericOperand (c :: text)
      else if isLetter c then
        match wordOperand? (String.ofList (splitWord (c :: text)).1),
          Operator.function? (String.ofList (splitWord (c :: text)).1) with
        | some operand, _ => .ok (.operand operand, (splitWord (c :: text)).2)
        | none, some function => readCall budget function (c :: text) (splitWord (c :: text)).2
        | none, none => .error ⟨.unknownWord, c :: text, (splitWord (c :: text)).2⟩
      else .error (Fault.here (.unexpected c) (c :: text)) := by
  simp only [operandMarks, List.mem_cons, List.not_mem_nil, or_false, not_or] at unmarked
  rcases unmarked with ⟨notAt, notDollar, notQuote, notDouble, notSlash, notOpen, notBang⟩
  rw [readOperand, skipBlanks_cons notBlank]
  simp only
  rw [if_neg (not_or.2 ⟨notAt, notDollar⟩), if_neg (not_or.2 ⟨notQuote, notDouble⟩), if_neg notSlash,
    if_neg notOpen]
  exact if_neg fun bang => notBang bang.1

theorem readOperand_word (enough : 0 < budget) (word : String) {operand : Operand} {c : Char}
    {more : List Char} (found : wordOperand? word = some operand) (characters : word.toList = c :: more)
    (inside : word.toList.all isWordPart = true) (letter : c = 't' ∨ c = 'f' ∨ c = 'n' ∨ c = 'N')
    (ends : endsIn operandEnds rest = true) :
    readOperand budget (word.toList ++ rest) = .ok (.operand operand, rest) := by
  have parts := splitWord_append (List.all_eq_true.1 inside) (stopsAt_of_endsIn (by decide) ends)
  have plain : isBlank c = false ∧ c ∉ operandMarks ∧ isLetter c = true ∧
      ∀ text, startsNumeric (c :: text) = false := by
    rcases letter with rfl | rfl | rfl | rfl <;> exact ⟨rfl, by decide, rfl, fun _ => rfl⟩
  rcases plain with ⟨notBlank, unmarked, isLetter, notNumeric⟩
  rw [characters, List.cons_append] at parts ⊢
  cases budget with
  | zero => cases enough
  | succ budget =>
      rw [readOperand_unmarked notBlank unmarked, notNumeric, parts, if_neg (by simp), if_pos isLetter]
      simp only [← characters, String.ofList_toList, found]

/-- A sign or a digit decides that an operand is a number. -/
theorem readOperand_numeric (enough : 0 < budget) {text : List Char} (numeric : startsNumeric text = true) :
    readOperand budget text = readNumericOperand text := by
  cases text with
  | nil => cases numeric
  | cons c text =>
      have begins : startsInteger c = true := by
        by_cases minus : c = '-'
        · rw [minus]
          rfl
        · have digit : isDigit c = true := by
            rw [← numeric, startsNumeric]
            exact fun _ _ same _ => minus same
          rw [startsInteger, digit, Bool.or_true]
      have unmarked : c ∉ operandMarks := by
        intro mark
        simp only [operandMarks, List.mem_cons, List.not_mem_nil, or_false] at mark
        rcases mark with rfl | rfl | rfl | rfl | rfl | rfl | rfl <;> cases begins
      cases budget with
      | zero => cases enough
      | succ budget =>
          rw [readOperand_unmarked (isBlank_of_startsInteger begins) unmarked, if_pos numeric]

theorem readOperand_integer (enough : 0 < budget) (n : Int64) (ends : endsIn operandEnds rest = true) :
    readOperand budget (intDigits n.toInt ++ rest) = .ok (.operand (.literal (.integer n)), rest) := by
  have read := readNumeric_intDigits n (stopsAt_of_endsIn (by decide) ends)
  have numeric : startsNumeric (intDigits n.toInt ++ rest) = true := by
    rw [intDigits_eq, List.append_assoc]
    cases digits : natDigits n.toInt.natAbs with
    | nil => exact absurd digits (natDigits_ne_nil _)
    | cons c more =>
        have digit := isDigit_of_mem_natDigits (digits ▸ List.mem_cons_self : c ∈ natDigits n.toInt.natAbs)
        exact startsNumeric_signText _ digit _
  rw [readOperand_numeric enough numeric, readNumericOperand, read]

theorem readOperand_float (enough : 0 < budget) {x : Binary64} (finite : x.isFinite = true)
    (ends : endsIn operandEnds rest = true) :
    readOperand budget (x.digits ++ rest) = .ok (.operand (.literal (.float x)), rest) := by
  have read := readNumeric_digits finite (stopsAt_of_endsIn (by decide) ends)
  have numeric : startsNumeric (x.digits ++ rest) = true := by
    rcases exists_digit_of_isFinite finite with ⟨negative, c, more, same, digit⟩
    rw [same, List.append_assoc]
    exact startsNumeric_signText negative digit _
  rw [readOperand_numeric enough numeric, readNumericOperand, read]

/-- A literal is read back from its text. -/
theorem readOperand_renderLiteral (enough : 0 < budget) {value : Value} (literal : value.IsLiteral)
    (ends : endsIn operandEnds rest = true) :
    readOperand budget (value.renderLiteral ++ rest) = .ok (.operand (.literal value), rest) := by
  cases value with
  | null => exact readOperand_word enough "null" rfl rfl (by decide) (by decide) ends
  | boolean truth =>
      cases truth with
      | true => exact readOperand_word enough "true" rfl rfl (by decide) (by decide) ends
      | false => exact readOperand_word enough "false" rfl rfl (by decide) (by decide) ends
  | integer n => exact readOperand_integer enough n ends
  | float x => exact readOperand_float enough literal ends
  | string text =>
      have read := readOperand_writeQuoted enough text.toList rest
      rw [String.ofList_toList] at read
      exact read
  | time instant => exact literal.elim
  | array items => exact literal.elim
  | object members => exact literal.elim

theorem readOperand_nothing (enough : 0 < budget) (ends : endsIn operandEnds rest = true) :
    readOperand budget ("Nothing".toList ++ rest) = .ok (.operand .nothing, rest) :=
  readOperand_word enough "Nothing" rfl rfl (by decide) (by decide) ends

end Literals

end TreePath

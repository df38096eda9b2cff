import TreePath.Proofs.Path.Grammar
import TreePath.Proofs.Reading.Appended
import TreePath.Proofs.Script.Operation

/-!
# Paths and scripts in front of other text

What is read as an operand of a script is read as the same operand in front of anything that cannot be told from what was left,
with any budget that is large enough for the characters that are read. An equation goes on with the operators that bind tightly
enough, so there must be none of them in front of it. The readers call each other with a smaller budget: `Steady` collects what
is claimed of all of them at one budget.
-/

namespace TreePath

/-- No operator goes on with an equation here: there is none, or it binds too loosely. -/
def EndsEquation (loosest : Nat) (text : List Char) : Prop :=
  readOperator text = .ok none ∨
    ∃ operator rest, readOperator text = .ok (some (operator, rest)) ∧ loosest < operator.precedence

theorem EndsEquation.mono {tighter loosest : Nat} {text : List Char} (ends : EndsEquation loosest text)
    (le : tighter ≤ loosest) : EndsEquation tighter text :=
  ends.imp_right fun ⟨operator, rest, read, looser⟩ => ⟨operator, rest, read, Nat.lt_of_le_of_lt le looser⟩

/-- What operators with their operands take: nothing, or text that begins with an operator, whatever stands behind it. -/
def BeginsWithOperator (used : List Char) : Prop :=
  used = [] ∨ used ≠ [] ∧ ∃ operator, ∀ other, ∃ after, readOperator (used ++ other) = .ok (some (operator, after))

section Ending

variable {blanks used rest other : List Char} {c : Char}

theorem readOperator_blanks (areBlanks : AreBlanks blanks) (text : List Char) :
    readOperator (blanks ++ text) = readOperator text := by
  rw [readOperator, readOperator, skipBlanks_append areBlanks]

theorem stopsAt_point_of_closing (areBlanks : AreBlanks blanks) (closes : c ∈ equationEnds) :
    stopsAt (· == '.') (blanks ++ c :: rest) = true := by
  apply stopsAt_point_of_areBlanks areBlanks
  simp only [equationEnds, List.mem_cons, List.not_mem_nil, or_false] at closes
  rcases closes with rfl | rfl | rfl <;> rfl

/-- What is closed is the same whatever stands behind the closing mark. -/
theorem alike_closing (areBlanks : AreBlanks blanks) (closes : c ∈ equationEnds) {continues : Char → Bool} :
    Alike continues (blanks ++ c :: rest) (blanks ++ c :: other) := by
  apply Alike.of_head?
  · cases blanks <;> rfl
  · exact stopsAt_point_of_closing areBlanks closes

theorem endsEquation_closing (areBlanks : AreBlanks blanks) (closes : c ∈ equationEnds) (loosest : Nat) :
    EndsEquation loosest (blanks ++ c :: rest) := by
  left
  rw [readOperator_blanks areBlanks]
  exact readOperator_of_endsIn (List.contains_iff_mem.2 closes)

theorem BeginsWithOperator.alike (begins : BeginsWithOperator used) {continues : Char → Bool}
    (alike : Alike continues rest other) : Alike continues (used ++ rest) (used ++ other) := by
  rcases begins with rfl | ⟨present, operator, reads⟩
  · exact alike
  · rcases reads rest with ⟨after, read⟩
    rcases readOperator_takes read with ⟨-, -, -, -, -, noPoint, -⟩
    exact .of_head? (head?_append_of_ne_nil present rest other) noPoint

theorem BeginsWithOperator.endsEquation (begins : BeginsWithOperator used) {tighter : Nat}
    (ends : EndsEquation tighter (used ++ rest)) (endsThere : EndsEquation tighter other) :
    EndsEquation tighter (used ++ other) := by
  rcases begins with rfl | ⟨present, operator, reads⟩
  · exact endsThere
  · rcases reads rest with ⟨after, read⟩
    rcases reads other with ⟨afterThere, readThere⟩
    rcases ends with none | ⟨found, left, some, looser⟩
    · rw [none] at read
      cases read
    · rw [some] at read
      rcases Prod.mk.inj (Option.some.inj (Except.ok.inj read)) with ⟨rfl, -⟩
      exact .inr ⟨found, afterThere, readThere, looser⟩

end Ending

section Operators

variable [RegexSyntax] {used rest other : List Char} {c : Char}

theorem readOperators_of_endsEquation {loosest : Nat} (ends : EndsEquation loosest rest) (budget : Nat) (left : Equation) :
    readOperators (budget + 1) loosest left rest = .ok (left, rest) := by
  rcases ends with none | ⟨operator, after, some, looser⟩
  · rw [readOperators, none]
    rfl
  · rw [readOperators, some, ok_bind]
    exact if_pos looser

/-- The loop over operators ends, or reads one of them with its right operand and goes on. -/
theorem readOperators_cases {budget loosest : Nat} {text rest : List Char} {left equation : Equation}
    (read : readOperators (budget + 1) loosest left text = .ok (equation, rest)) :
    text = rest ∧ left = equation ∧ EndsEquation loosest text ∨
      ∃ operator afterOperator right afterRight compiled, readOperator text = .ok (some (operator, afterOperator)) ∧
        operator.precedence ≤ loosest ∧
        readEquation budget (operator.precedence - 1) afterOperator = .ok (right, afterRight) ∧
        operator.Takes right compiled ∧
        readOperators budget loosest (.binary operator left compiled) afterRight = .ok (equation, rest) := by
  rw [readOperators] at read
  rcases bind_eq_ok.1 read with ⟨found, readFirst, readRest⟩
  cases found with
  | none =>
      rcases Prod.mk.inj (Except.ok.inj readRest) with ⟨rfl, rfl⟩
      exact .inl ⟨rfl, rfl, .inl readFirst⟩
  | some found =>
      rcases found with ⟨operator, afterOperator⟩
      have isInfix := isInfix_of_readOperator readFirst
      simp only at readRest
      split at readRest
      · rename_i looser
        rcases Prod.mk.inj (Except.ok.inj readRest) with ⟨rfl, rfl⟩
        exact .inl ⟨rfl, rfl, .inr ⟨operator, afterOperator, readFirst, looser⟩⟩
      · rename_i tight
        rcases bind_eq_ok.1 readRest with ⟨⟨right, afterRight⟩, readRight, readOthers⟩
        simp only at readOthers
        split at readOthers
        · rename_i finds
          rcases bind_eq_ok.1 readOthers with ⟨compiled, compiles, readLast⟩
          refine .inr ⟨operator, afterOperator, right, afterRight, compiled, readFirst, Nat.le_of_not_lt tight, readRight,
            (Rendering.takes_iff_of_isInfix isInfix).2 fun start => ?_, readLast⟩
          rw [if_pos finds]
          exact compileLiteral_eq_ok compiles start
        · rename_i other
          exact .inr ⟨operator, afterOperator, right, afterRight, right, readFirst, Nat.le_of_not_lt tight, readRight,
            (Rendering.takes_iff_of_isInfix isInfix).2 fun start => if_neg other, readOthers⟩

/-- An operator that binds tightly enough is read with its right operand. -/
theorem readOperators_step {budget loosest : Nat} {text afterOperator afterRight : List Char} {operator : Operator}
    {left right compiled : Equation} (read : readOperator text = .ok (some (operator, afterOperator)))
    (tight : operator.precedence ≤ loosest)
    (readRight : readEquation budget (operator.precedence - 1) afterOperator = .ok (right, afterRight))
    (takes : operator.Takes right compiled) :
    readOperators (budget + 1) loosest left text =
      readOperators budget loosest (.binary operator left compiled) afterRight := by
  have taken := (Rendering.takes_iff_of_isInfix (isInfix_of_readOperator read)).1 takes text
  rw [readOperators, read, ok_bind]
  simp only
  rw [if_neg (Nat.not_lt_of_le tight), readRight, ok_bind]
  simp only
  split at taken
  · rename_i finds
    rw [if_pos finds, taken, ok_bind]
  · rename_i other
    rcases Except.ok.inj taken with rfl
    rw [if_neg other, ok_bind]

/-- A call has its arguments in parentheses, with blanks around the marks. -/
theorem readCall_cases {budget : Nat} {function : Operator} {start text rest : List Char} {equation : Equation}
    (read : readCall (budget + 1) function start text = .ok (equation, rest)) :
    ∃ gap inner, AreBlanks gap ∧ text = gap ++ '(' :: inner ∧
      (function.arity = 1 ∧ (∃ argument closing, AreBlanks closing ∧
          readEquation budget Operator.loosest inner = .ok (argument, closing ++ ')' :: rest) ∧
          equation = .unary function argument) ∨
        ¬function.arity = 1 ∧ ∃ first middle between second closing compiled, AreBlanks between ∧ AreBlanks closing ∧
          readEquation budget Operator.loosest inner = .ok (first, between ++ ',' :: middle) ∧
          readEquation budget Operator.loosest middle = .ok (second, closing ++ ')' :: rest) ∧
          (∀ start, compileLiteral (decide (function = .matchWhole)) start second = .ok compiled) ∧
          equation = .binary function first compiled) := by
  rw [readCall] at read
  rcases bind_eq_ok.1 read with ⟨inner, opens, readInside⟩
  rcases bind_eq_ok.1 readInside with ⟨⟨first, afterFirst⟩, readFirst, readOthers⟩
  rcases exists_expected opens with ⟨gap, areBlanks, whole⟩
  refine ⟨gap, inner, areBlanks, whole, ?_⟩
  simp only at readOthers
  split at readOthers
  · rename_i unary
    rcases bind_eq_ok.1 readOthers with ⟨afterCall, closes, same⟩
    rcases Prod.mk.inj (Except.ok.inj same) with ⟨rfl, rfl⟩
    rcases exists_expected closes with ⟨closing, areBlanks', rfl⟩
    exact .inl ⟨unary, first, closing, areBlanks', readFirst, rfl⟩
  · rename_i binary
    rcases bind_eq_ok.1 readOthers with ⟨middle, separates, readRest⟩
    rcases bind_eq_ok.1 readRest with ⟨⟨second, afterSecond⟩, readSecond, readEnd⟩
    rcases bind_eq_ok.1 readEnd with ⟨afterCall, closes, readCompiled⟩
    rcases bind_eq_ok.1 readCompiled with ⟨compiled, compiles, same⟩
    rcases Prod.mk.inj (Except.ok.inj same) with ⟨rfl, rfl⟩
    rcases exists_expected separates with ⟨between, areBlanks', rfl⟩
    rcases exists_expected closes with ⟨closing, areBlanks'', rfl⟩
    exact .inr ⟨binary, first, middle, between, second, closing, compiled, areBlanks', areBlanks'', readFirst, readSecond,
      compileLiteral_eq_ok compiles, rfl⟩

section Calls

variable {budget : Nat} {function : Operator} {gap between closing inner middle start rest : List Char}
variable {first second compiled : Equation}

theorem readCall_unary (unary : function.arity = 1) (areBlanks : AreBlanks gap) (areBlanks' : AreBlanks closing)
    (read : readEquation budget Operator.loosest inner = .ok (first, closing ++ ')' :: rest)) :
    readCall (budget + 1) function start (gap ++ '(' :: inner) = .ok (.unary function first, rest) := by
  rw [readCall, expectChar_blanks areBlanks rfl, ok_bind, read, ok_bind]
  simp only
  rw [if_pos unary, expectChar_blanks areBlanks' rfl]
  rfl

theorem readCall_binary (binary : ¬function.arity = 1) (areBlanks : AreBlanks gap) (areBlanks' : AreBlanks between)
    (areBlanks'' : AreBlanks closing)
    (readFirst : readEquation budget Operator.loosest inner = .ok (first, between ++ ',' :: middle))
    (readSecond : readEquation budget Operator.loosest middle = .ok (second, closing ++ ')' :: rest))
    (compiles : compileLiteral (decide (function = .matchWhole)) start second = .ok compiled) :
    readCall (budget + 1) function start (gap ++ '(' :: inner) = .ok (.binary function first compiled, rest) := by
  rw [readCall, expectChar_blanks areBlanks rfl, ok_bind, readFirst, ok_bind]
  simp only
  rw [if_neg binary, expectChar_blanks areBlanks' rfl, ok_bind, readSecond, ok_bind]
  simp only
  rw [expectChar_blanks areBlanks'' rfl, ok_bind, compiles]
  rfl

end Calls

end Operators

theorem startsNumeric_of_ne {c : Char} (notMinus : c ≠ '-') (text : List Char) :
    startsNumeric (c :: text) = isDigit c := by
  rw [startsNumeric]
  exact fun _ _ same _ => notMinus same

theorem stopsAt_startsFragment {text : List Char} (noPoint : ∀ more, text ≠ '.' :: more)
    (noBracket : ∀ more, text ≠ '[' :: more) (noStar : ∀ more, text ≠ '*' :: more) : stopsAt startsFragment text = true := by
  cases text with
  | nil => rfl
  | cons c text =>
      have plain : c ≠ '.' ∧ c ≠ '[' ∧ c ≠ '*' := by
        refine ⟨?_, ?_, ?_⟩
        · rintro rfl
          exact noPoint text rfl
        · rintro rfl
          exact noBracket text rfl
        · rintro rfl
          exact noStar text rfl
      simp [stopsAt, startsFragment, plain]

variable [RegexSyntax]

/-- Whether an operand is taken from a text, with a budget for the characters that are read. -/
def TakesOperand (text rest : List Char) (equation : Equation) : Prop :=
  ∃ used, text = used ++ rest ∧ used ≠ [] ∧ ∀ {other : List Char} {least : Nat}, Alike continuesOperand rest other →
    4 * used.length ≤ least → readOperand least (used ++ other) = .ok (equation, other)

/-- Whether a literal is taken from a text. Any budget is enough for it. -/
def TakesLiteral (text rest : List Char) (equation : Equation) : Prop :=
  ∃ used, text = used ++ rest ∧ used ≠ [] ∧ ∀ {other : List Char} {least : Nat}, Alike continuesLiteral rest other →
    readOperand (least + 1) (used ++ other) = .ok (equation, other)

theorem TakesLiteral.takesOperand {text rest : List Char} {equation : Equation} (takes : TakesLiteral text rest equation) :
    TakesOperand text rest equation := by
  rcases takes with ⟨used, whole, present, again⟩
  refine ⟨used, whole, present, ?_⟩
  intro other least alike enough
  have positive := List.length_pos_iff.2 present
  rcases Nat.exists_eq_add_of_le' (by omega : 1 ≤ least) with ⟨least, rfl⟩
  exact again (alike.mono continuesOperand_of_continuesLiteral)

/-- What is claimed of the readers at one budget. -/
structure Steady (budget : Nat) : Prop where
  path : ∀ {text rest : List Char} {path : Path}, text.head? = some '@' ∨ text.head? = some '$' →
    readPath budget text = .ok (path, rest) →
      ∃ used, text = used ++ rest ∧ used ≠ [] ∧ ∀ {other : List Char} {least : Nat}, Alike continuesOperand rest other →
        4 * used.length ≤ least + 2 → readPath least (used ++ other) = .ok (path, other)
  fragments : ∀ {text rest : List Char} {fragments : List (Fragment Script)},
    readFragments budget text = .ok (fragments, rest) →
      ∃ used, text = used ++ rest ∧ ∀ {other : List Char} {least : Nat}, Alike continuesOperand rest other →
        4 * used.length + 1 ≤ least → readFragments least (used ++ other) = .ok (fragments, other)
  bracket : ∀ {start text left rest : List Char} {fragment : Fragment Script},
    readBracket budget start text = .ok (fragment, left) → closeBracket start left = .ok rest →
      ∃ used, text = used ++ rest ∧ used ≠ [] ∧ ∀ {least : Nat} (start other : List Char), 4 * used.length ≤ least →
        ∃ left, readBracket least start (used ++ other) = .ok (fragment, left) ∧ closeBracket start left = .ok other
  equation : ∀ {loosest : Nat} {text rest : List Char} {equation : Equation},
    readEquation budget loosest text = .ok (equation, rest) →
      ∃ used, text = used ++ rest ∧ used ≠ [] ∧ EndsEquation loosest rest ∧
        ∀ {other : List Char} {least : Nat}, Alike continuesOperand rest other → EndsEquation loosest other →
          4 * used.length + 1 ≤ least → readEquation least loosest (used ++ other) = .ok (equation, other)
  operators : ∀ {loosest : Nat} {text rest : List Char} {left equation : Equation},
    readOperators budget loosest left text = .ok (equation, rest) →
      ∃ used, text = used ++ rest ∧ BeginsWithOperator used ∧ EndsEquation loosest rest ∧
        ∀ {other : List Char} {least : Nat}, Alike continuesOperand rest other → EndsEquation loosest other →
          4 * used.length + 1 ≤ least → readOperators least loosest left (used ++ other) = .ok (equation, other)
  operand : ∀ {text rest : List Char} {equation : Equation}, readOperand budget text = .ok (equation, rest) →
    TakesOperand text rest equation
  call : ∀ {function : Operator} {start text rest : List Char} {equation : Equation},
    readCall budget function start text = .ok (equation, rest) →
      ∃ used, text = used ++ rest ∧ used ≠ [] ∧ ∀ {least : Nat} (start other : List Char), 4 * used.length + 1 ≤ least →
        readCall least function start (used ++ other) = .ok (equation, other)

theorem steady_zero : Steady 0 where
  path _ read := by simp [readPath] at read
  fragments read := by simp [readFragments] at read
  bracket read := by simp [readBracket] at read
  equation read := by simp [readEquation] at read
  operators read := by simp [readOperators] at read
  operand read := by simp [readOperand] at read
  call read := by simp [readCall] at read

/-! ## Operands by their first character -/

section Operands

variable {budget : Nat} {c : Char} {text rest : List Char} {equation : Equation}

theorem readOperand_anchor (anchor : c = '@' ∨ c = '$') :
    readOperand (budget + 1) (c :: text) =
      (readPath budget (c :: text)).map fun (path, rest) => (.operand (.path path), rest) := by
  have notBlank : isBlank c = false := by rcases anchor with rfl | rfl <;> rfl
  rw [readOperand, skipBlanks_cons notBlank]
  simp only
  rw [if_pos anchor]
  cases readPath budget (c :: text) <;> rfl

theorem readOperand_quoted (isQuote : c = '\'' ∨ c = '"') :
    readOperand (budget + 1) (c :: text) =
      (readQuoted c (c :: text)).map fun (string, rest) =>
        (.operand (.literal (.string (String.ofList string))), rest) := by
  have notBlank : isBlank c = false := by rcases isQuote with rfl | rfl <;> rfl
  have notAnchor : ¬(c = '@' ∨ c = '$') := by rcases isQuote with rfl | rfl <;> decide
  rw [readOperand, skipBlanks_cons notBlank]
  simp only
  rw [if_neg notAnchor, if_pos isQuote]
  cases readQuoted c (c :: text) <;> rfl

theorem readOperand_slash : readOperand (budget + 1) ('/' :: text) = readPattern ('/' :: text) := by
  rw [readOperand, skipBlanks_cons rfl]
  rfl

theorem readOperand_open : readOperand (budget + 1) ('(' :: text) =
    (readEquation budget Operator.loosest text >>= fun (group, rest) =>
      expectChar ')' rest >>= fun rest => .ok (group, rest)) := by
  rw [readOperand, skipBlanks_cons rfl]
  rfl

theorem readOperand_bang : readOperand (budget + 1) ('!' :: text) =
    if text.head? ≠ some '=' then
      (readOperand budget text).map fun (argument, rest) => (.unary .not argument, rest)
    else .error (Fault.here (.unexpected '!') ('!' :: text)) := by
  rw [readOperand, skipBlanks_cons rfl]
  simp only
  rw [if_neg (by decide), if_neg (by decide), if_neg (by decide), if_neg (by decide)]
  by_cases next : text.head? ≠ some '='
  · rw [if_pos ⟨trivial, next⟩, if_pos next]
    cases readOperand budget text <;> rfl
  · rw [if_neg fun both => next both.2, if_neg next]
    rfl

theorem exists_path_of_readOperand (anchor : c = '@' ∨ c = '$')
    (read : readOperand (budget + 1) (c :: text) = .ok (equation, rest)) :
    ∃ path, equation = .operand (.path path) ∧ readPath budget (c :: text) = .ok (path, rest) := by
  rw [readOperand_anchor anchor] at read
  rcases map_eq_ok.1 read with ⟨⟨path, left⟩, found, same⟩
  rcases Prod.mk.inj same with ⟨rfl, rfl⟩
  exact ⟨path, rfl, found⟩

/-- A group is the equation in it, and is closed behind that. -/
theorem exists_closing_of_readOperand (read : readOperand (budget + 1) ('(' :: text) = .ok (equation, rest)) :
    ∃ closing, AreBlanks closing ∧
      readEquation budget Operator.loosest text = .ok (equation, closing ++ ')' :: rest) := by
  rw [readOperand_open] at read
  rcases bind_eq_ok.1 read with ⟨⟨group, afterGroup⟩, readGroup, readEnd⟩
  rcases bind_eq_ok.1 readEnd with ⟨left, closes, same⟩
  rcases Prod.mk.inj (Except.ok.inj same) with ⟨rfl, rfl⟩
  rcases exists_expected closes with ⟨closing, areBlanks, rfl⟩
  exact ⟨closing, areBlanks, readGroup⟩

theorem exists_argument_of_readOperand (read : readOperand (budget + 1) ('!' :: text) = .ok (equation, rest)) :
    text.head? ≠ some '=' ∧
      ∃ argument, equation = .unary .not argument ∧ readOperand budget text = .ok (argument, rest) := by
  rw [readOperand_bang] at read
  split at read
  · rename_i plain
    rcases map_eq_ok.1 read with ⟨⟨argument, left⟩, found, same⟩
    rcases Prod.mk.inj same with ⟨rfl, rfl⟩
    exact ⟨plain, argument, rfl, found⟩
  · cases read

end Operands

/-- An operand behind blanks is the same operand. -/
theorem readOperand_skipBlanks {budget : Nat} (text : List Char) :
    readOperand (budget + 1) text = readOperand (budget + 1) (skipBlanks text) := by
  have twice : skipBlanks (skipBlanks text) = skipBlanks text :=
    skipBlanks_of_stopsAt (stopsAt_dropWhile isBlank text)
  rw [readOperand.eq_def, readOperand.eq_def]
  simp only [twice]

theorem readOperand_blanks {blanks : List Char} (areBlanks : AreBlanks blanks) (budget : Nat) (text : List Char) :
    readOperand (budget + 1) (blanks ++ text) = readOperand (budget + 1) text := by
  rw [readOperand_skipBlanks, skipBlanks_append areBlanks, ← readOperand_skipBlanks]

theorem readEquation_blanks {blanks : List Char} (areBlanks : AreBlanks blanks) (budget loosest : Nat)
    (text : List Char) : readEquation (budget + 2) loosest (blanks ++ text) = readEquation (budget + 2) loosest text := by
  rw [readEquation, readEquation, readOperand_blanks areBlanks]

theorem readFragments_of_stopsAt {budget : Nat} {text : List Char} (stops : stopsAt startsFragment text = true) :
    readFragments (budget + 1) text = .ok ([], text) := by
  unfold readFragments
  split
  · cases stops
  · cases stops
  · cases stops
  · cases stops
  · rfl

/-- Two points without a name or asterisk behind them are a descent alone. -/
theorem readFragments_descent {budget : Nat} {text : List Char} (stops : stopsAt startsBare text = true) :
    readFragments (budget + 1) ('.' :: '.' :: text) =
      (readFragments budget text).map fun (fragments, rest) => (.descent :: fragments, rest) := by
  rw [readFragments, readBare?_eq_none stops]
  simp only
  cases readFragments budget text <;> rfl

theorem exists_readEquation_of_isFilter {budget : Nat} {start text rest : List Char} {fragment : Fragment Script}
    (isFilter : fragment.isFilter = true) (read : readBracket (budget + 1) start text = .ok (fragment, rest)) :
    ∃ inner equation, skipBlanks text = '?' :: inner ∧
      readEquation budget Operator.loosest inner = .ok (equation, rest) ∧ fragment = .filter equation.script := by
  have notUnion {first : Selector} {text : List Char} (read : readUnion first (',' :: text) = .ok (fragment, rest)) :
      False := by
    rcases union_of_readUnion read with ⟨second, selectors, rfl⟩
    cases isFilter
  have notSlice {first : Option Int64} {text : List Char} (read : readSlice first text = .ok (fragment, rest)) :
      False := by
    rcases slice_of_readSlice read with ⟨stop, step, rfl⟩
    cases isFilter
  cases readsBracket read with
  | filter opened readScript => exact ⟨_, _, opened, readScript, rfl⟩
  | key opened isQuote readName => cases isFilter
  | wildcard opened => cases isFilter
  | index opened readIndex => cases isFilter
  | keys opened isQuote readName goesOn readOthers => exact (notUnion readOthers).elim
  | indexes opened readIndex goesOn readOthers => exact (notUnion readOthers).elim
  | slice opened readBounds => exact (notSlice readBounds).elim
  | bounds opened readIndex goesOn readBounds => exact (notSlice readBounds).elim

namespace Steady

variable {budget : Nat}

theorem equation_succ (steady : Steady budget) {loosest : Nat} {text rest : List Char} {equation : Equation}
    (read : readEquation (budget + 1) loosest text = .ok (equation, rest)) :
    ∃ used, text = used ++ rest ∧ used ≠ [] ∧ EndsEquation loosest rest ∧
      ∀ {other : List Char} {least : Nat}, Alike continuesOperand rest other → EndsEquation loosest other →
        4 * used.length + 1 ≤ least → readEquation least loosest (used ++ other) = .ok (equation, other) := by
  rw [readEquation] at read
  rcases bind_eq_ok.1 read with ⟨⟨left, afterLeft⟩, readLeft, readOthers⟩
  rcases steady.operand readLeft with ⟨usedLeft, rfl, present, readLeft⟩
  rcases steady.operators readOthers with ⟨usedOthers, rfl, begins, ends, readOthers⟩
  refine ⟨usedLeft ++ usedOthers, (List.append_assoc _ _ _).symm, by simp [present], ends, ?_⟩
  intro other least alike endsThere enough
  have positive := List.length_pos_iff.2 present
  rw [List.length_append] at enough
  rcases Nat.exists_eq_add_of_le' (by omega : 1 ≤ least) with ⟨least, rfl⟩
  rw [List.append_assoc, readEquation, readLeft (begins.alike alike) (by omega), ok_bind]
  exact readOthers alike endsThere (by omega)

theorem operators_succ (steady : Steady budget) {loosest : Nat} {text rest : List Char} {left equation : Equation}
    (read : readOperators (budget + 1) loosest left text = .ok (equation, rest)) :
    ∃ used, text = used ++ rest ∧ BeginsWithOperator used ∧ EndsEquation loosest rest ∧
      ∀ {other : List Char} {least : Nat}, Alike continuesOperand rest other → EndsEquation loosest other →
        4 * used.length + 1 ≤ least → readOperators least loosest left (used ++ other) = .ok (equation, other) := by
  rcases readOperators_cases read with ⟨rfl, rfl, ends⟩ |
    ⟨operator, afterOperator, right, afterRight, compiled, readFirst, tight, readRight, takes, readOthers⟩
  · refine ⟨[], rfl, .inl rfl, ends, ?_⟩
    intro other least _ endsThere enough
    rcases Nat.exists_eq_add_of_le' (by omega : 1 ≤ least) with ⟨least, rfl⟩
    exact readOperators_of_endsEquation endsThere least _
  · rcases readOperator_takes readFirst with ⟨blanks, name, areBlanks, written, rfl, -, nameAgain⟩
    rcases steady.equation readRight with ⟨usedRight, rfl, rightPresent, rightEnds, rightAgain⟩
    rcases steady.operators readOthers with ⟨usedOthers, rfl, begins, ends, othersAgain⟩
    have present := written.ne_nil
    have operatorRead (other : List Char) : readOperator (blanks ++ (name ++ (usedRight ++ (usedOthers ++ other)))) =
        .ok (some (operator, usedRight ++ (usedOthers ++ other))) := by
      rw [readOperator_blanks areBlanks]
      exact nameAgain _ (head?_append_of_ne_nil rightPresent _ _)
    refine ⟨blanks ++ (name ++ (usedRight ++ usedOthers)), by simp, .inr ⟨by simp [present], operator, ?_⟩, ends, ?_⟩
    · intro other
      simp only [List.append_assoc]
      exact ⟨_, operatorRead other⟩
    · intro other least alike endsThere enough
      have positive := List.length_pos_iff.2 present
      have bound : operator.precedence - 1 ≤ loosest := by omega
      simp only [List.length_append] at enough
      rcases Nat.exists_eq_add_of_le' (by omega : 1 ≤ least) with ⟨least, rfl⟩
      have rightRead : readEquation least (operator.precedence - 1) (usedRight ++ (usedOthers ++ other)) =
          .ok (right, usedOthers ++ other) :=
        rightAgain (begins.alike alike) (begins.endsEquation rightEnds (endsThere.mono bound)) (by omega)
      simp only [List.append_assoc]
      rw [readOperators_step (operatorRead other) tight rightRead takes]
      exact othersAgain alike endsThere (by omega)

theorem call_succ (steady : Steady budget) {function : Operator} {start text rest : List Char} {equation : Equation}
    (read : readCall (budget + 1) function start text = .ok (equation, rest)) :
    ∃ used, text = used ++ rest ∧ used ≠ [] ∧ ∀ {least : Nat} (start other : List Char), 4 * used.length + 1 ≤ least →
      readCall least function start (used ++ other) = .ok (equation, other) := by
  rcases readCall_cases read with ⟨gap, inner, areBlanks, rfl, ⟨unary, argument, closing, areBlanks', readFirst, rfl⟩ |
    ⟨binary, first, middle, between, second, closing, compiled, areBlanks', areBlanks'', readFirst, readSecond, compiles,
      rfl⟩⟩
  · rcases steady.equation readFirst with ⟨used, rfl, -, -, argumentAgain⟩
    refine ⟨gap ++ '(' :: (used ++ (closing ++ [')'])), by simp, by simp, ?_⟩
    intro least start other enough
    simp only [List.length_append, List.length_cons, List.length_nil] at enough
    rcases Nat.exists_eq_add_of_le' (by omega : 1 ≤ least) with ⟨least, rfl⟩
    simp only [List.append_assoc, List.cons_append, List.nil_append]
    exact readCall_unary unary areBlanks areBlanks' (argumentAgain (alike_closing areBlanks' (by decide))
      (endsEquation_closing areBlanks' (by decide) _) (by omega))
  · rcases steady.equation readSecond with ⟨usedSecond, rfl, -, -, secondAgain⟩
    rcases steady.equation readFirst with ⟨usedFirst, rfl, -, -, firstAgain⟩
    refine ⟨gap ++ '(' :: (usedFirst ++ (between ++ ',' :: (usedSecond ++ (closing ++ [')'])))), by simp, by simp, ?_⟩
    intro least start other enough
    simp only [List.length_append, List.length_cons, List.length_nil] at enough
    rcases Nat.exists_eq_add_of_le' (by omega : 1 ≤ least) with ⟨least, rfl⟩
    simp only [List.append_assoc, List.cons_append, List.nil_append]
    apply readCall_binary binary areBlanks areBlanks' areBlanks''
    · exact firstAgain (alike_closing areBlanks' (by decide)) (endsEquation_closing areBlanks' (by decide) _) (by omega)
    · exact secondAgain (alike_closing areBlanks'' (by decide)) (endsEquation_closing areBlanks'' (by decide) _) (by omega)
    · exact compiles start

theorem path_succ (steady : Steady budget) {text rest : List Char} {path : Path}
    (anchored : text.head? = some '@' ∨ text.head? = some '$')
    (read : readPath (budget + 1) text = .ok (path, rest)) :
    ∃ used, text = used ++ rest ∧ used ≠ [] ∧ ∀ {other : List Char} {least : Nat}, Alike continuesOperand rest other →
      4 * used.length ≤ least + 2 → readPath least (used ++ other) = .ok (path, other) := by
  have begins : ∃ c more head, text = c :: more ∧ ∀ others, readHead? (c :: others) = some (head, others) := by
    rcases anchored with current | root
    · rcases List.head?_eq_some_iff.1 current with ⟨more, rfl⟩
      exact ⟨'@', more, .current, rfl, fun _ => rfl⟩
    · rcases List.head?_eq_some_iff.1 root with ⟨more, rfl⟩
      exact ⟨'$', more, .root, rfl, fun _ => rfl⟩
  rcases begins with ⟨c, more, head, rfl, found⟩
  rw [readPath, found] at read
  rcases bind_eq_ok.1 read with ⟨⟨fragments, left⟩, readOthers, read⟩
  rcases Prod.mk.inj (Except.ok.inj read) with ⟨rfl, rfl⟩
  rcases steady.fragments readOthers with ⟨used, rfl, othersAgain⟩
  refine ⟨c :: used, rfl, List.cons_ne_nil _ _, ?_⟩
  intro other least alike enough
  rw [List.length_cons] at enough
  rcases Nat.exists_eq_add_of_le' (by omega : 1 ≤ least) with ⟨least, rfl⟩
  have readAgain : readFragments least (used ++ other) = .ok (fragments, other) := othersAgain alike (by omega)
  rw [List.cons_append, readPath, found]
  simp only [readAgain, ok_bind]

theorem bracket_succ (steady : Steady budget) {start text left rest : List Char} {fragment : Fragment Script}
    (read : readBracket (budget + 1) start text = .ok (fragment, left)) (closes : closeBracket start left = .ok rest) :
    ∃ used, text = used ++ rest ∧ used ≠ [] ∧ ∀ {least : Nat} (start other : List Char), 4 * used.length ≤ least →
      ∃ left, readBracket least start (used ++ other) = .ok (fragment, left) ∧ closeBracket start left = .ok other := by
  cases plain : fragment.isFilter with
  | false =>
      -- what holds no script is read again from its spelling
      rcases exists_isBracketSpelling_closed plain read closes with ⟨body, spelled, rfl⟩
      refine ⟨body ++ [']'], by simp, by simp, ?_⟩
      intro least start other enough
      simp only [List.length_append, List.length_cons, List.length_nil] at enough
      rcases Nat.exists_eq_add_of_le' (by omega : 1 ≤ least) with ⟨least, rfl⟩
      rw [List.append_assoc]
      exact readBracket_of_isBracketSpelling spelled other
  | true =>
      rcases exists_readEquation_of_isFilter plain read with ⟨inner, equation, opened, found, rfl⟩
      rcases exists_blanks text with ⟨blanks, areBlanks, whole⟩
      rcases steady.equation found with ⟨usedEquation, rfl, -, -, readScript⟩
      rcases exists_closing closes with ⟨closing, areBlanks', rfl⟩
      refine ⟨blanks ++ '?' :: (usedEquation ++ (closing ++ [']'])), by rw [whole, opened]; simp, by simp, ?_⟩
      intro least start other enough
      simp only [List.length_append, List.length_cons, List.length_nil] at enough
      rcases Nat.exists_eq_add_of_le' (by omega : 1 ≤ least) with ⟨least, rfl⟩
      have scriptAgain : readEquation least Operator.loosest (usedEquation ++ (closing ++ ']' :: other)) =
          .ok (equation, closing ++ ']' :: other) :=
        readScript (alike_closing areBlanks' (by decide)) (endsEquation_closing areBlanks' (by decide) _) (by omega)
      refine ⟨closing ++ ']' :: other, ?_, closeBracket_blanks areBlanks' start other⟩
      simp only [List.append_assoc, List.cons_append, List.nil_append]
      rw [readBracket, skipBlanks_append_cons areBlanks rfl]
      simp only
      rw [if_neg (by decide), if_neg (by decide), if_neg (by decide), if_pos trivial, scriptAgain]
      rfl

/--
Reading fragments ends at once, or a descent without a name comes first, or a fragment that is read the same in front of any
text that a name stops at if it stopped before.
-/
theorem fragments_cases (steady : Steady budget) {text rest : List Char} {fragments : List (Fragment Script)}
    (read : readFragments (budget + 1) text = .ok (fragments, rest)) :
    text = rest ∧ fragments = [] ∧ stopsAt startsFragment text = true ∨
      (∃ left others, text = '.' :: '.' :: left ∧ stopsAt startsBare left = true ∧ fragments = .descent :: others ∧
        readFragments budget left = .ok (others, rest)) ∨
      ∃ front first left others, text = front ++ left ∧ front ≠ [] ∧ fragments = first ++ others ∧
        readFragments budget left = .ok (others, rest) ∧ ∀ {other : List Char} {least : Nat},
          (stopsAt isNameCharacter left = true → stopsAt isNameCharacter other = true) → 4 * front.length ≤ least + 4 →
            readFragments (least + 1) (front ++ other) =
              (readFragments least other).map fun (others, rest) => (first ++ others, rest) := by
  unfold readFragments at read
  split at read
  · rename_i text
    split at read
    · rename_i bare left found
      rcases bind_eq_ok.1 read with ⟨⟨others, ending⟩, readOthers, same⟩
      rcases Prod.mk.inj (Except.ok.inj same) with ⟨rfl, rfl⟩
      rcases readBare?_takes found with ⟨used, rfl, -, bareAgain⟩
      refine .inr (.inr ⟨'.' :: '.' :: used, [.descent, bare], left, others, rfl, by simp, rfl, readOthers, ?_⟩)
      intro other least nameEnds enough
      rw [List.cons_append, List.cons_append, readFragments, bareAgain other nameEnds]
      simp only
      cases readFragments least other <;> rfl
    · rename_i missing
      rcases bind_eq_ok.1 read with ⟨⟨others, ending⟩, readOthers, same⟩
      rcases Prod.mk.inj (Except.ok.inj same) with ⟨rfl, rfl⟩
      exact .inr (.inl ⟨text, others, rfl, stopsAt_startsBare_of_readBare? missing, rfl, readOthers⟩)
  · rename_i text _
    rcases bind_eq_ok.1 read with ⟨⟨bare, left⟩, found, readRest⟩
    rcases bind_eq_ok.1 readRest with ⟨⟨others, ending⟩, readOthers, same⟩
    rcases Prod.mk.inj (Except.ok.inj same) with ⟨rfl, rfl⟩
    rcases readBare?_takes (readBare?_of_readAfterPoint found) with ⟨used, rfl, -, bareAgain⟩
    refine .inr (.inr ⟨'.' :: used, [bare], left, others, rfl, by simp, rfl, readOthers, ?_⟩)
    intro other least nameEnds enough
    exact readFragments_point (bareAgain other nameEnds)
  · rename_i text
    rcases bind_eq_ok.1 read with ⟨⟨fragment, inBracket⟩, found, readRest⟩
    rcases bind_eq_ok.1 readRest with ⟨left, closes, readEnd⟩
    rcases bind_eq_ok.1 readEnd with ⟨⟨others, ending⟩, readOthers, same⟩
    rcases Prod.mk.inj (Except.ok.inj same) with ⟨rfl, rfl⟩
    rcases steady.bracket found closes with ⟨used, rfl, -, readBody⟩
    refine .inr (.inr ⟨'[' :: used, [fragment], left, others, rfl, by simp, rfl, readOthers, ?_⟩)
    intro other least nameEnds enough
    rw [List.length_cons] at enough
    rcases readBody ('[' :: (used ++ other)) other (by omega : 4 * used.length ≤ least) with ⟨inside, body, closing⟩
    rw [List.cons_append, readFragments, body, ok_bind]
    simp only
    rw [closing, ok_bind]
    cases readFragments least other <;> rfl
  · rename_i text
    rcases bind_eq_ok.1 read with ⟨⟨others, ending⟩, readOthers, same⟩
    rcases Prod.mk.inj (Except.ok.inj same) with ⟨rfl, rfl⟩
    exact .inr (.inr ⟨['*'], [.wildcard], text, others, rfl, by simp, rfl, readOthers, fun _ _ => readFragments_star⟩)
  · rename_i noDescent noPoint noBracket noStar
    rcases Prod.mk.inj (Except.ok.inj read) with ⟨rfl, rfl⟩
    exact .inl ⟨rfl, rfl, stopsAt_startsFragment noPoint noBracket noStar⟩

theorem fragments_succ (steady : Steady budget) {text rest : List Char} {fragments : List (Fragment Script)}
    (read : readFragments (budget + 1) text = .ok (fragments, rest)) :
    ∃ used, text = used ++ rest ∧ ∀ {other : List Char} {least : Nat}, Alike continuesOperand rest other →
      4 * used.length + 1 ≤ least → readFragments least (used ++ other) = .ok (fragments, other) := by
  rcases steady.fragments_cases read with ⟨rfl, rfl, stops⟩ | ⟨left, others, rfl, noBare, rfl, readOthers⟩ |
    ⟨front, first, left, others, rfl, present, rfl, readOthers, frontAgain⟩
  · refine ⟨[], rfl, ?_⟩
    intro other least alike enough
    rcases Nat.exists_eq_add_of_le' (by omega : 1 ≤ least) with ⟨least, rfl⟩
    exact readFragments_of_stopsAt (alike.stopsAt continuesOperand_of_startsFragment stops)
  · rcases steady.fragments readOthers with ⟨used, rfl, othersAgain⟩
    refine ⟨'.' :: '.' :: used, rfl, ?_⟩
    intro other least alike enough
    simp only [List.length_cons] at enough
    rcases Nat.exists_eq_add_of_le' (by omega : 1 ≤ least) with ⟨least, rfl⟩
    have noBareThere : stopsAt startsBare (used ++ other) = true :=
      stopsAt_append_of_imp noBare (alike.stopsAt continuesOperand_of_startsBare)
    rw [List.cons_append, List.cons_append, readFragments_descent noBareThere, othersAgain alike (by omega)]
    rfl
  · rcases steady.fragments readOthers with ⟨used, rfl, othersAgain⟩
    refine ⟨front ++ used, (List.append_assoc _ _ _).symm, ?_⟩
    intro other least alike enough
    have positive := List.length_pos_iff.2 present
    rw [List.length_append] at enough
    rcases Nat.exists_eq_add_of_le' (by omega : 1 ≤ least) with ⟨least, rfl⟩
    have nameEnds (stops : stopsAt isNameCharacter (used ++ rest) = true) : stopsAt isNameCharacter (used ++ other) = true :=
      stopsAt_append_of_imp stops fun stopped => alike.stopsAt (fun c inside =>
        continuesOperand_of_continuesLiteral c (continuesLiteral_of_isNameCharacter c inside)) stopped
    rw [List.append_assoc, frontAgain nameEnds (by omega), othersAgain alike (by omega)]
    rfl

/-! ### Operands by their first character -/

section Operands

variable {text rest : List Char} {equation : Equation}

theorem operand_anchor (steady : Steady budget) {c : Char} (anchor : c = '@' ∨ c = '$')
    (read : readOperand (budget + 1) (c :: text) = .ok (equation, rest)) : TakesOperand (c :: text) rest equation := by
  have anchored : (c :: text).head? = some '@' ∨ (c :: text).head? = some '$' := by
    rcases anchor with rfl | rfl
    · exact .inl rfl
    · exact .inr rfl
  rcases exists_path_of_readOperand anchor read with ⟨path, rfl, found⟩
  rcases steady.path anchored found with ⟨used, whole, present, readAgain⟩
  refine ⟨used, whole, present, ?_⟩
  intro other least alike enough
  have positive := List.length_pos_iff.2 present
  rcases Nat.exists_eq_add_of_le' (by omega : 1 ≤ least) with ⟨least, rfl⟩
  have pathRead : readPath least (used ++ other) = .ok (path, other) := readAgain alike (by omega)
  rcases List.exists_cons_of_ne_nil present with ⟨d, more, rfl⟩
  rcases List.cons.inj whole with ⟨rfl, -⟩
  rw [List.cons_append] at pathRead ⊢
  rw [readOperand_anchor anchor, pathRead]
  rfl

theorem operand_group (steady : Steady budget)
    (read : readOperand (budget + 1) ('(' :: text) = .ok (equation, rest)) :
    TakesOperand ('(' :: text) rest equation := by
  rcases exists_closing_of_readOperand read with ⟨closing, areBlanks, readGroup⟩
  rcases steady.equation readGroup with ⟨usedGroup, rfl, -, -, groupRead⟩
  refine ⟨'(' :: (usedGroup ++ (closing ++ [')'])), by simp, List.cons_ne_nil _ _, ?_⟩
  intro other least _ enough
  simp only [List.length_append, List.length_cons, List.length_nil] at enough
  rcases Nat.exists_eq_add_of_le' (by omega : 1 ≤ least) with ⟨least, rfl⟩
  have groupAgain : readEquation least Operator.loosest (usedGroup ++ (closing ++ ')' :: other)) =
      .ok (equation, closing ++ ')' :: other) :=
    groupRead (alike_closing areBlanks (by decide)) (endsEquation_closing areBlanks (by decide) _) (by omega)
  simp only [List.append_assoc, List.cons_append, List.nil_append]
  rw [readOperand_open, groupAgain, ok_bind]
  simp only
  rw [expectChar_blanks areBlanks rfl]
  rfl

theorem operand_not (steady : Steady budget)
    (read : readOperand (budget + 1) ('!' :: text) = .ok (equation, rest)) :
    TakesOperand ('!' :: text) rest equation := by
  rcases exists_argument_of_readOperand read with ⟨plain, argument, rfl, found⟩
  rcases steady.operand found with ⟨used, rfl, present, readAgain⟩
  refine ⟨'!' :: used, rfl, List.cons_ne_nil _ _, ?_⟩
  intro other least alike enough
  rw [List.length_cons] at enough
  rcases Nat.exists_eq_add_of_le' (by omega : 1 ≤ least) with ⟨least, rfl⟩
  rw [head?_append_of_ne_nil present other rest] at plain
  rw [List.cons_append, readOperand_bang, if_pos plain, readAgain alike (by omega)]
  rfl

theorem takesLiteral_quoted {c : Char} (isQuote : c = '\'' ∨ c = '"')
    (read : readOperand (budget + 1) (c :: text) = .ok (equation, rest)) : TakesLiteral (c :: text) rest equation := by
  rw [readOperand_quoted isQuote] at read
  rcases map_eq_ok.1 read with ⟨⟨string, left⟩, found, same⟩
  rcases Prod.mk.inj same with ⟨rfl, rfl⟩
  rcases readQuoted_takes isQuote found continuesLiteral with ⟨used, whole, present, readAgain⟩
  rcases (List.cons_eq_append_iff.1 whole).resolve_left fun empty => present empty.1 with ⟨more, rfl, -⟩
  refine ⟨c :: more, whole, present, ?_⟩
  intro other least alike
  have quoted := readAgain other alike
  rw [List.cons_append] at quoted ⊢
  rw [readOperand_quoted isQuote, quoted]
  rfl

theorem takesLiteral_slash (read : readOperand (budget + 1) ('/' :: text) = .ok (equation, rest)) :
    TakesLiteral ('/' :: text) rest equation := by
  rw [readOperand_slash] at read
  rcases readPattern_takes read continuesLiteral with ⟨used, whole, present, readAgain⟩
  rcases (List.cons_eq_append_iff.1 whole).resolve_left fun empty => present empty.1 with ⟨more, rfl, -⟩
  refine ⟨'/' :: more, whole, present, ?_⟩
  intro other least alike
  rw [List.cons_append, readOperand_slash]
  exact readAgain other alike

theorem takesLiteral_numeric (numeric : startsNumeric text = true)
    (read : readOperand (budget + 1) text = .ok (equation, rest)) : TakesLiteral text rest equation := by
  rw [readOperand_numeric (Nat.succ_pos budget) numeric] at read
  rcases readNumericOperand_takes numeric read with ⟨used, whole, begins, readAgain⟩
  refine ⟨used, whole, ?_, ?_⟩
  · rintro rfl
    cases begins []
  · intro other least alike
    rw [readOperand_numeric (Nat.succ_pos least) (begins other)]
    exact readAgain other alike

/-- A word is read by its name, in front of anything that cannot continue it. -/
theorem exists_word {c : Char} (notBlank : isBlank c = false) (unmarked : c ∉ operandMarks) (letter : isLetter c = true)
    (notNumeric : startsNumeric (c :: text) = false) :
    ∃ word left, c :: text = word ++ left ∧ word ≠ [] ∧ stopsAt isWordPart left = true ∧
      ∀ {other : List Char} {least : Nat}, stopsAt isWordPart other = true → ∃ start,
        readOperand (least + 1) (word ++ other) =
          match wordOperand? (String.ofList word), Operator.function? (String.ofList word) with
          | some operand, _ => .ok (.operand operand, other)
          | none, some function => readCall least function start other
          | none, none => .error ⟨.unknownWord, start, other⟩ := by
  rcases splitWord_takes (c :: text) with ⟨whole, stops, readAgain⟩
  have present : (splitWord (c :: text)).1 ≠ [] := splitWord_ne_nil (isWordPart_of_isLetter letter)
  generalize (splitWord (c :: text)).1 = word at *
  generalize (splitWord (c :: text)).2 = left at *
  rcases (List.cons_eq_append_iff.1 whole).resolve_left fun empty => present empty.1 with ⟨more, rfl, -⟩
  refine ⟨c :: more, left, whole, present, stops, ?_⟩
  intro other least stopsThere
  have notMinus : c ≠ '-' := by
    rintro rfl
    cases letter
  have again : startsNumeric (c :: (more ++ other)) = false := by
    rw [startsNumeric_of_ne notMinus] at notNumeric ⊢
    exact notNumeric
  have parts := readAgain other stopsThere
  rw [List.cons_append] at parts ⊢
  have found : readOperand (least + 1) (c :: (more ++ other)) = _ := readOperand_unmarked notBlank unmarked _
  rw [again, if_neg (by simp), if_pos letter, parts] at found
  exact ⟨_, found⟩

theorem operand_word (steady : Steady budget) {c : Char} (notBlank : isBlank c = false) (unmarked : c ∉ operandMarks)
    (notNumeric : startsNumeric (c :: text) = false)
    (read : readOperand (budget + 1) (c :: text) = .ok (equation, rest)) : TakesOperand (c :: text) rest equation := by
  by_cases letter : isLetter c = true
  · rcases exists_word notBlank unmarked letter notNumeric with ⟨word, left, whole, present, stops, reads⟩
    rcases @reads left budget stops with ⟨start, here⟩
    rw [whole, here] at read
    have ends {other : List Char} (alike : Alike continuesOperand left other) : stopsAt isWordPart other = true := by
      refine alike.stopsAt (fun c inside => ?_) stops
      exact continuesOperand_of_continuesLiteral c
        (continuesLiteral_of_isNameCharacter c (isNameCharacter_of_isWordPart c inside))
    split at read
    · rename_i operand found
      rcases Prod.mk.inj (Except.ok.inj read) with ⟨rfl, rfl⟩
      refine ⟨word, whole, present, ?_⟩
      intro other least alike enough
      have positive := List.length_pos_iff.2 present
      rcases Nat.exists_eq_add_of_le' (by omega : 1 ≤ least) with ⟨least, rfl⟩
      rcases @reads other least (ends alike) with ⟨start, there⟩
      rw [there, found]
    · rename_i function missing found
      rcases steady.call read with ⟨used, taken, usedPresent, readAgain⟩
      refine ⟨word ++ used, by rw [whole, taken, List.append_assoc], by simp [present], ?_⟩
      intro other least alike enough
      have positive := List.length_pos_iff.2 present
      rw [List.length_append] at enough
      rcases Nat.exists_eq_add_of_le' (by omega : 1 ≤ least) with ⟨least, rfl⟩
      have stopsThere : stopsAt isWordPart (used ++ other) = true := by
        rw [taken] at stops
        exact stopsAt_of_head? (head?_append_of_ne_nil usedPresent _ _) stops
      rcases @reads (used ++ other) least stopsThere with ⟨start, there⟩
      rw [List.append_assoc, there, missing, found]
      exact readAgain start other (by omega)
    · cases read
  · rw [readOperand_unmarked notBlank unmarked, notNumeric, if_neg (by simp), if_neg letter] at read
    cases read

theorem operand_cons (steady : Steady budget) {c : Char} (notBlank : isBlank c = false)
    (read : readOperand (budget + 1) (c :: text) = .ok (equation, rest)) : TakesOperand (c :: text) rest equation := by
  by_cases marked : c ∈ operandMarks
  · simp only [operandMarks, List.mem_cons, List.not_mem_nil, or_false] at marked
    rcases marked with rfl | rfl | rfl | rfl | rfl | rfl | rfl
    · exact steady.operand_anchor (.inl rfl) read
    · exact steady.operand_anchor (.inr rfl) read
    · exact (takesLiteral_quoted (.inl rfl) read).takesOperand
    · exact (takesLiteral_quoted (.inr rfl) read).takesOperand
    · exact (takesLiteral_slash read).takesOperand
    · exact steady.operand_group read
    · exact steady.operand_not read
  · cases numeric : startsNumeric (c :: text) with
    | true => exact (takesLiteral_numeric numeric read).takesOperand
    | false => exact steady.operand_word notBlank marked numeric read

theorem operand_succ (steady : Steady budget) (read : readOperand (budget + 1) text = .ok (equation, rest)) :
    TakesOperand text rest equation := by
  rcases exists_blanks text with ⟨blanks, areBlanks, whole⟩
  have notBlank : stopsAt isBlank (skipBlanks text) = true := stopsAt_dropWhile isBlank text
  rw [readOperand_skipBlanks] at read
  generalize skipBlanks text = opened at read whole notBlank
  cases opened with
  | nil => cases read
  | cons c inner =>
      rw [stopsAt, Bool.not_eq_true'] at notBlank
      rcases steady.operand_cons notBlank read with ⟨used, taken, present, readAgain⟩
      refine ⟨blanks ++ used, by rw [whole, taken, List.append_assoc], by simp [present], ?_⟩
      intro other least alike enough
      rw [List.length_append] at enough
      have readThere := readAgain alike (by omega : 4 * used.length ≤ least)
      have positive := List.length_pos_iff.2 present
      rcases Nat.exists_eq_add_of_le' (by omega : 1 ≤ least) with ⟨least, rfl⟩
      rw [List.append_assoc, readOperand_blanks areBlanks]
      exact readThere

end Operands

end Steady

/-- At every budget the readers take the same from a text, whatever stands there instead of the rest. -/
theorem steady (budget : Nat) : Steady budget := by
  induction budget with
  | zero => exact steady_zero
  | succ budget ih =>
      exact ⟨ih.path_succ, ih.fragments_succ, ih.bracket_succ, ih.equation_succ, ih.operators_succ, ih.operand_succ,
        ih.call_succ⟩

end TreePath

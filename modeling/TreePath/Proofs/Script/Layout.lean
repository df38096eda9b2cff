import TreePath.Proofs.Script.Steady

/-!
# Layouts of scripts

A layout is the text of a script as it is taken apart when it is read: literals and paths as they are written, the names and
marks around them, and the blanks between all of these. What a part is read as depends on the text behind it, so a layout
reads as an equation in front of a certain text. Every text that is read as a script has a layout.
-/

namespace TreePath

/-- The text of an equation, taken apart. There are no blanks at its ends. -/
inductive Layout where
  /-- A text, a pattern, a number or a word. -/
  | literal (text : List Char)
  | path (text : List Char)
  | negation (blanks : List Char) (argument : Layout)
  | group (opening : List Char) (inner : Layout) (closing : List Char)
  /-- A function of one argument. The gap stands behind its name. -/
  | call (function : Operator) (gap opening : List Char) (argument : Layout) (closing : List Char)
  /-- A function of two arguments, with blanks between them on both sides of the comma. -/
  | test (function : Operator) (gap opening : List Char) (first : Layout) (before after : List Char) (second : Layout)
    (closing : List Char)
  /-- An infix operator between its operands. -/
  | operation (left : Layout) (before : List Char) (operator : Operator) (name after : List Char) (right : Layout)

namespace Layout

def text : Layout → List Char
  | literal text => text
  | path text => text
  | negation blanks argument => '!' :: (blanks ++ argument.text)
  | group opening inner closing => '(' :: (opening ++ (inner.text ++ (closing ++ [')'])))
  | call function gap opening argument closing =>
    function.name.toList ++ (gap ++ '(' :: (opening ++ (argument.text ++ (closing ++ [')']))))
  | test function gap opening first before after second closing =>
    function.name.toList ++
      (gap ++ '(' :: (opening ++ (first.text ++ (before ++ ',' :: (after ++ (second.text ++ (closing ++ [')'])))))))
  | operation left before _ name after right => left.text ++ (before ++ (name ++ (after ++ right.text)))

/-- How tightly the outermost operator binds. An operand binds more tightly than every operator. -/
def precedence : Layout → Nat
  | operation _ _ operator _ _ _ => operator.precedence
  | _ => 0

def isOperand : Layout → Bool
  | operation .. => false
  | _ => true

/-- Whether a path stands at the end, which more text might continue. -/
def endsInPath : Layout → Bool
  | path _ => true
  | negation _ argument => argument.endsInPath
  | operation _ _ _ _ _ right => right.endsInPath
  | _ => false

theorem precedence_of_isOperand {layout : Layout} (operand : layout.isOperand = true) : layout.precedence = 0 := by
  cases layout <;> first | rfl | cases operand

/-- Whether the parts of a layout are read as an equation in front of some text. -/
inductive Reads [RegexSyntax] : Layout → Equation → List Char → Prop where
  | literal {c : Char} {more tail : List Char} {operand : Operand} {budget : Nat} (notBlank : isBlank c = false)
    (plain : c ∉ ['@', '$', '(']) (read : readOperand budget (c :: (more ++ tail)) = .ok (.operand operand, tail)) :
    Reads (literal (c :: more)) (.operand operand) tail
  | path {c : Char} {more tail : List Char} {path : Path} {budget : Nat} (anchor : c = '@' ∨ c = '$')
    (read : readPath budget (c :: (more ++ tail)) = .ok (path, tail)) :
    Reads (.path (c :: more)) (.operand (.path path)) tail
  | negation {blanks tail : List Char} {argument : Layout} {equation : Equation} (areBlanks : AreBlanks blanks)
    (operand : argument.isOperand = true) (reads : argument.Reads equation tail) :
    Reads (negation blanks argument) (.unary .not equation) tail
  | group {opening closing tail : List Char} {inner : Layout} {equation : Equation} (areBlanks : AreBlanks opening)
    (areBlanks' : AreBlanks closing) (reads : inner.Reads equation (closing ++ ')' :: tail)) :
    Reads (group opening inner closing) equation tail
  | call {function : Operator} {gap opening closing tail : List Char} {argument : Layout} {equation : Equation}
    (isFunction : function.isFunction = true) (unary : function.arity = 1) (areBlanks : AreBlanks gap)
    (areBlanks' : AreBlanks opening) (areBlanks'' : AreBlanks closing)
    (reads : argument.Reads equation (closing ++ ')' :: tail)) :
    Reads (call function gap opening argument closing) (.unary function equation) tail
  | test {function : Operator} {gap opening before after closing tail : List Char} {first second : Layout}
    {equation raw compiled : Equation} (isFunction : function.isFunction = true) (binary : ¬function.arity = 1)
    (areBlanks : AreBlanks gap) (areBlanks' : AreBlanks opening) (areBlanks'' : AreBlanks closing)
    (blanksBefore : AreBlanks before) (blanksAfter : AreBlanks after)
    (firstReads : first.Reads equation (before ++ ',' :: (after ++ (second.text ++ (closing ++ ')' :: tail)))))
    (secondReads : second.Reads raw (closing ++ ')' :: tail)) (takes : function.Takes raw compiled) :
    Reads (test function gap opening first before after second closing) (.binary function equation compiled) tail
  | operation {left right : Layout} {before name after tail : List Char} {operator : Operator}
    {equation raw compiled : Equation} (written : operator.IsWritten name) (blanksBefore : AreBlanks before)
    (blanksAfter : AreBlanks after) (read : readOperator (name ++ (after ++ (right.text ++ tail))) =
      .ok (some (operator, after ++ (right.text ++ tail))))
    (leftTighter : left.precedence ≤ operator.precedence) (rightTighter : right.precedence < operator.precedence)
    (leftReads : left.Reads equation (before ++ (name ++ (after ++ (right.text ++ tail)))))
    (rightReads : right.Reads raw tail) (takes : operator.Takes raw compiled) :
    Reads (operation left before operator name after right) (.binary operator equation compiled) tail

end Layout

/-! ## Literals and names -/

theorem name_of_function? {word : String} {function : Operator} (found : Operator.function? word = some function) :
    word = function.name := by
  unfold Operator.function? at found
  repeat' split at found
  all_goals cases found
  all_goals assumption

section Literals

variable [RegexSyntax] {budget : Nat} {c : Char} {text rest : List Char} {equation : Equation}

theorem exists_operand_of_quoted (isQuote : c = '\'' ∨ c = '"')
    (read : readOperand (budget + 1) (c :: text) = .ok (equation, rest)) : ∃ operand, equation = .operand operand := by
  rw [readOperand_quoted isQuote] at read
  rcases map_eq_ok.1 read with ⟨⟨string, left⟩, -, same⟩
  exact ⟨_, (Prod.mk.inj same).1.symm⟩

theorem exists_operand_of_slash (read : readOperand (budget + 1) ('/' :: text) = .ok (equation, rest)) :
    ∃ operand, equation = .operand operand := by
  rw [readOperand_slash, readPattern] at read
  rcases bind_eq_ok.1 read with ⟨⟨source, left⟩, -, made⟩
  simp only at made
  split at made
  · exact ⟨_, (Prod.mk.inj (Except.ok.inj made)).1.symm⟩
  · cases made

theorem exists_operand_of_numeric (numeric : startsNumeric text = true)
    (read : readOperand (budget + 1) text = .ok (equation, rest)) : ∃ operand, equation = .operand operand := by
  rw [readOperand_numeric (Nat.succ_pos budget) numeric, readNumericOperand] at read
  split at read
  · exact ⟨_, (Prod.mk.inj (Except.ok.inj read)).1.symm⟩
  · exact ⟨_, (Prod.mk.inj (Except.ok.inj read)).1.symm⟩
  · cases read

/-- A word is a literal only if it is no function. -/
theorem takesLiteral_word {operand : Operand} (notBlank : isBlank c = false) (unmarked : c ∉ operandMarks)
    (notNumeric : startsNumeric (c :: text) = false)
    (read : readOperand (budget + 1) (c :: text) = .ok (.operand operand, rest)) :
    TakesLiteral (c :: text) rest (.operand operand) := by
  by_cases letter : isLetter c = true
  · rcases Steady.exists_word notBlank unmarked letter notNumeric with ⟨word, left, whole, present, stops, reads⟩
    rcases @reads left budget stops with ⟨start, here⟩
    rw [whole, here] at read
    split at read
    · rename_i found
      rcases Prod.mk.inj (Except.ok.inj read) with ⟨same, rfl⟩
      rcases Equation.operand.inj same with rfl
      refine ⟨word, whole, present, ?_⟩
      intro other least alike
      have stopsThere : stopsAt isWordPart other = true := by
        refine alike.stopsAt (fun c inside => ?_) stops
        exact continuesLiteral_of_isNameCharacter c (isNameCharacter_of_isWordPart c inside)
      rcases @reads other least stopsThere with ⟨start, there⟩
      rw [there, found]
    · cases budget with
      | zero => simp [readCall] at read
      | succ budget =>
          rcases readCall_cases read with ⟨_, _, _, _, ⟨_, _, _, _, _, same⟩ | ⟨_, _, _, _, _, _, _, _, _, _, _, _, same⟩⟩
          · cases same
          · cases same
    · cases read
  · rw [readOperand_unmarked notBlank unmarked, notNumeric, if_neg (by simp), if_neg letter] at read
    cases read

/-- An operand in one piece that is no path is taken as a literal. -/
theorem takesLiteral_of_readOperand {operand : Operand} (notBlank : isBlank c = false) (plain : c ∉ ['@', '$', '('])
    (read : readOperand budget (c :: text) = .ok (.operand operand, rest)) :
    TakesLiteral (c :: text) rest (.operand operand) := by
  cases budget with
  | zero => simp [readOperand] at read
  | succ budget =>
      by_cases marked : c ∈ operandMarks
      · simp only [operandMarks, List.mem_cons, List.not_mem_nil, or_false] at marked
        rcases marked with rfl | rfl | rfl | rfl | rfl | rfl | rfl
        · exact absurd (by decide) plain
        · exact absurd (by decide) plain
        · exact Steady.takesLiteral_quoted (.inl rfl) read
        · exact Steady.takesLiteral_quoted (.inr rfl) read
        · exact Steady.takesLiteral_slash read
        · exact absurd (by decide) plain
        · rcases exists_argument_of_readOperand read with ⟨-, argument, isNegation, -⟩
          cases isNegation
      · cases numeric : startsNumeric (c :: text) with
        | true => exact Steady.takesLiteral_numeric numeric read
        | false => exact takesLiteral_word notBlank marked numeric read

end Literals

/-! ## What is read has a layout -/

variable [RegexSyntax]

/-- What is claimed of the readers at one budget. -/
structure LaidOut (budget : Nat) : Prop where
  operand : ∀ {text rest : List Char} {equation : Equation}, readOperand budget text = .ok (equation, rest) →
    ∃ blanks layout, AreBlanks blanks ∧ text = blanks ++ (layout.text ++ rest) ∧ layout.isOperand = true ∧
      Layout.Reads layout equation rest
  equation : ∀ {loosest : Nat} {text rest : List Char} {equation : Equation},
    readEquation budget loosest text = .ok (equation, rest) →
      ∃ blanks layout, AreBlanks blanks ∧ text = blanks ++ (layout.text ++ rest) ∧ layout.precedence ≤ loosest ∧
        Layout.Reads layout equation rest
  operators : ∀ {loosest : Nat} {text rest : List Char} {left equation : Equation} {layout : Layout},
    layout.Reads left text → layout.precedence ≤ loosest → (∀ tighter < layout.precedence, EndsEquation tighter text) →
      readOperators budget loosest left text = .ok (equation, rest) →
        ∃ whole, layout.text ++ text = Layout.text whole ++ rest ∧ whole.precedence ≤ loosest ∧ whole.Reads equation rest
  call : ∀ {function : Operator} {start text rest : List Char} {equation : Equation}, function.isFunction = true →
    readCall budget function start text = .ok (equation, rest) →
      ∃ layout, function.name.toList ++ text = Layout.text layout ++ rest ∧ layout.isOperand = true ∧
        layout.Reads equation rest

namespace LaidOut

variable {budget : Nat}

theorem zero : LaidOut 0 where
  operand read := by simp [readOperand] at read
  equation read := by simp [readEquation] at read
  operators _ _ _ read := by simp [readOperators] at read
  call _ read := by simp [readCall] at read

theorem equation_succ (laidOut : LaidOut budget) {loosest : Nat} {text rest : List Char} {equation : Equation}
    (read : readEquation (budget + 1) loosest text = .ok (equation, rest)) :
    ∃ blanks layout, AreBlanks blanks ∧ text = blanks ++ (layout.text ++ rest) ∧ layout.precedence ≤ loosest ∧
      Layout.Reads layout equation rest := by
  rw [readEquation] at read
  rcases bind_eq_ok.1 read with ⟨⟨left, afterLeft⟩, readLeft, readOthers⟩
  rcases laidOut.operand readLeft with ⟨blanks, layout, areBlanks, rfl, operand, reads⟩
  have tightest := Layout.precedence_of_isOperand operand
  rcases laidOut.operators reads (by omega) (by omega) readOthers with ⟨whole, same, tight, wholeReads⟩
  exact ⟨blanks, whole, areBlanks, by rw [same], tight, wholeReads⟩

theorem operators_succ (laidOut : LaidOut budget) {loosest : Nat} {text rest : List Char} {left equation : Equation}
    {layout : Layout} (reads : layout.Reads left text) (tight : layout.precedence ≤ loosest)
    (ends : ∀ tighter < layout.precedence, EndsEquation tighter text)
    (read : readOperators (budget + 1) loosest left text = .ok (equation, rest)) :
    ∃ whole, layout.text ++ text = Layout.text whole ++ rest ∧ whole.precedence ≤ loosest ∧ whole.Reads equation rest := by
  rcases readOperators_cases read with ⟨rfl, rfl, -⟩ |
    ⟨operator, afterOperator, right, afterRight, compiled, readFirst, bound, readRight, takes, readOthers⟩
  · exact ⟨layout, rfl, tight, reads⟩
  · have positive := Operator.precedence_pos (isInfix_of_readOperator readFirst)
    have leftTighter : layout.precedence ≤ operator.precedence := by
      by_contra looser
      rcases ends _ (Nat.lt_of_not_le looser) with none | ⟨other, after, some, further⟩
      · rw [none] at readFirst
        cases readFirst
      · rw [some] at readFirst
        rcases Prod.mk.inj (Option.some.inj (Except.ok.inj readFirst)) with ⟨rfl, -⟩
        exact Nat.lt_irrefl _ further
    rcases readOperator_takes readFirst with ⟨before, name, blanksBefore, written, rfl, -, nameAgain⟩
    rcases (steady budget).equation readRight with ⟨-, -, -, rightEnds, -⟩
    rcases laidOut.equation readRight with ⟨after, rightLayout, blanksAfter, rfl, rightTighter, rightReads⟩
    have operation : (Layout.operation layout before operator name after rightLayout).Reads
        (.binary operator left compiled) afterRight :=
      .operation written blanksBefore blanksAfter (nameAgain _ rfl) leftTighter (by omega) reads rightReads takes
    have endsAfter (tighter : Nat) (lt : tighter < operator.precedence) : EndsEquation tighter afterRight :=
      rightEnds.mono (Nat.le_sub_one_of_lt lt)
    rcases laidOut.operators operation bound endsAfter readOthers with ⟨whole, same, wholeTight, wholeReads⟩
    refine ⟨whole, ?_, wholeTight, wholeReads⟩
    rw [← same]
    simp only [Layout.text, List.append_assoc]

theorem call_succ (laidOut : LaidOut budget) {function : Operator} {start text rest : List Char} {equation : Equation}
    (isFunction : function.isFunction = true) (read : readCall (budget + 1) function start text = .ok (equation, rest)) :
    ∃ layout, function.name.toList ++ text = Layout.text layout ++ rest ∧ layout.isOperand = true ∧
      layout.Reads equation rest := by
  rcases readCall_cases read with ⟨gap, inner, areBlanks, rfl, ⟨unary, argument, closing, areBlanks', readFirst, rfl⟩ |
    ⟨binary, first, middle, before, second, closing, compiled, blanksBefore, areBlanks', readFirst, readSecond, compiles,
      rfl⟩⟩
  · rcases laidOut.equation readFirst with ⟨opening, layout, areBlanks'', rfl, -, reads⟩
    refine ⟨.call function gap opening layout closing, ?_, rfl, .call isFunction unary areBlanks areBlanks'' areBlanks' reads⟩
    simp only [Layout.text, List.append_assoc, List.cons_append, List.nil_append]
  · rcases laidOut.equation readSecond with ⟨after, secondLayout, blanksAfter, rfl, -, secondReads⟩
    rcases laidOut.equation readFirst with ⟨opening, firstLayout, areBlanks'', rfl, -, firstReads⟩
    refine ⟨.test function gap opening firstLayout before after secondLayout closing, ?_, rfl,
      .test isFunction binary areBlanks areBlanks'' areBlanks' blanksBefore blanksAfter firstReads secondReads
        ((Rendering.takes_iff_of_function isFunction binary).2 compiles)⟩
    simp only [Layout.text, List.append_assoc, List.cons_append, List.nil_append]

/-! ### Operands by their first character -/

section Operands

variable {c : Char} {text rest : List Char} {equation : Equation}

/-- Whether the text of an operand has a layout. -/
def HasOperandLayout (text rest : List Char) (equation : Equation) : Prop :=
  ∃ layout, text = Layout.text layout ++ rest ∧ layout.isOperand = true ∧ layout.Reads equation rest

theorem operand_literal {operand : Operand} (notBlank : isBlank c = false) (plain : c ∉ ['@', '$', '('])
    (read : readOperand budget (c :: text) = .ok (.operand operand, rest)) :
    HasOperandLayout (c :: text) rest (.operand operand) := by
  rcases (steady budget).operand read with ⟨used, whole, present, -⟩
  rcases (List.cons_eq_append_iff.1 whole).resolve_left fun empty => present empty.1 with ⟨more, rfl, rfl⟩
  exact ⟨.literal (c :: more), rfl, rfl, .literal notBlank plain read⟩

theorem operand_anchor (anchor : c = '@' ∨ c = '$')
    (read : readOperand (budget + 1) (c :: text) = .ok (equation, rest)) : HasOperandLayout (c :: text) rest equation := by
  have anchored : (c :: text).head? = some '@' ∨ (c :: text).head? = some '$' := by
    rcases anchor with rfl | rfl
    · exact .inl rfl
    · exact .inr rfl
  rcases exists_path_of_readOperand anchor read with ⟨path, rfl, found⟩
  rcases (steady budget).path anchored found with ⟨used, whole, present, -⟩
  rcases (List.cons_eq_append_iff.1 whole).resolve_left fun empty => present empty.1 with ⟨more, rfl, rfl⟩
  exact ⟨.path (c :: more), rfl, rfl, .path anchor found⟩

theorem operand_group (laidOut : LaidOut budget)
    (read : readOperand (budget + 1) ('(' :: text) = .ok (equation, rest)) : HasOperandLayout ('(' :: text) rest equation := by
  rcases exists_closing_of_readOperand read with ⟨closing, areBlanks, readGroup⟩
  rcases laidOut.equation readGroup with ⟨opening, inner, areBlanks', rfl, -, reads⟩
  refine ⟨.group opening inner closing, ?_, rfl, .group areBlanks' areBlanks reads⟩
  simp only [Layout.text, List.append_assoc, List.cons_append, List.nil_append]

theorem operand_not (laidOut : LaidOut budget)
    (read : readOperand (budget + 1) ('!' :: text) = .ok (equation, rest)) : HasOperandLayout ('!' :: text) rest equation := by
  rcases exists_argument_of_readOperand read with ⟨-, argument, rfl, found⟩
  rcases laidOut.operand found with ⟨blanks, layout, areBlanks, rfl, operand, reads⟩
  refine ⟨.negation blanks layout, ?_, rfl, .negation areBlanks operand reads⟩
  simp only [Layout.text, List.append_assoc, List.cons_append]

theorem operand_word (laidOut : LaidOut budget) (notBlank : isBlank c = false) (unmarked : c ∉ operandMarks)
    (letter : isLetter c = true) (notNumeric : startsNumeric (c :: text) = false)
    (read : readOperand (budget + 1) (c :: text) = .ok (equation, rest)) : HasOperandLayout (c :: text) rest equation := by
  rcases Steady.exists_word notBlank unmarked letter notNumeric with ⟨word, left, whole, -, stops, reads⟩
  rcases @reads left budget stops with ⟨start, here⟩
  have read' := read
  rw [whole, here] at read'
  split at read'
  · rcases Prod.mk.inj (Except.ok.inj read') with ⟨rfl, -⟩
    refine operand_literal notBlank (fun mark => unmarked ?_) read
    simp only [List.mem_cons, List.not_mem_nil, or_false] at mark
    rcases mark with rfl | rfl | rfl <;> decide
  · rename_i function _ found
    have named := congrArg String.toList (name_of_function? found)
    rw [String.toList_ofList] at named
    rcases laidOut.call (isFunction_of_function? found) read' with ⟨layout, same, operand, layoutReads⟩
    exact ⟨layout, by rw [whole, named, same], operand, layoutReads⟩
  · cases read'

theorem operand_cons (laidOut : LaidOut budget) (notBlank : isBlank c = false)
    (read : readOperand (budget + 1) (c :: text) = .ok (equation, rest)) : HasOperandLayout (c :: text) rest equation := by
  by_cases marked : c ∈ operandMarks
  · have literal (plain : c ∉ ['@', '$', '(']) (operand : ∃ operand, equation = .operand operand) :
        HasOperandLayout (c :: text) rest equation := by
      rcases operand with ⟨operand, rfl⟩
      exact operand_literal notBlank plain read
    simp only [operandMarks, List.mem_cons, List.not_mem_nil, or_false] at marked
    rcases marked with rfl | rfl | rfl | rfl | rfl | rfl | rfl
    · exact operand_anchor (.inl rfl) read
    · exact operand_anchor (.inr rfl) read
    · exact literal (by decide) (exists_operand_of_quoted (.inl rfl) read)
    · exact literal (by decide) (exists_operand_of_quoted (.inr rfl) read)
    · exact literal (by decide) (exists_operand_of_slash read)
    · exact laidOut.operand_group read
    · exact laidOut.operand_not read
  · by_cases numeric : startsNumeric (c :: text) = true
    · rcases exists_operand_of_numeric numeric read with ⟨operand, rfl⟩
      refine operand_literal notBlank (fun mark => marked ?_) read
      simp only [List.mem_cons, List.not_mem_nil, or_false] at mark
      rcases mark with rfl | rfl | rfl <;> decide
    · rw [Bool.not_eq_true] at numeric
      by_cases letter : isLetter c = true
      · exact laidOut.operand_word notBlank marked letter numeric read
      · rw [readOperand_unmarked notBlank marked, numeric, if_neg (by simp), if_neg letter] at read
        cases read

theorem operand_succ (laidOut : LaidOut budget) (read : readOperand (budget + 1) text = .ok (equation, rest)) :
    ∃ blanks layout, AreBlanks blanks ∧ text = blanks ++ (layout.text ++ rest) ∧ layout.isOperand = true ∧
      Layout.Reads layout equation rest := by
  rcases exists_blanks text with ⟨blanks, areBlanks, whole⟩
  have notBlank : stopsAt isBlank (skipBlanks text) = true := stopsAt_dropWhile isBlank text
  rw [readOperand_skipBlanks] at read
  generalize skipBlanks text = opened at read whole notBlank
  cases opened with
  | nil => cases read
  | cons c inner =>
      rw [stopsAt, Bool.not_eq_true'] at notBlank
      rcases laidOut.operand_cons notBlank read with ⟨layout, same, operand, reads⟩
      exact ⟨blanks, layout, areBlanks, by rw [whole, same], operand, reads⟩

end Operands

end LaidOut

/-- Whatever is read at a budget has a layout. -/
theorem laidOut (budget : Nat) : LaidOut budget := by
  induction budget with
  | zero => exact .zero
  | succ budget ih => exact ⟨ih.operand_succ, ih.equation_succ, ih.operators_succ, ih.call_succ⟩

/-- A layout of a whole text, with the blanks at its ends. -/
structure Layout.Covers (layout : Layout) (opening closing : List Char) (equation : Equation) (text : List Char) : Prop where
  opens : AreBlanks opening
  closes : AreBlanks closing
  whole : text = opening ++ (layout.text ++ closing)
  reads : layout.Reads equation closing

/-- A text that is read as a script has a layout. -/
theorem exists_covers {text : List Char} {script : Script} (read : readWholeScript text = .ok script) :
    ∃ layout opening closing equation, Layout.Covers layout opening closing equation text ∧ equation.script = script := by
  rw [readWholeScript] at read
  rcases bind_eq_ok.1 read with ⟨⟨equation, left⟩, found, ends⟩
  rcases exists_blanks left with ⟨closing, areBlanks, whole⟩
  simp only at ends
  split at ends
  · rename_i nothing
    rw [nothing, List.append_nil] at whole
    rcases whole with rfl
    rcases (laidOut _).equation found with ⟨opening, layout, areBlanks', same, -, reads⟩
    exact ⟨layout, opening, left, equation, ⟨areBlanks', areBlanks, same, reads⟩, Except.ok.inj ends⟩
  · cases ends

end TreePath

import TreePath.Proofs.Script.Layout
import TreePath.Proofs.Script.Stuck
import TreePath.Regex.Standard

/-!
# Blanks around operators

Blanks around operators that are no words can be left out: what is left is read as the same script or as none. There is one
place where a blank is needed. An asterisk behind a path is read as a part of the path, and if a minus or a slash follows,
it is taken for the operator instead. Behind the asterisk anything else is stuck.
-/

namespace TreePath

/-! ## Operators that are no words -/

/-- Whether an operator is written between its operands and is no word. -/
def Operator.isSymbol (operator : Operator) : Bool :=
  operator.isInfix && (Operator.word? operator.name).isNone

section Symbols

variable {operator : Operator} {name rest : List Char}

/-- An operator that is no word is read whatever follows it, other than an equals sign. -/
theorem readOperator_symbol (symbol : operator.isSymbol = true) (written : operator.IsWritten name)
    (stops : stopsAt (· == '=') rest = true) : readOperator (name ++ rest) = .ok (some (operator, rest)) := by
  have notEqual : rest.head? ≠ some '=' := by
    intro equals
    rcases List.head?_eq_some_iff.1 equals with ⟨more, rfl⟩
    cases stops
  rcases written with rfl | ⟨rfl, rfl⟩
  · cases operator with
    | less =>
        have mark : readMark '<' rest = .ok (.less, rest) := if_neg notEqual
        show (readMark '<' rest >>= fun read => .ok (read.1.operator?.map (·, read.2))) = _
        rw [mark]
        rfl
    | greater =>
        have mark : readMark '>' rest = .ok (.greater, rest) := if_neg notEqual
        show (readMark '>' rest >>= fun read => .ok (read.1.operator?.map (·, read.2))) = _
        rw [mark]
        rfl
    | memberOf | emptiness | presence | existence | not | get | length | count | matchWhole | search => cases symbol
    | _ => rfl
  · rfl

theorem exists_symbol (symbol : operator.isSymbol = true) (written : operator.IsWritten name) :
    ∃ c more, name = c :: more ∧ continuesLiteral c = false ∧
      (continuesOperand c = false ∨ operator = .multiply ∧ c = '*' ∧ more = []) := by
  rcases written with rfl | ⟨rfl, rfl⟩
  · cases operator with
    | memberOf | emptiness | presence | existence | not | get | length | count | matchWhole | search => cases symbol
    | multiply => exact ⟨_, _, rfl, rfl, .inr ⟨rfl, rfl, rfl⟩⟩
    | _ => exact ⟨_, _, rfl, rfl, .inl rfl⟩
  · exact ⟨_, _, rfl, rfl, .inl rfl⟩

end Symbols

/-! ## Leaving blanks out -/

namespace Layout

/--
Whether the blank in front of an operator must stay: an asterisk would be read as the last part of a path, and what follows
it as another operator.
-/
def NeedsBlank (left : Layout) (operator : Operator) (right : Layout) : Prop :=
  operator = .multiply ∧ left.endsInPath = true ∧ (right.text.head? = some '-' ∨ right.text.head? = some '/')

/-- The second layout is the first one, or blanks around operators of it that are no words are left out. -/
inductive Tightens : Layout → Layout → Prop where
  | literal (text : List Char) : Tightens (literal text) (literal text)
  | path (text : List Char) : Tightens (path text) (path text)
  | negation {blanks : List Char} {argument tighter : Layout} (tightens : Tightens argument tighter) :
    Tightens (negation blanks argument) (negation blanks tighter)
  | group {opening closing : List Char} {inner tighter : Layout} (tightens : Tightens inner tighter) :
    Tightens (group opening inner closing) (group opening tighter closing)
  | call {function : Operator} {gap opening closing : List Char} {argument tighter : Layout}
    (tightens : Tightens argument tighter) :
    Tightens (call function gap opening argument closing) (call function gap opening tighter closing)
  | test {function : Operator} {gap opening before after closing : List Char} {first second first' second' : Layout}
    (tightensFirst : Tightens first first') (tightensSecond : Tightens second second') :
    Tightens (test function gap opening first before after second closing)
      (test function gap opening first' before after second' closing)
  | operation {left right left' right' : Layout} {operator : Operator} {name before after before' after' : List Char}
    (tightensLeft : Tightens left left') (tightensRight : Tightens right right')
    (leavesBefore : before' = before ∨ (operator.isSymbol = true ∧ ¬NeedsBlank left operator right) ∧ before' = [])
    (leavesAfter : after' = after ∨ operator.isSymbol = true ∧ after' = []) :
    Tightens (operation left before operator name after right) (operation left' before' operator name after' right')

theorem Tightens.refl (layout : Layout) : Tightens layout layout := by
  induction layout with
  | literal text => exact .literal text
  | path text => exact .path text
  | negation blanks argument ih => exact .negation ih
  | group opening inner closing ih => exact .group ih
  | call function gap opening argument closing ih => exact .call ih
  | test function gap opening first before after second closing ihFirst ihSecond => exact .test ihFirst ihSecond
  | operation left before operator name after right ihLeft ihRight => exact .operation ihLeft ihRight (.inl rfl) (.inl rfl)

/-- The characters with which no operand begins. -/
def outsideOperands : List Char := ['=', '.', '[', '*']

variable [RegexSyntax]

theorem not_mem_outsideOperands {c : Char} {text rest : List Char} {budget : Nat} {equation : Equation}
    (read : readOperand budget (c :: text) = .ok (equation, rest)) : c ∉ outsideOperands := by
  intro outside
  cases budget with
  | zero => simp [readOperand] at read
  | succ budget =>
      simp only [outsideOperands, List.mem_cons, List.not_mem_nil, or_false] at outside
      rcases outside with rfl | rfl | rfl | rfl <;> cases read

/-- A tightened layout begins with the same character. -/
theorem Reads.begins {layout tighter : Layout} {equation : Equation} {tail : List Char} (reads : layout.Reads equation tail)
    (tightens : Tightens layout tighter) : ∃ c more more', layout.text = c :: more ∧ tighter.text = c :: more' ∧
      isBlank c = false ∧ c ∉ outsideOperands := by
  induction reads generalizing tighter with
  | literal notBlank plain read =>
      cases tightens
      exact ⟨_, _, _, rfl, rfl, notBlank, not_mem_outsideOperands read⟩
  | path anchor read =>
      cases tightens
      refine ⟨_, _, _, rfl, rfl, ?_⟩
      rcases anchor with rfl | rfl <;> exact ⟨rfl, by decide⟩
  | negation =>
      cases tightens
      exact ⟨_, _, _, rfl, rfl, rfl, by decide⟩
  | group =>
      cases tightens
      exact ⟨_, _, _, rfl, rfl, rfl, by decide⟩
  | @call function _ _ _ _ _ _ isFunction =>
      cases tightens
      cases function <;> first | exact ⟨_, _, _, rfl, rfl, rfl, by decide⟩ | cases isFunction
  | @test function _ _ _ _ _ _ _ _ _ _ _ isFunction =>
      cases tightens
      cases function <;> first | exact ⟨_, _, _, rfl, rfl, rfl, by decide⟩ | cases isFunction
  | operation _ _ _ _ _ _ _ _ _ ihLeft _ =>
      cases tightens with
      | operation tightensLeft =>
          rcases ihLeft tightensLeft with ⟨c, more, more', same, same', plain⟩
          rw [text, text, same, same']
          exact ⟨c, _, _, rfl, rfl, plain⟩

end Layout

/-! ## Reading a tightened layout -/

namespace Layout

theorem precedence_le_loosest (layout : Layout) : layout.precedence ≤ Operator.loosest := by
  cases layout <;> first | exact Operator.precedence_le_loosest _ | exact Nat.zero_le _

/-- The characters that might continue the last part of a layout. -/
def continues (layout : Layout) : Char → Bool :=
  if layout.endsInPath then continuesOperand else continuesLiteral

/--
Other text behind a layout that may stand in the place of its tail: it cannot be told from the tail, or it is an asterisk
which a path at the end takes for its own and behind which reading is stuck. Operators inside of the layout are not affected.
-/
structure Adjoins (layout : Layout) (tail other : List Char) : Prop where
  joins : Alike layout.continues tail other ∨
    layout.endsInPath = true ∧ ∃ rest, other = '*' :: rest ∧ stopsAt startsFragment rest = true ∧ IsStuck rest
  ends : ∀ tighter < layout.precedence, EndsEquation tighter other

section Adjoining

variable {layout : Layout} {tail other closing : List Char}

theorem alike_of_adjoins (adjoins : layout.Adjoins tail other) (noPath : layout.endsInPath = false) :
    Alike continuesLiteral tail other := by
  rcases adjoins.joins with alike | ⟨path, -⟩
  · rw [continues, noPath] at alike
    exact alike
  · rw [noPath] at path
    cases path

theorem adjoins_closing {rest rest' : List Char} {c : Char} (areBlanks : AreBlanks closing)
    (closes : c ∈ equationEnds) : layout.Adjoins (closing ++ c :: rest) (closing ++ c :: rest') :=
  ⟨.inl (alike_closing areBlanks closes), fun _ _ => endsEquation_closing areBlanks closes _⟩

theorem areBlanks_of_leaves {blanks blanks' : List Char} {free : Prop} (areBlanks : AreBlanks blanks)
    (leaves : blanks' = blanks ∨ free ∧ blanks' = []) : AreBlanks blanks' := by
  rcases leaves with rfl | ⟨-, rfl⟩
  · exact areBlanks
  · exact fun _ member => nomatch member

theorem endsEquation_blanks (areBlanks : AreBlanks closing) (loosest : Nat) : EndsEquation loosest closing := by
  have none := readOperator_blanks areBlanks []
  rw [List.append_nil] at none
  exact .inl none

theorem adjoins_blanks (areBlanks : AreBlanks closing) : layout.Adjoins closing closing := by
  have noPoint := @stopsAt_point_of_areBlanks closing [] areBlanks rfl
  rw [List.append_nil] at noPoint
  exact ⟨.inl (.of_head? rfl noPoint), fun _ _ => endsEquation_blanks areBlanks _⟩

end Adjoining

variable [RegexSyntax]

/-- What a tightened layout is read as in front of other text: the same equation, unless reading fails. -/
structure ReadsAgain (layout tighter : Layout) (equation : Equation) (other : List Char) : Prop where
  operand : layout.isOperand = true → ∀ {least : Nat}, 4 * tighter.text.length ≤ least →
    Fails (readOperand least (tighter.text ++ other)) ∨ readOperand least (tighter.text ++ other) = .ok (equation, other)
  equation : ∀ {loosest least : Nat}, layout.precedence ≤ loosest → 4 * tighter.text.length + 1 ≤ least →
    Fails (readEquation least loosest (tighter.text ++ other)) ∨ ∃ others, least ≤ others + tighter.text.length ∧
      readEquation least loosest (tighter.text ++ other) = readOperators others loosest equation other

section Again

variable {layout tighter : Layout} {equation : Equation} {tail other : List Char}

/-- An operand is an equation by itself, up to the operators behind it. -/
theorem ReadsAgain.of_operand (present : tighter.text ≠ [])
    (operand : ∀ {least : Nat}, 4 * tighter.text.length ≤ least →
      Fails (readOperand least (tighter.text ++ other)) ∨ readOperand least (tighter.text ++ other) = .ok (equation, other)) :
    ReadsAgain layout tighter equation other where
  operand _ := operand
  equation := by
    intro loosest least _ enough
    have positive := List.length_pos_iff.2 present
    rcases Nat.exists_eq_add_of_le' (by omega : 1 ≤ least) with ⟨least, rfl⟩
    rcases operand (by omega : 4 * tighter.text.length ≤ least) with fails | read
    · exact .inl fails.equation
    · refine .inr ⟨least, by omega, ?_⟩
      rw [readEquation, read, ok_bind]

/-- An argument or a group is read up to the mark that closes it. -/
theorem ReadsAgain.closed {opening closing rest : List Char} {c : Char}
    (again : ReadsAgain layout tighter equation (closing ++ c :: rest)) (areBlanks : AreBlanks opening)
    (areBlanks' : AreBlanks closing) (closes : c ∈ equationEnds) {least : Nat}
    (enough : 4 * tighter.text.length + 2 ≤ least) :
    Fails (readEquation least Operator.loosest (opening ++ (tighter.text ++ (closing ++ c :: rest)))) ∨
      readEquation least Operator.loosest (opening ++ (tighter.text ++ (closing ++ c :: rest))) =
        .ok (equation, closing ++ c :: rest) := by
  rcases Nat.exists_eq_add_of_le' (by omega : 2 ≤ least) with ⟨least, rfl⟩
  rw [readEquation_blanks areBlanks]
  rcases again.equation layout.precedence_le_loosest (by omega : _ ≤ least + 2) with fails | ⟨others, bound, read⟩
  · exact .inl fails
  · rcases Nat.exists_eq_add_of_le' (by omega : 1 ≤ others) with ⟨others, rfl⟩
    rw [read]
    exact .inr (readOperators_of_endsEquation (endsEquation_closing areBlanks' closes _) others equation)

end Again

/-! ### Operands -/

section Operands

variable {budget : Nat} {c : Char} {more tail other : List Char} {argument inner first second tighter : Layout}
variable {equation : Equation}

theorem readsAgain_literal {operand : Operand} (notBlank : isBlank c = false) (plain : c ∉ ['@', '$', '('])
    (read : readOperand budget (c :: (more ++ tail)) = .ok (.operand operand, tail))
    (adjoins : (literal (c :: more)).Adjoins tail other) :
    ReadsAgain (literal (c :: more)) (literal (c :: more)) (.operand operand) other := by
  rcases takesLiteral_of_readOperand notBlank plain read with ⟨used, whole, -, again⟩
  rcases (List.append_cancel_right whole : c :: more = used) with rfl
  refine .of_operand (List.cons_ne_nil _ _) fun {least} enough => ?_
  rw [text, List.length_cons] at enough
  rcases Nat.exists_eq_add_of_le' (by omega : 1 ≤ least) with ⟨least, rfl⟩
  exact .inr (again (alike_of_adjoins adjoins rfl))

theorem readsAgain_path {path : Path} (anchor : c = '@' ∨ c = '$')
    (read : readPath budget (c :: (more ++ tail)) = .ok (path, tail))
    (adjoins : (Layout.path (c :: more)).Adjoins tail other) :
    ReadsAgain (.path (c :: more)) (.path (c :: more)) (.operand (.path path)) other := by
  refine .of_operand (List.cons_ne_nil _ _) fun {least} enough => ?_
  rcases adjoins.joins with alike | ⟨-, rest, rfl, stops, stuck⟩
  · have found : readOperand (budget + 1) (c :: (more ++ tail)) = .ok (.operand (.path path), tail) := by
      rw [readOperand_anchor anchor, read]
      rfl
    rcases (steady (budget + 1)).operand found with ⟨used, whole, -, again⟩
    rcases (List.append_cancel_right whole : c :: more = used) with rfl
    exact .inr (again alike enough)
  · -- the asterisk is read as the last part of the path
    rcases exists_readOperand_asterisk anchor read stops enough with ⟨longer, readLonger⟩
    left
    intro found left' readFound
    rw [text, List.cons_append, readLonger] at readFound
    rcases Prod.mk.inj (Except.ok.inj readFound) with ⟨-, rfl⟩
    exact stuck

/-- What stands behind an exclamation mark does not make an inequality of it. -/
theorem head?_ne_equals {blanks : List Char} (areBlanks : AreBlanks blanks) (reads : argument.Reads equation tail)
    (tightens : Tightens argument tighter) (other : List Char) : (blanks ++ (tighter.text ++ other)).head? ≠ some '=' := by
  intro equals
  cases blanks with
  | nil =>
      rcases reads.begins tightens with ⟨d, more, more', -, same, -, plain⟩
      rw [List.nil_append, same] at equals
      rcases Option.some.inj equals with rfl
      exact plain (by decide)
  | cons blank blanks =>
      rcases Option.some.inj equals with rfl
      cases areBlanks '=' List.mem_cons_self

theorem readsAgain_negation {blanks : List Char} (areBlanks : AreBlanks blanks) (operand : argument.isOperand = true)
    (next : (blanks ++ (tighter.text ++ other)).head? ≠ some '=') (again : ReadsAgain argument tighter equation other) :
    ReadsAgain (negation blanks argument) (negation blanks tighter) (.unary .not equation) other := by
  refine .of_operand (List.cons_ne_nil _ _) fun {least} enough => ?_
  simp only [text, List.length_cons, List.length_append] at enough
  rcases Nat.exists_eq_add_of_le' (by omega : 2 ≤ least) with ⟨least, rfl⟩
  rw [text, List.cons_append, List.append_assoc]
  rcases again.operand operand (by omega : _ ≤ least + 1) with fails | read
  · rw [← readOperand_blanks areBlanks] at fails
    exact .inl fails.not
  · right
    rw [readOperand_bang, if_pos next, readOperand_blanks areBlanks, read]
    rfl

theorem readsAgain_group {opening closing : List Char} (areBlanks : AreBlanks opening) (areBlanks' : AreBlanks closing)
    (again : ReadsAgain inner tighter equation (closing ++ ')' :: other)) :
    ReadsAgain (group opening inner closing) (group opening tighter closing) equation other := by
  refine .of_operand (List.cons_ne_nil _ _) fun {least} enough => ?_
  simp only [text, List.length_cons, List.length_append] at enough
  rcases Nat.exists_eq_add_of_le' (by omega : 1 ≤ least) with ⟨least, rfl⟩
  simp only [text, List.append_assoc, List.cons_append, List.nil_append]
  rcases again.closed areBlanks areBlanks' (by decide) (by omega : _ ≤ least) with fails | read
  · exact .inl fails.group
  · right
    rw [readOperand_open, read, ok_bind]
    simp only
    rw [expectChar_blanks areBlanks' rfl]
    rfl

theorem readOperand_name {function : Operator} {gap : List Char} (isFunction : function.isFunction = true)
    (areBlanks : AreBlanks gap) (rest : List Char) :
    ∃ start, readOperand (budget + 1) (function.name.toList ++ (gap ++ '(' :: rest)) =
      readCall budget function start (gap ++ '(' :: rest) :=
  ⟨_, Rendering.readOperand_function isFunction (stopsAt_of_areBlanks isWordPart_of_isBlank areBlanks rfl)⟩

theorem readsAgain_call {function : Operator} {gap opening closing : List Char} (isFunction : function.isFunction = true)
    (unary : function.arity = 1) (areBlanks : AreBlanks gap) (areBlanks' : AreBlanks opening)
    (areBlanks'' : AreBlanks closing) (again : ReadsAgain argument tighter equation (closing ++ ')' :: other)) :
    ReadsAgain (call function gap opening argument closing) (call function gap opening tighter closing)
      (.unary function equation) other := by
  have named : function.name.toList ≠ [] := Operator.IsWritten.ne_nil (.inl rfl)
  refine .of_operand (by simp [text, named]) fun {least} enough => ?_
  have positive := List.length_pos_iff.2 named
  simp only [text, List.length_cons, List.length_append] at enough
  rcases Nat.exists_eq_add_of_le' (by omega : 2 ≤ least) with ⟨least, rfl⟩
  simp only [text, List.append_assoc, List.cons_append, List.nil_append]
  rcases @readOperand_name _ (least + 1) function gap isFunction areBlanks
    (opening ++ (tighter.text ++ (closing ++ ')' :: other))) with ⟨start, name⟩
  rw [name]
  rcases again.closed areBlanks' areBlanks'' (by decide) (by omega : _ ≤ least) with fails | read
  · exact .inl (.call areBlanks (.inl fails))
  · exact .inr (readCall_unary unary areBlanks areBlanks'' read)

theorem readsAgain_test {function : Operator} {gap opening before after closing : List Char} {first' second' : Layout}
    {raw compiled : Equation} (isFunction : function.isFunction = true) (binary : ¬function.arity = 1)
    (areBlanks : AreBlanks gap) (areBlanks' : AreBlanks opening) (areBlanks'' : AreBlanks closing)
    (blanksBefore : AreBlanks before) (blanksAfter : AreBlanks after) (takes : function.Takes raw compiled)
    (firstAgain : ReadsAgain first first' equation
      (before ++ ',' :: (after ++ (second'.text ++ (closing ++ ')' :: other)))))
    (secondAgain : ReadsAgain second second' raw (closing ++ ')' :: other)) :
    ReadsAgain (test function gap opening first before after second closing)
      (test function gap opening first' before after second' closing) (.binary function equation compiled) other := by
  have named : function.name.toList ≠ [] := Operator.IsWritten.ne_nil (.inl rfl)
  refine .of_operand (by simp [text, named]) fun {least} enough => ?_
  have positive := List.length_pos_iff.2 named
  simp only [text, List.length_cons, List.length_append] at enough
  rcases Nat.exists_eq_add_of_le' (by omega : 2 ≤ least) with ⟨least, rfl⟩
  simp only [text, List.append_assoc, List.cons_append, List.nil_append]
  rcases @readOperand_name _ (least + 1) function gap isFunction areBlanks
    (opening ++ (first'.text ++ (before ++ ',' :: (after ++ (second'.text ++ (closing ++ ')' :: other)))))) with
    ⟨start, name⟩
  rw [name]
  rcases firstAgain.closed areBlanks' blanksBefore (by decide) (by omega : _ ≤ least) with fails | readFirst
  · exact .inl (.call areBlanks (.inl fails))
  · rcases secondAgain.closed blanksAfter areBlanks'' (by decide) (by omega : _ ≤ least) with fails | readSecond
    · exact .inl (.call areBlanks (.inr ⟨equation, before, _, blanksBefore, binary, readFirst, fails⟩))
    · have compiles := (Rendering.takes_iff_of_function isFunction binary).1 takes start
      exact .inr (readCall_binary binary areBlanks blanksBefore areBlanks'' readFirst readSecond compiles)

end Operands

/-! ### Operators -/

section Operations

variable {left right left' right' : Layout} {operator : Operator} {name before before' after after' tail other : List Char}
variable {equation raw compiled : Equation}

/-- An operator is still read behind the blanks that are left. -/
theorem readOperator_again (read : readOperator (name ++ (after ++ (right.text ++ tail))) =
      .ok (some (operator, after ++ (right.text ++ tail))))
    (written : operator.IsWritten name) (rightReads : right.Reads raw tail) (tightens : Tightens right right')
    (leavesAfter : after' = after ∨ operator.isSymbol = true ∧ after' = []) :
    readOperator (name ++ (after' ++ (right'.text ++ other))) = .ok (some (operator, after' ++ (right'.text ++ other))) := by
  rcases rightReads.begins tightens with ⟨c, more, more', same, same', notBlank, plain⟩
  rcases leavesAfter with rfl | ⟨symbol, rfl⟩
  · rcases readOperator_takes read with ⟨blanks, used, areBlanks, -, whole, -, again⟩
    rw [← List.append_assoc blanks] at whole
    rcases List.append_cancel_right whole with rfl
    rw [List.append_assoc, readOperator_blanks areBlanks]
    apply again
    rw [same, same']
    cases after' <;> rfl
  · refine readOperator_symbol symbol written ?_
    have notEqual : c ≠ '=' := by
      rintro rfl
      exact plain (by decide)
    rw [List.nil_append, same']
    simp [stopsAt, notEqual]

/-- Behind an asterisk that is read as a part of a path its right operand is stuck, unless a minus or a slash begins it. -/
theorem isStuck_right (operand : right.isOperand = true) (rightReads : right.Reads raw tail)
    (tightens : Tightens right right') (adjoins : right.Adjoins tail other) (notMinus : right.text.head? ≠ some '-')
    (notSlash : right.text.head? ≠ some '/') : IsStuck (right'.text ++ other) := by
  have gapStops {gap : List Char} (areBlanks : AreBlanks gap) (rest : List Char) :
      stopsAt isWordPart (gap ++ '(' :: rest) = true :=
    stopsAt_of_areBlanks isWordPart_of_isBlank areBlanks rfl
  cases rightReads with
  | literal notBlank plain read =>
      cases tightens
      rcases takesLiteral_of_readOperand notBlank plain read with ⟨used, whole, -, again⟩
      have same : _ :: _ = used := List.append_cancel_right whole
      have there := @again other 0 (alike_of_adjoins adjoins rfl)
      rw [← same] at there
      exact isStuck_of_readOperand notBlank (fun minus => notMinus (congrArg some minus))
        (fun slash => notSlash (congrArg some slash)) there
  | path anchor read =>
      cases tightens
      rcases anchor with rfl | rfl <;> exact isStuck_cons rfl (by decide) rfl
  | negation areBlanks operand' reads =>
      cases tightens with
      | negation tightens =>
          rw [text, List.cons_append, List.append_assoc]
          exact isStuck_cons rfl (by decide) (readOperator_bang (head?_ne_equals areBlanks reads tightens other))
  | group =>
      cases tightens
      exact isStuck_cons rfl (by decide) rfl
  | call isFunction unary areBlanks =>
      cases tightens
      rw [text, List.append_assoc, List.append_assoc, List.cons_append]
      exact isStuck_function isFunction (gapStops areBlanks _)
  | test isFunction binary areBlanks =>
      cases tightens
      rw [text, List.append_assoc, List.append_assoc, List.cons_append]
      exact isStuck_function isFunction (gapStops areBlanks _)
  | operation => cases operand

theorem isOperand_of_reads (reads : right.Reads raw tail) (tightest : right.precedence = 0) : right.isOperand = true := by
  cases reads with
  | operation _ _ _ read =>
      have positive := Operator.precedence_pos (isInfix_of_readOperator read)
      exact absurd tightest (Nat.ne_of_gt positive)
  | _ => rfl

/-- No fragment of a path begins with the blanks in front of an operand, or with the operand. -/
theorem stopsAt_startsFragment_right (blanksAfter : AreBlanks after) (rightReads : right.Reads raw tail)
    (tightens : Tightens right right') : stopsAt startsFragment (after ++ (right'.text ++ other)) = true := by
  have outside {c : Char} (plain : c ∉ outsideOperands) : startsFragment c = false := by
    simp only [outsideOperands, List.mem_cons, List.not_mem_nil, or_false, not_or] at plain
    simp [startsFragment, plain]
  rcases rightReads.begins tightens with ⟨c, more, more', -, same, -, plain⟩
  refine stopsAt_of_areBlanks (fun d blank => outside fun mark => ?_) blanksAfter ?_
  · simp only [outsideOperands, List.mem_cons, List.not_mem_nil, or_false] at mark
    rcases mark with rfl | rfl | rfl | rfl <;> cases blank
  · rw [same, List.cons_append, stopsAt, outside plain]
    rfl

/-- What is left of the blanks around an operator makes no difference to its left operand, or makes reading fail. -/
theorem adjoins_left (written : operator.IsWritten name)
    (read : readOperator (name ++ (after ++ (right.text ++ tail))) =
      .ok (some (operator, after ++ (right.text ++ tail))))
    (blanksBefore : AreBlanks before) (blanksAfter : AreBlanks after) (leftTighter : left.precedence ≤ operator.precedence)
    (rightTighter : right.precedence < operator.precedence) (rightReads : right.Reads raw tail)
    (tightensRight : Tightens right right') (rightAdjoins : right.Adjoins tail other)
    (leavesBefore : before' = before ∨ (operator.isSymbol = true ∧ ¬NeedsBlank left operator right) ∧ before' = [])
    (leavesAfter : after' = after ∨ operator.isSymbol = true ∧ after' = []) :
    left.Adjoins (before ++ (name ++ (after ++ (right.text ++ tail))))
      (before' ++ (name ++ (after' ++ (right'.text ++ other)))) := by
  have again := @readOperator_again _ right right' operator name after after' tail other raw read written rightReads
    tightensRight leavesAfter
  constructor
  · rcases leavesBefore with rfl | ⟨⟨symbol, free⟩, rfl⟩
    · rcases readOperator_takes read with ⟨-, -, -, -, -, noPoint, -⟩
      refine .inl (.of_head? ?_ (stopsAt_point_of_areBlanks blanksBefore noPoint))
      rw [← List.append_assoc before', ← List.append_assoc before']
      exact head?_append_of_ne_nil (by simp [written.ne_nil]) _ _
    · have point : left.continues '.' = true := by
        rw [continues]
        split <;> rfl
      rcases exists_symbol symbol written with ⟨c, more, rfl, notLiteral, notOperand | ⟨rfl, rfl, rfl⟩⟩
      · refine .inl (.of_stopsAt point ?_)
        rw [continues]
        split
        · simp [stopsAt, notOperand]
        · simp [stopsAt, notLiteral]
      · by_cases path : left.endsInPath = true
        · have blanksAfter' := areBlanks_of_leaves blanksAfter leavesAfter
          have operand := isOperand_of_reads rightReads (Nat.lt_one_iff.1 rightTighter)
          have stuck : IsStuck (right'.text ++ other) := isStuck_right operand rightReads tightensRight rightAdjoins
            (fun minus => free ⟨rfl, path, .inl minus⟩) fun slash => free ⟨rfl, path, .inr slash⟩
          exact .inr ⟨path, after' ++ (right'.text ++ other), rfl,
            stopsAt_startsFragment_right blanksAfter' rightReads tightensRight, isStuck_blanks blanksAfter' stuck⟩
        · refine .inl (.of_stopsAt point ?_)
          rw [continues, if_neg path]
          rfl
  · intro tighter lt
    have blanksBefore' := areBlanks_of_leaves blanksBefore leavesBefore
    exact .inr ⟨operator, _, (readOperator_blanks blanksBefore' _).trans again, Nat.lt_of_lt_of_le lt leftTighter⟩

theorem readsAgain_operation (written : operator.IsWritten name) (blanksBefore' : AreBlanks before')
    (blanksAfter' : AreBlanks after') (again : readOperator (name ++ (after' ++ (right'.text ++ other))) =
      .ok (some (operator, after' ++ (right'.text ++ other))))
    (leftTighter : left.precedence ≤ operator.precedence) (rightTighter : right.precedence < operator.precedence)
    (takes : operator.Takes raw compiled) (leftPresent : left'.text ≠ [])
    (leftAgain : ReadsAgain left left' equation (before' ++ (name ++ (after' ++ (right'.text ++ other)))))
    (rightAgain : ReadsAgain right right' raw other) (ends : EndsEquation (operator.precedence - 1) other) :
    ReadsAgain (operation left before operator name after right) (operation left' before' operator name after' right')
      (.binary operator equation compiled) other where
  operand impossible := by cases impossible
  equation := by
    intro loosest least bound enough
    have positive := List.length_pos_iff.2 written.ne_nil
    have leftPositive := List.length_pos_iff.2 leftPresent
    rw [precedence] at bound
    simp only [text, List.length_append] at enough ⊢
    simp only [List.append_assoc]
    rcases leftAgain.equation (Nat.le_trans leftTighter bound) (by omega : _ ≤ least) with
      fails | ⟨others, consumed, read⟩
    · exact .inl fails
    · rcases Nat.exists_eq_add_of_le' (by omega : 3 ≤ others) with ⟨others, rfl⟩
      have operatorRead : readOperator (before' ++ (name ++ (after' ++ (right'.text ++ other)))) =
          .ok (some (operator, after' ++ (right'.text ++ other))) := by
        rw [readOperator_blanks blanksBefore', again]
      rw [read]
      rcases rightAgain.equation (Nat.le_sub_one_of_lt rightTighter) (by omega : _ ≤ others + 2) with
        fails | ⟨rightOthers, rightConsumed, rightRead⟩
      · rw [← readEquation_blanks blanksAfter'] at fails
        exact .inl (fails.operators operatorRead bound)
      · -- the operators behind the right operand are too loose for it
        rcases Nat.exists_eq_add_of_le' (by omega : 1 ≤ rightOthers) with ⟨rightOthers, rfl⟩
        rw [readOperators_of_endsEquation ends, ← readEquation_blanks blanksAfter'] at rightRead
        exact .inr ⟨others + 2, by omega, readOperators_step operatorRead bound rightRead takes⟩

end Operations

/-- A tightened layout is read as the same equation, or reading it fails. -/
theorem Reads.again {layout tighter : Layout} {equation : Equation} {tail other : List Char}
    (reads : layout.Reads equation tail) (tightens : Tightens layout tighter) (adjoins : layout.Adjoins tail other) :
    ReadsAgain layout tighter equation other := by
  induction reads generalizing tighter other with
  | literal notBlank plain read =>
      cases tightens
      exact readsAgain_literal notBlank plain read adjoins
  | path anchor read =>
      cases tightens
      exact readsAgain_path anchor read adjoins
  | @negation blanks tail argument equation areBlanks operand reads ih =>
      cases tightens with
      | negation tightens =>
          have inside : argument.Adjoins tail other := by
            refine ⟨adjoins.joins, fun looser lt => ?_⟩
            rw [precedence_of_isOperand operand] at lt
            cases lt
          exact readsAgain_negation areBlanks operand (head?_ne_equals areBlanks reads tightens other) (ih tightens inside)
  | group areBlanks areBlanks' _ ih =>
      cases tightens with
      | group tightens => exact readsAgain_group areBlanks areBlanks' (ih tightens (adjoins_closing areBlanks' (by decide)))
  | call isFunction unary areBlanks areBlanks' areBlanks'' _ ih =>
      cases tightens with
      | call tightens =>
          exact readsAgain_call isFunction unary areBlanks areBlanks' areBlanks''
            (ih tightens (adjoins_closing areBlanks'' (by decide)))
  | test isFunction binary areBlanks areBlanks' areBlanks'' blanksBefore blanksAfter _ _ takes firstIh secondIh =>
      cases tightens with
      | test tightensFirst tightensSecond =>
          exact readsAgain_test isFunction binary areBlanks areBlanks' areBlanks'' blanksBefore blanksAfter takes
            (firstIh tightensFirst (adjoins_closing blanksBefore (by decide)))
            (secondIh tightensSecond (adjoins_closing areBlanks'' (by decide)))
  | @operation left right before name after tail operator equation raw compiled written blanksBefore blanksAfter read
      leftTighter rightTighter leftReads rightReads takes leftIh rightIh =>
      cases tightens with
      | @operation _ _ left' right' _ _ _ _ before' after' tightensLeft tightensRight leavesBefore leavesAfter =>
          have tightest : operator.precedence - 1 < operator.precedence :=
            Nat.sub_one_lt_of_lt (Operator.precedence_pos (isInfix_of_readOperator read))
          have rightAdjoins : right.Adjoins tail other :=
            ⟨adjoins.joins, fun looser lt => adjoins.ends looser (Nat.lt_trans lt rightTighter)⟩
          have leftAdjoins : left.Adjoins _ (before' ++ (name ++ (after' ++ (right'.text ++ other)))) :=
            adjoins_left written read blanksBefore blanksAfter leftTighter rightTighter rightReads tightensRight
              rightAdjoins leavesBefore leavesAfter
          have leftPresent : left'.text ≠ [] := by
            rcases leftReads.begins tightensLeft with ⟨c, more, more', -, same, -⟩
            rw [same]
            exact List.cons_ne_nil _ _
          exact readsAgain_operation written (areBlanks_of_leaves blanksBefore leavesBefore)
            (areBlanks_of_leaves blanksAfter leavesAfter)
            (readOperator_again read written rightReads tightensRight leavesAfter) leftTighter rightTighter takes leftPresent
            (leftIh tightensLeft leftAdjoins) (rightIh tightensRight rightAdjoins) (adjoins.ends _ tightest)

/-! ## Whole texts -/

section Whole

variable {layout tighter : Layout} {opening closing : List Char} {equation : Equation} {text : List Char}

theorem readWholeScript_tightened (covers : layout.Covers opening closing equation text)
    (tightens : Tightens layout tighter) :
    (∃ fault, readWholeScript (opening ++ (tighter.text ++ closing)) = .error fault) ∨
      readWholeScript (opening ++ (tighter.text ++ closing)) = .ok equation.script := by
  have again := covers.reads.again tightens (adjoins_blanks covers.closes)
  have budget : readingBudget (opening ++ (tighter.text ++ closing)) =
      4 * (opening.length + (tighter.text.length + closing.length)) + 6 + 2 := by
    simp only [readingBudget, List.length_append]
  have blanksLeft : skipBlanks closing = [] := by
    have skipped := skipBlanks_append covers.closes []
    rw [List.append_nil] at skipped
    exact skipped
  rw [readWholeScript, budget, readEquation_blanks covers.opens]
  rcases again.equation layout.precedence_le_loosest
    (by omega : _ ≤ 4 * (opening.length + (tighter.text.length + closing.length)) + 6 + 2) with
    fails | ⟨others, bound, read⟩
  · left
    cases outcome : readEquation (4 * (opening.length + (tighter.text.length + closing.length)) + 6 + 2)
      Operator.loosest (tighter.text ++ closing) with
    | error fault => exact ⟨fault, rfl⟩
    | ok read =>
        rcases read with ⟨found, rest⟩
        rcases fails found rest outcome with ⟨-, c, more, opened, -⟩
        rw [ok_bind]
        simp only [opened]
        exact ⟨_, rfl⟩
  · right
    rcases Nat.exists_eq_add_of_le' (by omega : 1 ≤ others) with ⟨others, rfl⟩
    rw [read, readOperators_of_endsEquation (endsEquation_blanks covers.closes _), ok_bind]
    simp only [blanksLeft]

end Whole

end Layout

/-! ### A path and a negative number -/

/-- A path and a negative number with an operator between them, and a number of blanks on both sides of it. -/
def Layout.pathAndNumber (operator : Operator) (blanks : Nat) : Layout :=
  .operation (.path ['@', '.', 'a']) (List.replicate blanks ' ') operator operator.name.toList (List.replicate blanks ' ')
    (.literal ['-', '1'])

section Tightening

variable [RegexSyntax]

theorem covers_pathAndNumber {operator : Operator} (symbol : operator.isSymbol = true) :
    ∃ equation, (Layout.pathAndNumber operator 1).Covers [] [] equation (Layout.pathAndNumber operator 1).text := by
  have isInfix : operator.isInfix = true := (Bool.and_eq_true_iff.1 symbol).1
  have right : (Layout.literal ['-', '1']).Reads (.operand (.literal (.integer (-1)))) [] :=
    @Layout.Reads.literal _ '-' ['1'] [] _ 1 rfl (by decide) rfl
  have areBlanks : AreBlanks [' '] := by
    intro c member
    rw [List.mem_singleton.1 member]
    rfl
  have noBlanks : AreBlanks [] := fun _ member => nomatch member
  refine ⟨.binary operator (.operand (.path ⟨[.current, .child "a"]⟩)) (.operand (.literal (.integer (-1)))),
    ⟨noBlanks, noBlanks, (List.append_nil _).symm, ?_⟩⟩
  refine .operation (.inl rfl) areBlanks areBlanks (readOperator_symbol symbol (.inl rfl) rfl) (Nat.zero_le _)
    (Operator.precedence_pos isInfix) ?_ right ?_
  · exact @Layout.Reads.path _ '@' ['.', 'a'] _ _ 3 (.inl rfl) rfl
  · rw [Rendering.takes_iff_of_isInfix isInfix]
    intro start
    split <;> rfl

theorem exists_script {text printed : String} (prints : (Script.parse text).toOption.map Script.text = some printed) :
    ∃ script, Script.parse text = .ok script ∧ script.text = printed := by
  cases parsed : Script.parse text with
  | error error =>
      rw [parsed] at prints
      cases prints
  | ok script =>
      rw [parsed] at prints
      exact ⟨script, rfl, Option.some.inj prints⟩

/--
Blanks around operators that are no words make no difference to a script, unless it cannot be read without them. Every text
of a script has a layout, and whatever layout it has, leaving out such blanks leads to the same script or to an error. The
one blank that must stay is that between a path and an asterisk whose right operand begins with a minus or a slash.
-/
theorem parse_tightened {text : String} {script : Script} (accepted : Script.parse text = .ok script) :
    (∃ layout opening closing equation, Layout.Covers layout opening closing equation text.toList) ∧
      ∀ layout opening closing equation, Layout.Covers layout opening closing equation text.toList →
        ∀ tighter, Layout.Tightens layout tighter →
          (∃ error, Script.parse (String.ofList (opening ++ (tighter.text ++ closing))) = .error error) ∨
            Script.parse (String.ofList (opening ++ (tighter.text ++ closing))) = .ok script := by
  have read : readWholeScript text.toList = .ok script := mapError_eq_ok.1 accepted
  have parsed {tightened : List Char} : Script.parse (String.ofList tightened) =
      (readWholeScript tightened).mapError (SyntaxError.ofFault 0 tightened) := by
    rw [Script.parse, Script.parseFrom, String.toList_ofList, List.drop_zero]
  constructor
  · rcases exists_covers read with ⟨layout, opening, closing, equation, covers, -⟩
    exact ⟨layout, opening, closing, equation, covers⟩
  · intro layout opening closing equation covers tighter tightens
    have same : equation.script = script := by
      rcases Layout.readWholeScript_tightened covers (.refl layout) with ⟨fault, failed⟩ | again
      · rw [← covers.whole, read] at failed
        cases failed
      · rw [← covers.whole, read] at again
        exact (Except.ok.inj again).symm
    rw [parsed]
    rcases Layout.readWholeScript_tightened covers tightens with ⟨fault, failed⟩ | again
    · exact .inl ⟨_, by rw [failed]; rfl⟩
    · right
      rw [again, same]
      rfl

end Tightening

/-- Two minus signs in a row are an operator and the sign of a number. -/
theorem parse_tightened_difference : ∃ script, Script.parse "@.a - -1" = .ok script ∧
    Script.parse "@.a--1" = .ok script := by
  rcases exists_script (by decide +kernel : (Script.parse "@.a - -1").toOption.map Script.text = some "@.a - -1") with
    ⟨script, spaced, -⟩
  rcases exists_script (by decide +kernel : (Script.parse "@.a--1").toOption.map Script.text = some "@.a - -1") with
    ⟨other, tight, -⟩
  rcases @covers_pathAndNumber _ .subtract rfl with ⟨equation, covers⟩
  have tightens : Layout.Tightens (.pathAndNumber .subtract 1) (.pathAndNumber .subtract 0) :=
    .operation (.path _) (.literal _) (.inr ⟨⟨rfl, fun needed => nomatch needed.1⟩, rfl⟩) (.inr ⟨rfl, rfl⟩)
  have written : String.ofList ([] ++ ((Layout.pathAndNumber .subtract 0).text ++ [])) = "@.a--1" := rfl
  have outcome := (parse_tightened spaced).2 _ [] [] equation covers _ tightens
  rw [written] at outcome
  rcases outcome with ⟨error, failed⟩ | same
  · rw [tight] at failed
    cases failed
  · exact ⟨script, spaced, same⟩

/--
Without blanks the asterisk of a product belongs to the path in front of it, and a minus sign behind it is the operator: the
blank in front of an asterisk cannot always be left out.
-/
theorem parse_asterisk_minus : (∃ equation, (Layout.pathAndNumber .multiply 1).Covers [] [] equation "@.a * -1".toList) ∧
    (Layout.pathAndNumber .multiply 0).text = "@.a*-1".toList ∧
    ∃ spaced tight, Script.parse "@.a * -1" = .ok spaced ∧ Script.parse "@.a*-1" = .ok tight ∧ spaced ≠ tight := by
  rcases exists_script (by decide +kernel : (Script.parse "@.a * -1").toOption.map Script.text = some "@.a * -1") with
    ⟨spaced, parsed, printed⟩
  rcases exists_script (by decide +kernel : (Script.parse "@.a*-1").toOption.map Script.text = some "@.a.* - 1") with
    ⟨tight, parsedTight, printedTight⟩
  refine ⟨covers_pathAndNumber rfl, rfl, spaced, tight, parsed, parsedTight, ?_⟩
  rintro rfl
  rw [printed] at printedTight
  exact absurd printedTight (by decide)

end TreePath

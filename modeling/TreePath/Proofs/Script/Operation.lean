import TreePath.Proofs.Script.Reading

/-!
# Operators are read back with their operands

Negations, calls and infix expressions are read back if their operands are. An infix expression stands in parentheses
as an operand, and on its own it ends where nothing of the kind of an operator follows. A right operand that is compiled
is read as the literal that it is compiled from.
-/

namespace TreePath

/-! ## Operators -/

theorem Operator.precedence_pos {operator : Operator} (isInfix : operator.isInfix = true) :
    0 < operator.precedence := by
  cases operator <;> first | exact Nat.succ_pos _ | cases isInfix

/-- Where an expression ends that another one follows. -/
theorem endsIn_cons {marks : List Char} {c : Char} (mark : c ∈ marks) (rest : List Char) :
    endsIn marks (c :: rest) = true :=
  List.contains_iff_mem.2 mark

theorem Rendering.readOperator_word {operator : Operator} {c : Char} {more : List Char}
    (characters : operator.name.toList = c :: more) (letter : isLetter c = true)
    (plain : isBlank c = false ∧ isDigit c = false)
    (inside : operator.name.toList.all isWordPart = true)
    (means : Operator.word? operator.name = some operator) (rest : List Char) :
    readOperator (' ' :: (operator.name.toList ++ ' ' :: rest)) = .ok (some (operator, ' ' :: rest)) := by
  have parts : splitWord (operator.name.toList ++ ' ' :: rest) = (operator.name.toList, ' ' :: rest) :=
    splitWord_append (List.all_eq_true.1 inside) rfl
  have spelling : String.ofList (c :: more) = operator.name := by
    rw [← characters, String.ofList_toList]
  rw [characters, List.cons_append] at *
  rw [readOperator, skipBlanks_blank, skipBlanks_cons plain.1]
  simp only [letter, Bool.or_true, if_true]
  rw [readToken, skipBlanks_cons plain.1]
  simp only [plain.2, letter, Bool.true_or, if_true, parts, ok_bind, Token.operator?, spelling, means,
    Bool.false_eq_true, if_false, Option.map_some]

/-- Between its operands an infix operator is read back from its name. -/
theorem Rendering.readOperator_name {operator : Operator} (isInfix : operator.isInfix = true) (rest : List Char) :
    readOperator (' ' :: (operator.name.toList ++ ' ' :: rest)) = .ok (some (operator, ' ' :: rest)) := by
  cases operator with
  | memberOf | emptiness | presence | existence =>
      exact readOperator_word rfl rfl ⟨rfl, rfl⟩ (by decide) rfl rest
  | not | get | length | count | matchWhole | search => cases isInfix
  | _ => rfl

variable [RegexSyntax]

/-- Reading a right operand yields `raw`, of which the operator makes `right`. -/
def Operator.Takes (operator : Operator) (raw right : Equation) : Prop :=
  ∀ start : List Char,
    (if operator.compiles = true then compileLiteral (decide (operator = .matchWhole)) start raw else .ok raw) =
      .ok right

theorem readEquation_blank (budget loosest : Nat) (text : List Char) :
    readEquation (budget + 2) loosest (' ' :: text) = readEquation (budget + 2) loosest text := by
  rw [readEquation, readEquation, readOperand_blank]

namespace Rendering

variable {argument left right : Rendering} {argumentEquation leftEquation raw compiled : Equation}
variable {budget : Nat} {rest : List Char}

/-! ## Negations and groups -/

/-- No operand begins with an equals sign, which would make an inequality of the negation. -/
theorem head?_ne_of_reads (reads : argument.Reads argumentEquation) (rest : List Char) :
    (argument.nested ++ rest).head? ≠ some '=' := by
  have positive := length_pos_of_reads reads.nested
  cases text : argument.nested with
  | nil =>
      rw [text] at positive
      cases positive
  | cons c more =>
      intro equals
      obtain rfl : c = '=' := by simpa using equals
      have read : readOperand (4 * argument.nested.length + 1) (argument.nested ++ []) = _ :=
        reads.nested (Nat.le_succ _) rfl
      rw [text, List.cons_append, readOperand_unmarked rfl (by decide)] at read
      cases read

theorem reads_not (reads : argument.Reads argumentEquation) :
    (same ('!' :: argument.nested)).Reads (.unary .not argumentEquation) := by
  apply reads_same
  intro budget rest enough ends
  have distinct := head?_ne_of_reads reads rest
  rw [List.length_cons] at enough
  cases budget with
  | zero => omega
  | succ budget =>
      rw [List.cons_append, readOperand, skipBlanks_cons rfl]
      simp only
      rw [if_neg (by decide), if_neg (by decide), if_neg (by decide), if_neg (by decide),
        if_pos ⟨trivial, distinct⟩, reads.nested (by omega) ends]
      rfl

theorem readOperand_group {text : List Char} {equation : Equation}
    (read : readEquation budget Operator.loosest (text ++ ')' :: rest) = .ok (equation, ')' :: rest)) :
    readOperand (budget + 1) ('(' :: text ++ [')'] ++ rest) = .ok (equation, rest) := by
  rw [List.cons_append, List.cons_append, List.append_assoc, List.singleton_append, readOperand,
    skipBlanks_cons rfl]
  simp only
  rw [if_neg (by decide), if_neg (by decide), if_neg (by decide), if_pos trivial, read]
  rfl

/-- A text in parentheses is an operand if it is an equation on its own. -/
theorem reads_group {text : List Char} {equation : Equation}
    (alone : ∀ {budget : Nat} {rest : List Char}, 4 * text.length + 1 ≤ budget →
      endsIn equationEnds rest = true → readEquation budget Operator.loosest (text ++ rest) = .ok (equation, rest))
    (enough : 4 * ('(' :: text ++ [')']).length ≤ budget) :
    readOperand budget ('(' :: text ++ [')'] ++ rest) = .ok (equation, rest) := by
  simp only [List.length_append, List.length_cons, List.length_nil] at enough
  rcases Nat.exists_eq_add_of_le' (Nat.le_trans (by omega : 1 ≤ _) enough) with ⟨least, rfl⟩
  apply readOperand_group
  exact alone (by omega) (endsIn_cons (by decide) rest)

/-! ## Infix expressions -/

/-- The right operand is what the operator makes of the one that was read. Only a search makes something else of it. -/
theorem takes_iff_of_isInfix {operator : Operator} (isInfix : operator.isInfix = true) : operator.Takes raw compiled ↔
    ∀ start, (if operator = .finds then compileLiteral false start raw else .ok raw) = .ok compiled := by
  cases operator <;> first | exact Iff.rfl | cases isInfix

/-- A function of two arguments compiles the second one. -/
theorem takes_iff_of_function {function : Operator} (isFunction : function.isFunction = true) (binary : ¬function.arity = 1) :
    function.Takes raw compiled ↔
      ∀ start, compileLiteral (decide (function = .matchWhole)) start raw = .ok compiled := by
  cases function <;> first | exact Iff.rfl | exact absurd rfl binary | cases isFunction

theorem readOperators_infix {operator : Operator} (isInfix : operator.isInfix = true)
    (rightReads : right.Reads raw) (takes : operator.Takes raw compiled)
    (enough : 4 * right.nested.length + 2 ≤ budget) (ends : endsIn equationEnds rest = true) :
    readOperators (budget + 1) Operator.loosest leftEquation
        (' ' :: (operator.name.toList ++ ' ' :: (right.nested ++ rest))) =
      .ok (.binary operator leftEquation compiled, rest) := by
  have tight : ¬Operator.loosest < operator.precedence := Nat.not_lt.2 operator.precedence_le_loosest
  rcases Nat.exists_eq_add_of_le' (Nat.le_trans (Nat.le_add_left 2 _) enough) with ⟨least, rfl⟩
  have rightRead : readEquation (least + 2) (operator.precedence - 1) (right.nested ++ rest) = .ok (raw, rest) :=
    readEquation_nested rightReads.nested (by omega) _ ends
  have taken := (takes_iff_of_isInfix isInfix).1 takes
    (' ' :: (operator.name.toList ++ ' ' :: (right.nested ++ rest)))
  have finished := readOperators_of_endsIn (Nat.succ_pos (least + 1)) Operator.loosest
    (.binary operator leftEquation compiled) ends
  rw [readOperators, readOperator_name isInfix, ok_bind]
  simp only
  rw [if_neg tight, readEquation_blank, rightRead, ok_bind]
  simp only
  split at taken
  · rename_i finds
    rw [if_pos finds, taken]
    exact finished
  · rename_i other
    rw [if_neg other, taken]
    exact finished

/-- An infix expression is read back on its own, and in parentheses as an operand. -/
theorem reads_infix {operator : Operator} (isInfix : operator.isInfix = true)
    (leftReads : left.Reads leftEquation) (rightReads : right.Reads raw) (takes : operator.Takes raw compiled) :
    Rendering.Reads
      ⟨left.nested ++ ' ' :: operator.name.toList ++ ' ' :: right.nested,
        '(' :: (left.nested ++ ' ' :: operator.name.toList ++ ' ' :: right.nested) ++ [')']⟩
      (.binary operator leftEquation compiled) := by
  have alone : ∀ {budget : Nat} {rest : List Char},
      4 * (left.nested ++ ' ' :: operator.name.toList ++ ' ' :: right.nested).length + 1 ≤ budget →
      endsIn equationEnds rest = true →
      readEquation budget Operator.loosest
          (left.nested ++ ' ' :: operator.name.toList ++ ' ' :: right.nested ++ rest) =
        .ok (.binary operator leftEquation compiled, rest) := by
    intro budget rest enough ends
    simp only [List.length_append, List.length_cons] at enough
    rcases Nat.exists_eq_add_of_le' (Nat.le_trans (by omega : 2 ≤ _) enough) with ⟨least, rfl⟩
    have leftRead : readOperand (least + 1)
        (left.nested ++ ' ' :: (operator.name.toList ++ ' ' :: (right.nested ++ rest))) =
        .ok (leftEquation, ' ' :: (operator.name.toList ++ ' ' :: (right.nested ++ rest))) :=
      leftReads.nested (by omega) (endsIn_cons (by decide) _)
    simp only [List.append_assoc, List.cons_append]
    rw [readEquation, leftRead, ok_bind]
    exact readOperators_infix isInfix rightReads takes (by omega) ends
  exact ⟨fun enough _ => reads_group alone enough, alone⟩

/-! ## Calls -/

/-- The name of a function ends in front of anything that cannot continue a word. -/
theorem readOperand_function {function : Operator} (isFunction : function.isFunction = true)
    (stops : stopsAt isWordPart rest = true) :
    readOperand (budget + 1) (function.name.toList ++ rest) =
      readCall budget function (function.name.toList ++ rest) rest := by
  have inside : function.name.toList.all isWordPart = true := by
    cases function <;> first | decide | cases isFunction
  have meanings : wordOperand? function.name = none ∧ Operator.function? function.name = some function := by
    cases function <;> first | exact ⟨rfl, rfl⟩ | cases isFunction
  have parts : splitWord (function.name.toList ++ rest) = (function.name.toList, rest) :=
    splitWord_append (List.all_eq_true.1 inside) stops
  have begins : ∃ c more, function.name.toList = c :: more ∧ isBlank c = false ∧ c ∉ operandMarks ∧
      isLetter c = true ∧ ∀ text, startsNumeric (c :: text) = false := by
    cases function <;>
      first | exact ⟨_, _, rfl, rfl, by decide, rfl, fun _ => rfl⟩ | cases isFunction
  rcases begins with ⟨c, more, characters, notBlank, unmarked, letter, notNumeric⟩
  have spelling : String.ofList (c :: more) = function.name := by
    rw [← characters, String.ofList_toList]
  rw [characters, List.cons_append] at parts ⊢
  rw [readOperand_unmarked notBlank unmarked, notNumeric, parts, if_neg (by simp), if_pos letter]
  simp only [spelling, meanings.1, meanings.2]

theorem reads_call {function : Operator} (isFunction : function.isFunction = true) (unary : function.arity = 1)
    (reads : argument.Reads argumentEquation) :
    (same (function.name.toList ++ '(' :: argument.alone ++ [')'])).Reads (.unary function argumentEquation) := by
  apply reads_same
  intro budget rest enough ends
  simp only [List.length_append, List.length_cons, List.length_nil] at enough
  rcases Nat.exists_eq_add_of_le' (Nat.le_trans (by omega : 2 ≤ _) enough) with ⟨least, rfl⟩
  have read : readEquation least Operator.loosest (argument.alone ++ ')' :: rest) =
      .ok (argumentEquation, ')' :: rest) := reads.alone (by omega) (endsIn_cons (by decide) rest)
  simp only [List.append_assoc, List.cons_append, List.nil_append]
  rw [readOperand_function isFunction rfl, readCall, show expectChar '(' ('(' :: _) = .ok _ from rfl, ok_bind,
    read, ok_bind]
  simp only
  rw [if_pos unary]
  rfl

theorem reads_test {function : Operator} (isFunction : function.isFunction = true) (binary : function.arity = 2)
    (leftReads : left.Reads leftEquation) (rightReads : right.Reads raw) (takes : function.Takes raw compiled) :
    (same (function.name.toList ++ '(' :: left.alone ++ ',' :: ' ' :: right.alone ++ [')'])).Reads
      (.binary function leftEquation compiled) := by
  apply reads_same
  intro budget rest enough ends
  have compiles : function.compiles = true := by
    cases function <;> first | rfl | exact absurd binary (by decide) | cases isFunction
  simp only [List.length_append, List.length_cons, List.length_nil] at enough
  rcases Nat.exists_eq_add_of_le' (Nat.le_trans (by omega : 4 ≤ _) enough) with ⟨least, rfl⟩
  have leftRead : readEquation (least + 2) Operator.loosest
      (left.alone ++ ',' :: ' ' :: (right.alone ++ ')' :: rest)) =
      .ok (leftEquation, ',' :: ' ' :: (right.alone ++ ')' :: rest)) :=
    leftReads.alone (by omega) (endsIn_cons (by decide) _)
  have rightRead : readEquation (least + 2) Operator.loosest (right.alone ++ ')' :: rest) =
      .ok (raw, ')' :: rest) := rightReads.alone (by omega) (endsIn_cons (by decide) rest)
  have taken := takes (function.name.toList ++ '(' :: (left.alone ++ ',' :: ' ' :: (right.alone ++ ')' :: rest)))
  rw [if_pos compiles] at taken
  have notUnary : ¬function.arity = 1 := by
    rw [binary]
    decide
  simp only [List.append_assoc, List.cons_append, List.nil_append]
  rw [readOperand_function isFunction rfl, readCall, show expectChar '(' ('(' :: _) = .ok _ from rfl, ok_bind,
    leftRead, ok_bind]
  simp only
  rw [if_neg notUnary, show expectChar ',' (',' :: _) = .ok _ from rfl, ok_bind, readEquation_blank,
    rightRead, ok_bind]
  simp only
  rw [show expectChar ')' (')' :: rest) = .ok rest from rfl, ok_bind, taken]
  rfl

end Rendering

end TreePath

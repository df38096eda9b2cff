import TreePath.Proofs.Script.Operation
import TreePath.Proofs.Script.Steady
import TreePath.Regex.Standard

/-!
# Precedence climbing

Operands with infix operators between them are read as the one tree with these operands and operators in which no
operator stands below one that binds more tightly, and operators of equal precedence group to the left. The tree exists and
is unique because it is built from its own reading: each operator with its right operand is attached to the right edge of
what stands before it. That the climbing reader finds it is proved along the tree. What the reader does after a subtree
is again to read operators, from the same place and with a budget that is smaller by no more than the subtree is long.
-/

namespace TreePath

/-! ## Operators between operands -/

/-- An infix operator with the spaces around it. -/
structure OperatorText where
  operator : Operator
  isInfix : operator.isInfix = true
  name : List Char
  spelled : name = operator.name.toList ∨ operator = .finds ∧ name = ['~', '=']
  before : Nat
  after : Nat
  spacedBefore : 0 < before
  spacedAfter : 0 < after

def OperatorText.text (operator : OperatorText) : List Char :=
  List.replicate operator.before ' ' ++ operator.name ++ List.replicate operator.after ' '

/-- How tightly the operator binds. -/
def OperatorText.precedence (operator : OperatorText) : Nat :=
  operator.operator.precedence

theorem OperatorText.precedence_pos (operator : OperatorText) : 0 < operator.precedence :=
  Operator.precedence_pos operator.isInfix

theorem areBlanks_replicate (count : Nat) : AreBlanks (List.replicate count ' ') := by
  intro c member
  rw [List.eq_of_mem_replicate member]
  rfl

/-- Between its operands an operator is read up to the last space in front of it. -/
theorem OperatorText.readOperator (operator : OperatorText) (rest : List Char) :
    readOperator (operator.text ++ rest) =
      .ok (some (operator.operator, List.replicate operator.after ' ' ++ rest)) := by
  rcases Nat.exists_eq_add_of_le' operator.spacedBefore with ⟨before, sameBefore⟩
  rcases Nat.exists_eq_add_of_le' operator.spacedAfter with ⟨after, sameAfter⟩
  have shape : operator.text ++ rest =
      List.replicate before ' ' ++ (' ' :: (operator.name ++ ' ' :: (List.replicate after ' ' ++ rest))) := by
    rw [text, sameBefore, sameAfter, List.replicate_succ', List.replicate_succ]
    simp
  rw [shape, readOperator_blanks (areBlanks_replicate before), sameAfter, List.replicate_succ, List.cons_append]
  rcases operator.spelled with same | ⟨finds, same⟩
  · rw [same]
    exact Rendering.readOperator_name operator.isInfix _
  · rw [same, finds]
    rfl

/-- The space in front of an operator does not continue an operand. -/
theorem OperatorText.stopsAt_continuesOperand (operator : OperatorText) (more : List Char) :
    stopsAt continuesOperand (operator.text ++ more) = true := by
  rcases Nat.exists_eq_succ_of_ne_zero (Nat.ne_of_gt operator.spacedBefore) with ⟨others, same⟩
  rw [text, same]
  rfl

/-- Whether a text ends, or goes on with an operator that binds no more tightly than a precedence. -/
def Follows (precedence : Nat) (rest : List Char) : Prop :=
  rest = [] ∨ ∃ (operator : OperatorText) (more : List Char),
    rest = operator.text ++ more ∧ precedence ≤ operator.precedence

theorem Follows.of_le {precedence tighter : Nat} {rest : List Char} (follows : Follows precedence rest) (le : tighter ≤ precedence) :
    Follows tighter rest := by
  rcases follows with rfl | ⟨operator, more, rfl, bound⟩
  · exact .inl rfl
  · exact .inr ⟨operator, more, rfl, Nat.le_trans le bound⟩

theorem Follows.stopsAt_continuesOperand {precedence : Nat} {rest : List Char} (follows : Follows precedence rest) :
    stopsAt continuesOperand rest = true := by
  rcases follows with rfl | ⟨operator, more, rfl, -⟩
  · rfl
  · exact operator.stopsAt_continuesOperand more

/-! ## Chains of operands -/

section Chains

variable [RegexSyntax]

/-- A text that is read as an operand as a whole. -/
structure OperandText where
  text : List Char
  equation : Equation
  accepted : ∃ budget, readOperand budget text = .ok (equation, [])

/-- The text of an operand and of further operands, each after an operator. -/
def chainText (first : OperandText) (links : List (OperatorText × OperandText)) : List Char :=
  first.text ++ links.flatMap fun (operator, operand) => operator.text ++ operand.text

/-! ## Trees -/

/-- What searching for a right operand makes of it: a literal text is compiled to a pattern. -/
def Equation.searched? : Equation → Option Equation
  | .operand (.literal (.string source)) =>
    (Pattern.ofSource? source false false).map fun pattern => .operand (.pattern pattern)
  | other => some other

/-- What an infix operator makes of its right operand. -/
def Operator.rightOperand? (operator : Operator) (right : Equation) : Option Equation :=
  if operator = .finds then right.searched? else some right

/-- Operands under infix operators. -/
inductive OperatorTree where
  | operand (leaf : OperandText)
  | node (operator : OperatorText) (left right : OperatorTree)

theorem ofSource?_eq_none {source : String} {anchored slashed : Bool} :
    Pattern.ofSource? source anchored slashed = none ↔ Pattern.compile? source anchored = none := by
  unfold Pattern.ofSource?
  split
  · rename_i compiled
    simp [compiled]
  · rename_i failed
    simp [failed]

theorem searched?_eq_none {equation : Equation} : equation.searched? = none ↔
    ∃ source, equation = .operand (.literal (.string source)) ∧ Pattern.compile? source false = none := by
  constructor
  · intro fails
    unfold Equation.searched? at fails
    split at fails
    · rename_i source
      exact ⟨source, rfl, ofSource?_eq_none.1 (Option.map_eq_none_iff.1 fails)⟩
    · cases fails
  · rintro ⟨source, rfl, invalid⟩
    exact Option.map_eq_none_iff.2 (ofSource?_eq_none.2 invalid)

namespace OperatorTree

/-- The first operand, read from left to right. -/
def first : OperatorTree → OperandText
  | operand leaf => leaf
  | node _ left _ => left.first

/-- The operators with the operands after them, read from left to right. -/
def links : OperatorTree → List (OperatorText × OperandText)
  | operand _ => []
  | node operator left right => left.links ++ (operator, right.first) :: right.links

/-- How tightly the operator at the root binds. An operand binds more tightly than every operator. -/
def precedence : OperatorTree → Nat
  | operand _ => 0
  | node operator _ _ => operator.precedence

/-- Whether operators that bind more tightly stand deeper, and those that bind equally group to the left. -/
def IsPrescribed : OperatorTree → Prop
  | operand _ => True
  | node operator left right =>
    left.precedence ≤ operator.precedence ∧ right.precedence < operator.precedence ∧ left.IsPrescribed ∧
      right.IsPrescribed

def text : OperatorTree → List Char
  | operand leaf => leaf.text
  | node operator left right => left.text ++ operator.text ++ right.text

theorem text_eq (tree : OperatorTree) : tree.text = chainText tree.first tree.links := by
  induction tree with
  | operand leaf => simp [text, first, links, chainText]
  | node operator left right leftText rightText => simp [text, first, links, leftText, rightText, chainText]

/-! ### The tree of a chain -/

/-- The tree with one more operator and operand behind it. -/
def attach : OperatorTree → OperatorText × OperandText → OperatorTree
  | operand leaf, link => node link.1 (operand leaf) (operand link.2)
  | node operator left right, link =>
    if operator.precedence ≤ link.1.precedence then node link.1 (node operator left right) (operand link.2)
    else node operator left (right.attach link)

theorem attach_of_precedence_le {tree : OperatorTree} {link : OperatorText × OperandText}
    (looser : tree.precedence ≤ link.1.precedence) : tree.attach link = node link.1 tree (operand link.2) := by
  cases tree with
  | operand leaf => rfl
  | node operator left right =>
      rw [attach]
      exact if_pos looser

theorem first_attach (tree : OperatorTree) (link : OperatorText × OperandText) :
    (tree.attach link).first = tree.first := by
  cases tree with
  | operand leaf => rfl
  | node operator left right =>
      rw [attach]
      split <;> rfl

theorem links_attach (tree : OperatorTree) (link : OperatorText × OperandText) :
    (tree.attach link).links = tree.links ++ [link] := by
  induction tree with
  | operand leaf => rfl
  | node operator left right _ ih =>
      rw [attach]
      split
      · rfl
      · simp [links, ih, first_attach]

/-- The root of the tree is the operator at the root before or the one that was attached. -/
theorem precedence_attach (tree : OperatorTree) (link : OperatorText × OperandText) :
    (tree.attach link).precedence = max tree.precedence link.1.precedence := by
  cases tree with
  | operand leaf => exact (Nat.max_eq_right (Nat.zero_le _)).symm
  | node operator left right =>
      rw [attach]
      split
      · rename_i looser
        exact (Nat.max_eq_right looser).symm
      · rename_i tighter
        exact (Nat.max_eq_left (Nat.le_of_not_le tighter)).symm

theorem isPrescribed_attach {tree : OperatorTree} (prescribed : tree.IsPrescribed)
    (link : OperatorText × OperandText) : (tree.attach link).IsPrescribed := by
  induction tree with
  | operand leaf => exact ⟨Nat.zero_le _, link.1.precedence_pos, trivial, trivial⟩
  | node operator left right _ ih =>
      rw [attach]
      split
      · rename_i looser
        exact ⟨looser, link.1.precedence_pos, prescribed, trivial⟩
      · rename_i tighter
        refine ⟨prescribed.1, ?_, prescribed.2.2.1, ih prescribed.2.2.2⟩
        rw [precedence_attach]
        exact Nat.max_lt.2 ⟨prescribed.2.1, Nat.lt_of_not_le tighter⟩

/-- The tree that a chain is read as. -/
def ofChain (first : OperandText) (links : List (OperatorText × OperandText)) : OperatorTree :=
  links.foldl attach (operand first)

theorem foldl_attach {tree : OperatorTree} (prescribed : tree.IsPrescribed)
    (links : List (OperatorText × OperandText)) :
    (links.foldl attach tree).IsPrescribed ∧ (links.foldl attach tree).first = tree.first ∧
      (links.foldl attach tree).links = tree.links ++ links := by
  induction links generalizing tree with
  | nil => exact ⟨prescribed, rfl, (List.append_nil _).symm⟩
  | cons link links ih =>
      rcases ih (isPrescribed_attach prescribed link) with ⟨isPrescribed, sameFirst, sameLinks⟩
      refine ⟨isPrescribed, ?_, ?_⟩
      · rw [List.foldl_cons, sameFirst, first_attach]
      · rw [List.foldl_cons, sameLinks, links_attach, List.append_assoc, List.singleton_append]

/-- No operator binds more loosely than the one at the root. -/
theorem precedence_le_of_mem_links {tree : OperatorTree} (prescribed : tree.IsPrescribed)
    {link : OperatorText × OperandText} (member : link ∈ tree.links) : link.1.precedence ≤ tree.precedence := by
  induction tree with
  | operand leaf => cases member
  | node operator left right leftBound rightBound =>
      rcases prescribed with ⟨leftTighter, rightTighter, leftPrescribed, rightPrescribed⟩
      rw [links, List.mem_append, List.mem_cons] at member
      rcases member with inLeft | rfl | inRight
      · exact Nat.le_trans (leftBound leftPrescribed inLeft) leftTighter
      · exact Nat.le_refl _
      · exact Nat.le_trans (rightBound rightPrescribed inRight) (Nat.le_of_lt rightTighter)

/-- Operators that bind more tightly than the root are attached to its right operand. -/
theorem foldl_attach_node (operator : OperatorText) (left right : OperatorTree)
    {links : List (OperatorText × OperandText)} (tighter : ∀ link ∈ links, link.1.precedence < operator.precedence) :
    links.foldl attach (node operator left right) = node operator left (links.foldl attach right) := by
  induction links generalizing right with
  | nil => rfl
  | cons link links ih =>
      have notLooser := Nat.not_le_of_lt (tighter link List.mem_cons_self)
      rw [List.foldl_cons, List.foldl_cons, attach, if_neg notLooser]
      exact ih _ fun other member => tighter other (List.mem_cons_of_mem _ member)

/-- A prescribed tree is built from its own reading. -/
theorem ofChain_first_links {tree : OperatorTree} (prescribed : tree.IsPrescribed) :
    ofChain tree.first tree.links = tree := by
  induction tree with
  | operand leaf => rfl
  | node operator left right leftSame rightSame =>
      rcases prescribed with ⟨leftTighter, rightTighter, leftPrescribed, rightPrescribed⟩
      have tighter : ∀ link ∈ right.links, link.1.precedence < operator.precedence :=
        fun link member => Nat.lt_of_le_of_lt (precedence_le_of_mem_links rightPrescribed member) rightTighter
      calc ofChain (node operator left right).first (node operator left right).links
          = right.links.foldl attach ((ofChain left.first left.links).attach (operator, right.first)) := by
            rw [ofChain, first, links, List.foldl_append, List.foldl_cons, ← ofChain]
        _ = right.links.foldl attach (node operator left (operand right.first)) := by
            rw [leftSame leftPrescribed, attach_of_precedence_le leftTighter]
        _ = node operator left (ofChain right.first right.links) := foldl_attach_node operator left _ tighter
        _ = node operator left right := by rw [rightSame rightPrescribed]

/-- A chain has one prescribed tree. -/
theorem isPrescribed_and_reads_iff {tree : OperatorTree} {operand : OperandText}
    {others : List (OperatorText × OperandText)} :
    tree.IsPrescribed ∧ tree.first = operand ∧ tree.links = others ↔ tree = ofChain operand others := by
  constructor
  · rintro ⟨prescribed, rfl, rfl⟩
    exact (ofChain_first_links prescribed).symm
  · rintro rfl
    exact @foldl_attach _ (.operand operand) trivial others

/-! ### Equations of trees -/

/-- The equation of a tree, in which the literals that are searched for are compiled. -/
def equation? : OperatorTree → Option Equation
  | operand leaf => some leaf.equation
  | node operator left right =>
    left.equation?.bind fun left => right.equation?.bind fun right =>
      (operator.operator.rightOperand? right).map (.binary operator.operator left)

/-- Whether the right operand of a search is a literal text that is no regular expression. -/
def HasInvalidPattern : OperatorTree → Prop
  | operand _ => False
  | node operator left right =>
    left.HasInvalidPattern ∨ right.HasInvalidPattern ∨
      operator.operator = .finds ∧ ∃ leaf source, right = operand leaf ∧
        leaf.equation = .operand (.literal (.string source)) ∧ Pattern.compile? source false = none

/-- Only an operand is a literal. -/
theorem eq_operand_of_equation? {tree : OperatorTree} {leaf : Operand}
    (made : tree.equation? = some (.operand leaf)) : ∃ operand, tree = .operand operand ∧ operand.equation = .operand leaf := by
  cases tree with
  | operand operand => exact ⟨operand, rfl, Option.some.inj made⟩
  | node operator left right =>
      rw [equation?] at made
      rcases Option.bind_eq_some_iff.1 made with ⟨first, -, made⟩
      rcases Option.bind_eq_some_iff.1 made with ⟨second, -, made⟩
      rcases Option.map_eq_some_iff.1 made with ⟨compiled, -, same⟩
      cases same

theorem equation?_eq_none {tree : OperatorTree} : tree.equation? = none ↔ tree.HasInvalidPattern := by
  induction tree with
  | operand leaf => simp [equation?, HasInvalidPattern]
  | node operator left right leftFails rightFails =>
      rw [equation?, HasInvalidPattern, ← leftFails, ← rightFails]
      cases leftMade : left.equation? with
      | none => simp
      | some first =>
          cases rightMade : right.equation? with
          | none => simp
          | some second =>
              simp only [Option.bind_some, Option.map_eq_none_iff, reduceCtorEq, false_or]
              rw [Operator.rightOperand?]
              constructor
              · intro fails
                split at fails
                · rename_i finds
                  rcases searched?_eq_none.1 fails with ⟨source, rfl, invalid⟩
                  rcases eq_operand_of_equation? rightMade with ⟨leaf, same, literal⟩
                  exact ⟨finds, leaf, source, same, literal, invalid⟩
                · cases fails
              · rintro ⟨finds, leaf, source, rfl, literal, invalid⟩
                rcases Option.some.inj rightMade with rfl
                rw [if_pos finds]
                exact searched?_eq_none.2 ⟨source, literal, invalid⟩

/-- A pattern that was read as an operand is compiled already. -/
theorem ofSource?_of_accepted {leaf : OperandText} {pattern : Pattern}
    (isPattern : leaf.equation = .operand (.pattern pattern)) :
    Pattern.ofSource? pattern.source false pattern.slashed = some pattern := by
  rcases leaf.accepted with ⟨budget, read⟩
  rcases (legible budget).operand read with ⟨formula, readable, same⟩
  rw [isPattern] at same
  cases formula with
  | pattern compiled =>
      rcases Operand.pattern.inj (Equation.operand.inj same) with rfl
      rw [Formula.IsReadable] at readable
      exact Pattern.ofSource?_eq_some.2 ⟨rfl, readable.2.anchored_eq, rfl⟩
  | _ => cases same

/-- What a search makes of the right operand that was read. -/
theorem compileLiteral_of_equation? {tree : OperatorTree} {equation : Equation}
    (made : tree.equation? = some equation) (start : List Char) :
    compileLiteral false start equation =
      match equation.searched? with
      | some compiled => .ok compiled
      | none => .error (Fault.here .invalidPattern start) := by
  cases equation with
  | operand operand =>
      cases operand with
      | pattern pattern =>
          rcases eq_operand_of_equation? made with ⟨leaf, rfl, isPattern⟩
          simp only [compileLiteral, ofSource?_of_accepted isPattern, Equation.searched?]
      | literal value =>
          cases value with
          | string source =>
              cases found : Pattern.ofSource? source false false <;> simp [compileLiteral, Equation.searched?, found]
          | _ => rfl
      | _ => rfl
  | _ => rfl

theorem rightOperand_eq {tree : OperatorTree} {operator : Operator} {equation : Equation}
    (made : tree.equation? = some equation) (start : List Char) :
    (if operator = .finds then compileLiteral false start equation else .ok equation) =
      match operator.rightOperand? equation with
      | some right => .ok right
      | none => .error (Fault.here .invalidPattern start) := by
  rw [Operator.rightOperand?]
  split
  · exact compileLiteral_of_equation? made start
  · rfl

end OperatorTree

/-! ## Reading chains -/

theorem OperandText.read (operand : OperandText) {tail : List Char} (stops : stopsAt continuesOperand tail = true)
    {budget : Nat} (enough : 4 * operand.text.length ≤ budget) :
    readOperand budget (operand.text ++ tail) = .ok (operand.equation, tail) := by
  rcases operand.accepted with ⟨accepting, accepted⟩
  rcases (steady accepting).operand accepted with ⟨used, whole, -, readAgain⟩
  rw [List.append_nil] at whole
  rw [whole] at enough ⊢
  exact readAgain (.of_stopsAt rfl stops) enough

section Reading

variable {precedence : Nat} {rest : List Char}

/-- Looser operators are left for an equation around this one. -/
theorem readOperators_of_follows (follows : Follows precedence rest) {loosest : Nat} (tight : loosest < precedence)
    {budget : Nat} (enough : 0 < budget) (left : Equation) :
    readOperators budget loosest left rest = .ok (left, rest) := by
  rcases Nat.exists_eq_add_of_le' enough with ⟨least, rfl⟩
  rcases follows with rfl | ⟨operator, more, rfl, bound⟩
  · rfl
  · rw [readOperators, operator.readOperator, ok_bind]
    exact if_pos (Nat.lt_of_lt_of_le tight bound)

end Reading

theorem length_pos_of_accepted (operand : OperandText) : 0 < operand.text.length := by
  rcases operand.accepted with ⟨accepting, accepted⟩
  rcases (steady accepting).operand accepted with ⟨used, whole, present, -⟩
  rw [whole, List.append_nil]
  exact List.length_pos_iff.2 present

/-- An operator that is not too loose is read together with its right operand. -/
theorem readOperators_operator (operator : OperatorText) {loosest : Nat} (bound : operator.precedence ≤ loosest)
    (budget : Nat) (left : Equation) (text : List Char) :
    readOperators (budget + 3) loosest left (operator.text ++ text) =
      (readEquation (budget + 2) (operator.precedence - 1) text >>= fun (right, rest) =>
        (if operator.operator = .finds then compileLiteral false (operator.text ++ text) right else .ok right) >>=
          fun right => readOperators (budget + 2) loosest (.binary operator.operator left right) rest) := by
  rw [OperatorText.precedence] at bound ⊢
  rw [readOperators, operator.readOperator, ok_bind]
  simp only
  rw [if_neg (Nat.not_lt_of_le bound), readEquation_blanks (areBlanks_replicate _)]
  cases readEquation (budget + 2) (operator.operator.precedence - 1) text with
  | error fault => rfl
  | ok read =>
      simp only [ok_bind]
      split <;> rfl

/--
A prescribed tree is read up to where looser operators follow. Reading then goes on with operators, or it has failed at a
literal that is no regular expression.
-/
theorem readEquation_tree {tree : OperatorTree} (prescribed : tree.IsPrescribed) {loosest budget : Nat}
    {rest : List Char} (bound : tree.precedence ≤ loosest) (follows : Follows tree.precedence rest)
    (enough : 4 * tree.text.length + 1 ≤ budget) :
    match tree.equation? with
    | some equation => ∃ least, budget ≤ least + tree.text.length ∧
        readEquation budget loosest (tree.text ++ rest) = readOperators least loosest equation rest
    | none => ∃ fault, readEquation budget loosest (tree.text ++ rest) = .error fault ∧
        fault.cause = .invalidPattern := by
  induction tree generalizing loosest budget rest with
  | operand leaf =>
      have positive := length_pos_of_accepted leaf
      rw [OperatorTree.text] at enough ⊢
      rcases Nat.exists_eq_add_of_le' (by omega : 1 ≤ budget) with ⟨least, rfl⟩
      refine ⟨least, by omega, ?_⟩
      rw [readEquation, leaf.read follows.stopsAt_continuesOperand (by omega)]
      rfl
  | node operator left right leftReads rightReads =>
      rcases prescribed with ⟨leftTighter, rightTighter, leftPrescribed, rightPrescribed⟩
      have positive : 0 < operator.text.length := by
        have spaced := operator.spacedBefore
        simp only [OperatorText.text, List.length_append, List.length_replicate]
        omega
      simp only [OperatorTree.text, List.append_assoc, List.length_append] at enough ⊢
      have atOperator : Follows left.precedence (operator.text ++ (right.text ++ rest)) :=
        .inr ⟨operator, _, rfl, leftTighter⟩
      have leftRead := leftReads leftPrescribed (Nat.le_trans leftTighter bound) atOperator
        (by omega : 4 * left.text.length + 1 ≤ budget)
      rw [OperatorTree.equation?]
      cases leftMade : left.equation? with
      | none =>
          rw [leftMade] at leftRead
          exact leftRead
      | some first =>
          rw [leftMade] at leftRead
          rcases leftRead with ⟨least, leftBudget, leftRead⟩
          rcases Nat.exists_eq_add_of_le' (by omega : 3 ≤ least) with ⟨least, rfl⟩
          have rightRead := rightReads rightPrescribed (Nat.le_sub_one_of_lt rightTighter)
            (follows.of_le (Nat.le_of_lt rightTighter)) (by omega : 4 * right.text.length + 1 ≤ least + 2)
          rw [leftRead, readOperators_operator operator bound]
          cases rightMade : right.equation? with
          | none =>
              rw [rightMade] at rightRead
              rcases rightRead with ⟨fault, rightRead, cause⟩
              rw [rightRead]
              exact ⟨fault, rfl, cause⟩
          | some second =>
              rw [rightMade] at rightRead
              rcases rightRead with ⟨others, rightBudget, rightRead⟩
              -- the operators behind the right operand are too loose for it
              have ended : readOperators others (operator.precedence - 1) second rest = .ok (second, rest) :=
                readOperators_of_follows follows (Nat.sub_one_lt_of_lt operator.precedence_pos) (by omega) second
              rw [rightRead, ended, ok_bind]
              simp only [Option.bind_some, OperatorTree.rightOperand_eq rightMade]
              cases operator.operator.rightOperand? second with
              | none => exact ⟨_, rfl, rfl⟩
              | some compiled => exact ⟨least + 2, by omega, rfl⟩

theorem OperatorTree.precedence_le_loosest (tree : OperatorTree) : tree.precedence ≤ Operator.loosest := by
  cases tree with
  | operand leaf => exact Nat.zero_le _
  | node operator left right => exact operator.operator.precedence_le_loosest

/-- The text of a prescribed tree is read as its equation, unless a literal is no regular expression. -/
theorem readWholeScript_tree {tree : OperatorTree} (prescribed : tree.IsPrescribed) :
    match tree.equation? with
    | some equation => readWholeScript tree.text = .ok equation.script
    | none => ∃ fault, readWholeScript tree.text = .error fault ∧ fault.cause = .invalidPattern := by
  have read := readEquation_tree prescribed tree.precedence_le_loosest (.inl rfl)
    (by rw [readingBudget]; omega : 4 * tree.text.length + 1 ≤ readingBudget tree.text)
  rw [List.append_nil] at read
  cases made : tree.equation? with
  | none =>
      rw [made] at read
      rcases read with ⟨fault, read, cause⟩
      refine ⟨fault, ?_, cause⟩
      rw [readWholeScript, read]
      rfl
  | some equation =>
      rw [made] at read
      rcases read with ⟨least, enough, read⟩
      rw [readingBudget] at enough
      rcases Nat.exists_eq_add_of_le' (by omega : 1 ≤ least) with ⟨least, rfl⟩
      rw [readWholeScript, read]
      rfl

/--
A text of operands with infix operators between them is read as the one prescribed tree with these operands and operators,
in which the literals that are searched for are compiled. It is refused only where such a literal is no regular expression.
-/
theorem parse_chain (first : OperandText) (links : List (OperatorText × OperandText)) :
    ∃ tree : OperatorTree, (tree.IsPrescribed ∧ tree.first = first ∧ tree.links = links) ∧
      (∀ other : OperatorTree, other.IsPrescribed → other.first = first → other.links = links → other = tree) ∧
      (¬tree.HasInvalidPattern → ∃ equation, tree.equation? = some equation ∧
        Script.parse (String.ofList (chainText first links)) = .ok equation.script) ∧
      (tree.HasInvalidPattern → ∃ error, Script.parse (String.ofList (chainText first links)) = .error error ∧
        error.cause = .invalidPattern) := by
  have reads := OperatorTree.isPrescribed_and_reads_iff.2 (Eq.refl (OperatorTree.ofChain first links))
  refine ⟨OperatorTree.ofChain first links, reads, ?_, ?_⟩
  · intro other prescribed sameFirst sameLinks
    exact OperatorTree.isPrescribed_and_reads_iff.1 ⟨prescribed, sameFirst, sameLinks⟩
  generalize OperatorTree.ofChain first links = tree at reads
  rcases reads with ⟨prescribed, rfl, rfl⟩
  have read := readWholeScript_tree prescribed
  rw [← OperatorTree.equation?_eq_none, Script.parse, Script.parseFrom, String.toList_ofList, List.drop_zero,
    ← OperatorTree.text_eq]
  cases made : tree.equation? with
  | none =>
      rw [made] at read
      rcases read with ⟨fault, read, cause⟩
      refine ⟨fun compiles => absurd rfl compiles, fun _ => ⟨SyntaxError.ofFault 0 tree.text fault, ?_, cause⟩⟩
      rw [read]
      rfl
  | some equation =>
      rw [made] at read
      refine ⟨fun _ => ⟨equation, rfl, mapError_eq_ok.2 read⟩, fun invalid => ?_⟩
      cases invalid

/-! ### Subtractions group to the left -/

end Chains

/-- An integer as an operand. -/
def OperandText.integer (n : Int64) : OperandText where
  text := intDigits n.toInt
  equation := .operand (.literal (.integer n))
  accepted := by
    have read := @readOperand_integer _ 1 [] Nat.one_pos n rfl
    rw [List.append_nil] at read
    exact ⟨1, read⟩

/-- A minus with one space on each side. -/
def OperatorText.minus : OperatorText where
  operator := .subtract
  isInfix := rfl
  name := ['-']
  spelled := .inl rfl
  before := 1
  after := 1
  spacedBefore := Nat.one_pos
  spacedAfter := Nat.one_pos

theorem parse_chain_subtractions : Script.parse "10 - 4 - 3" =
    .ok (Equation.binary .subtract
      (.binary .subtract (.operand (.literal (.integer 10))) (.operand (.literal (.integer 4))))
      (.operand (.literal (.integer 3)))).script := by
  rcases parse_chain (.integer 10) [(.minus, .integer 4), (.minus, .integer 3)] with ⟨tree, -, unique, reads, -⟩
  have grouped := unique
    (.node .minus (.node .minus (.operand (.integer 10)) (.operand (.integer 4))) (.operand (.integer 3)))
    (by simp [OperatorTree.IsPrescribed, OperatorTree.precedence, OperatorText.precedence_pos]) rfl rfl
  rcases grouped with rfl
  rcases reads (by simp [OperatorTree.HasInvalidPattern, OperatorText.minus]) with ⟨equation, made, read⟩
  rcases Option.some.inj made with rfl
  exact read

end TreePath

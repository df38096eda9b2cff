import TreePath.Path.Reader
import TreePath.Proofs.Reading.Delimited
import TreePath.Proofs.Script.Meaning

/-!
# Formulas

A formula is a script as a tree all the way down: the filters of the paths in it hold formulas and not flat
scripts. It has a value by recursion on the tree. `evaluateEntries_flatten` says that working off the entries of a
formula from the last to the first leaves that value and nothing else.

A formula is readable if it is one that a text can be read as. `Path/Legible` shows that reading yields
nothing but readable formulas, and `Path/RoundTrip` that each of them is read back from its text.
-/

namespace TreePath

variable [RegexSyntax]

/-- A script as a tree, down to the scripts in the filters of its paths. -/
inductive Formula where
  | literal (value : Value)
  | nothing
  | path (fragments : List (Fragment Formula))
  | pattern (compiled : Pattern)
  | unary (operator : Operator) (argument : Formula)
  | binary (operator : Operator) (left right : Formula)

mutual

/-- The tree of operators and operands, with flat scripts in the filters of its paths. -/
def Formula.equation : Formula → Equation
  | .literal value => .operand (.literal value)
  | .nothing => .operand .nothing
  | .path fragments => .operand (.path ⟨flattenFragments fragments⟩)
  | .pattern compiled => .operand (.pattern compiled)
  | .unary operator argument => .unary operator argument.equation
  | .binary operator left right => .binary operator left.equation right.equation

/-- The fragments with flat scripts in their filters. -/
def flattenFragments : List (Fragment Formula) → List (Fragment Script)
  | [] => []
  | fragment :: fragments => flattenFragment fragment :: flattenFragments fragments

/-- The fragment with a flat script if it is a filter. -/
def flattenFragment : Fragment Formula → Fragment Script
  | .root => .root
  | .current => .current
  | .child name => .child name
  | .nth i => .nth i
  | .wildcard => .wildcard
  | .descent => .descent
  | .slice start stop step => .slice start stop step
  | .union selectors => .union selectors
  | .filter formula => .filter formula.equation.script

end

mutual

/-- The value of a formula for a candidate in a document. The flag says whether a path yields all that it finds. -/
def Formula.value (candidate root : Value) : Bool → Formula → Term
  | _, .literal value => .ofValue value
  | _, .nothing => .nothing
  | gather, .path fragments =>
    if gather then .list (findings root (formulaSteps fragments) candidate)
    else .ofFirst (findings root (formulaSteps fragments) candidate)
  | _, .pattern compiled => .pattern compiled
  | _, .unary operator argument =>
    Term.applyUnary operator (argument.value candidate root operator.gathers)
  | _, .binary operator left right =>
    Term.applyBinary operator (left.value candidate root false) (right.value candidate root false)

/-- The steps of fragments: the formula of a filter is a test. -/
def formulaSteps : List (Fragment Formula) → List Step
  | [] => []
  | fragment :: fragments => formulaStep fragment :: formulaSteps fragments

/-- The step of a fragment. -/
def formulaStep : Fragment Formula → Step
  | .root => .root
  | .current => .current
  | .child name => .child name
  | .nth i => .nth i
  | .wildcard => .wildcard
  | .descent => .descent
  | .slice start stop step => .slice start stop step
  | .union selectors => .union selectors
  | .filter formula => .filter fun candidate root => (formula.value candidate root false).isTrue

end

/-! ## Readable formulas -/

/-- Whether a value can be written as a literal. -/
def Value.IsLiteral : Value → Prop
  | .null | .boolean _ | .integer _ | .string _ => True
  | .float x => x.isFinite = true
  | .time _ | .array _ | .object _ => False

/-- Whether the right operand is compiled to a pattern if it is a literal. -/
def Operator.compiles : Operator → Bool
  | finds | matchWhole | search => true
  | _ => false

/-- A pattern that reading a literal can have compiled. One between slashes has been compiled on its own before. -/
structure Pattern.IsReadable (pattern : Pattern) (anchored : Bool) : Prop where
  anchored_eq : pattern.anchored = anchored
  slashable : pattern.slashed = true → isSlashable pattern.source.toList = true
  compiles : pattern.slashed = true → (Pattern.compile? pattern.source false).isSome = true

/-- Whether a formula would be compiled if it stood on the right of an operator that compiles its operand. -/
def Formula.isSource : Formula → Bool
  | .literal (.string _) => true
  | .pattern _ => true
  | _ => false

mutual

/-- Whether a formula is one that a text can be read as. -/
def Formula.IsReadable : Formula → Prop
  | .literal value => value.IsLiteral
  | .nothing => True
  | .path [] => False
  | .path (head :: fragments) => head.isAnchor = true ∧ areReadable fragments
  | .pattern compiled => compiled.slashed = true ∧ compiled.IsReadable false
  | .unary operator argument => operator.arity = 1 ∧ argument.IsReadable
  | .binary operator left right =>
    operator.arity = 2 ∧ left.IsReadable ∧
      ((operator.compiles = true ∧
          ∃ compiled, right = .pattern compiled ∧
            compiled.IsReadable (decide (operator = .matchWhole))) ∨
        ((operator.compiles = true → right.isSource = false) ∧ right.IsReadable))

/-- Whether the fragments after the head of a path are ones that a text can be read as. -/
def areReadable : List (Fragment Formula) → Prop
  | [] => True
  | fragment :: fragments => isReadable fragment ∧ areReadable fragments

/-- Whether a fragment after the head of a path is one that a text can be read as. -/
def isReadable : Fragment Formula → Prop
  | .root | .current => False
  | .child _ | .nth _ | .wildcard | .descent | .slice _ _ _ => True
  | .union selectors => 2 ≤ selectors.length
  | .filter formula => formula.IsReadable

end

/-- Whether the fragments of a path are ones that a text can be read as. The path may have a head or none. -/
def arePathReadable : List (Fragment Formula) → Prop
  | [] => True
  | head :: fragments => (head.isAnchor = true ∨ isReadable head) ∧ areReadable fragments

end TreePath

import TreePath.Proofs.Path.RoundTrip
import TreePath.Proofs.Query.Throughout
import TreePath.Proofs.Script.Computed
import TreePath.Regex.Standard

/-!
# Scripts stay finite

No operator yields an infinite number or not-a-number, whatever its operands are, and a text that is read writes none. So a
script that was read yields such a number only if it finds it in the candidate or in the document.
-/

namespace TreePath

namespace Term

variable [RegexSyntax]

/-- No number in the term, at any depth, is infinite or not-a-number. -/
def IsFinite : Term → Prop
  | number x => x.isFinite = true
  | node value => value.Throughout Value.isFinite
  | list values => ∀ value ∈ values, value.Throughout Value.isFinite
  | _ => True

theorem isFinite_ofValue {value : Value} (finite : value.Throughout Value.isFinite) : (ofValue value).IsFinite := by
  cases value with
  | float x => exact (Value.throughout_of_scalar rfl).1 finite
  | integer n => rfl
  | array items => exact finite
  | object members => exact finite
  | _ => trivial

theorem IsFinite.toValue? {term : Term} (finite : term.IsFinite) {value : Value} (isValue : term.toValue? = some value) :
    value.Throughout Value.isFinite := by
  cases term with
  | nothing => cases isValue
  | number x =>
      cases x with
      | integer n =>
          rcases Option.some.inj isValue with rfl
          exact (Value.throughout_of_scalar rfl).2 rfl
      | float x =>
          rcases Option.some.inj isValue with rfl
          exact (Value.throughout_of_scalar rfl).2 finite
  | node found =>
      rcases Option.some.inj isValue with rfl
      exact finite
  | list found =>
      rcases Option.some.inj isValue with rfl
      exact Value.throughout_iff.2 ⟨rfl, finite⟩
  | _ =>
      rcases Option.some.inj isValue with rfl
      exact (Value.throughout_of_scalar rfl).2 rfl

theorem IsComputed.isFinite {term : Term} (computed : term.IsComputed) : term.IsFinite := by
  cases computed with
  | number x finite => exact finite
  | _ => trivial

theorem IsFinite.applyUnary {argument : Term} (finite : argument.IsFinite) (operator : Operator) :
    (applyUnary operator argument).IsFinite := by
  rcases eq_or_isComputed_applyUnary operator argument with same | computed
  · rwa [same]
  · exact computed.isFinite

theorem isFinite_apply {operands : List Term} (finite : ∀ term ∈ operands, term.IsFinite) (operator : Operator) :
    ∀ term ∈ apply operator operands, term.IsFinite := by
  have first : (operands.headD nothing).IsFinite := by
    cases operands with
    | nil => trivial
    | cons term operands => exact finite term List.mem_cons_self
  have others (taken : Nat) : ∀ term ∈ operands.drop taken, term.IsFinite :=
    fun term member => finite term (List.mem_of_mem_drop member)
  rw [apply]
  split
  · exact List.forall_mem_cons.2 ⟨first.applyUnary operator, others 1⟩
  · exact List.forall_mem_cons.2 ⟨(isComputed_applyBinary operator _ _).isFinite, others 2⟩

end Term

/-! ## Scripts -/

section Evaluation

variable [RegexSyntax] {candidate root : Value} (here : candidate.Throughout Value.isFinite)
  (everywhere : root.Throughout Value.isFinite)

include here everywhere

theorem Path.isFinite_meaning (path : Path) (gather : Bool) : (path.meaning gather candidate root).IsFinite := by
  rcases path with ⟨fragments⟩
  have finite : ∀ found ∈ TreePath.findings root (meaningOfFragments fragments) candidate,
      found.Throughout Value.isFinite :=
    fun found isFound => everywhere.of_mem_findings here isFound
  rw [Path.meaning]
  split
  · exact finite
  · generalize TreePath.findings root (meaningOfFragments fragments) candidate = found at finite
    cases found with
    | nil => trivial
    | cons value values => exact Term.isFinite_ofValue (finite value List.mem_cons_self)

/-- The work from the last entry to the first leaves finite terms, in whatever order operators and operands stand. -/
theorem isFinite_of_mem_meaningOfEntries {entries : List Entry}
    (literals : ∀ value, .literal value ∈ entries → value.Throughout Value.isFinite) (gather : Bool) :
    ∀ term ∈ meaningOfEntries gather entries candidate root, term.IsFinite := by
  induction entries generalizing gather with
  | nil => exact List.forall_mem_nil _
  | cons entry entries ih =>
      have later := ih (fun value member => literals value (List.mem_cons_of_mem entry member)) entry.gathers
      rw [meaningOfEntries]
      cases entry with
      | operator operator => exact Term.isFinite_apply later operator
      | literal value =>
          have finite := Term.isFinite_ofValue (literals value List.mem_cons_self)
          exact List.forall_mem_cons.2 ⟨finite, later⟩
      | nothing => exact List.forall_mem_cons.2 ⟨trivial, later⟩
      | pattern compiled => exact List.forall_mem_cons.2 ⟨trivial, later⟩
      | path operand => exact List.forall_mem_cons.2 ⟨operand.isFinite_meaning here everywhere gather, later⟩

end Evaluation

theorem Value.IsLiteral.isFinite {value : Value} (literal : value.IsLiteral) : value.Throughout Value.isFinite := by
  cases value with
  | float x => exact (Value.throughout_of_scalar rfl).2 literal
  | time instant => exact literal.elim
  | array items => exact literal.elim
  | object members => exact literal.elim
  | _ => exact (Value.throughout_of_scalar rfl).2 rfl

/-- The literals among the entries of a formula are those that it was read with. -/
theorem Formula.isLiteral_of_mem_flatten [RegexSyntax] {value : Value} : ∀ formula : Formula, formula.IsReadable →
    .literal value ∈ formula.equation.flatten → value.IsLiteral
  | .literal other, readable, member => by
      rw [Formula.equation, Equation.flatten, List.mem_singleton] at member
      rcases Entry.literal.inj member with rfl
      exact readable
  | .nothing, _, member => by simp [Formula.equation, Equation.flatten, Operand.entry] at member
  | .path _, _, member => by simp [Formula.equation, Equation.flatten, Operand.entry] at member
  | .pattern _, _, member => by simp [Formula.equation, Equation.flatten, Operand.entry] at member
  | .unary operator argument, readable, member => by
      rw [Formula.IsReadable] at readable
      rw [Formula.equation, Equation.flatten, List.mem_cons] at member
      rcases member with member | member
      · cases member
      · exact isLiteral_of_mem_flatten argument readable.2 member
  | .binary operator left right, readable, member => by
      rw [Formula.IsReadable] at readable
      rw [Formula.equation, Equation.flatten, List.mem_cons, List.mem_append] at member
      rcases member with member | member | member
      · cases member
      · exact isLiteral_of_mem_flatten left readable.2.1 member
      · rcases readable.2.2 with ⟨-, compiled, rfl, -⟩ | ⟨-, rightReadable⟩
        · simp [Formula.equation, Equation.flatten, Operand.entry] at member
        · exact isLiteral_of_mem_flatten right rightReadable member

namespace Script

/--
What a script that was read yields is finite at all depths, if the candidate and the document are. No arithmetic
makes a number that is not, be it a division by zero or an overflow.
-/
theorem throughout_isFinite_of_eval [RegexSyntax] {text : String} {script : Script}
    (parsed : Script.parse text = .ok script) {candidate root : Value} (here : candidate.Throughout Value.isFinite)
    (everywhere : root.Throughout Value.isFinite) {value : Value}
    (evaluated : script.eval candidate root = some value) : value.Throughout Value.isFinite := by
  rcases exists_formula_of_parse parsed with ⟨formula, readable, rfl⟩
  have literals (literal : Value) (member : .literal literal ∈ formula.equation.flatten) :
      literal.Throughout Value.isFinite :=
    (formula.isLiteral_of_mem_flatten readable member).isFinite
  have terms := isFinite_of_mem_meaningOfEntries here everywhere literals false
  rw [Script.eval, Script.evaluate_eq_meaning, Equation.script, Script.meaning] at evaluated
  generalize meaningOfEntries false formula.equation.flatten candidate root = left at terms evaluated
  cases left with
  | nil => cases evaluated
  | cons term left => exact (terms term List.mem_cons_self).toValue? evaluated

/-- Half of the member `x`. -/
def halfOfX : Script where
  template := [.operator .divide, .path ⟨[.current, .child "x"]⟩, .literal (.integer 2)]

def sevenAndHalf : Value :=
  .object [("rates", .array [.float (.ofBits 0x3FE0000000000000)]), ("x", .integer 7)]

/-- Half of the integer 7 is a floating-point number. -/
theorem throughout_isFinite_of_eval_halfOfX :
    Script.parse "@.x / 2" = .ok halfOfX ∧ sevenAndHalf.Throughout Value.isFinite ∧
      halfOfX.eval sevenAndHalf sevenAndHalf = some (.float (.finite false 0x400C000000000000)) ∧
      (Value.float (.finite false 0x400C000000000000)).Throughout Value.isFinite := by
  have parsed : Script.parse "@.x / 2" = .ok halfOfX := by rfl
  have finite : sevenAndHalf.Throughout Value.isFinite := by decide
  have quotient : Numeric.div? (.integer 7) (.integer 2) = some (.float (.finite false 0x400C000000000000)) := by
    decide +kernel
  have terms : evaluateEntries false halfOfX.template sevenAndHalf sevenAndHalf =
      [Term.ofNumeric? (Numeric.div? (.integer 7) (.integer 2))] := by rfl
  have evaluated : halfOfX.eval sevenAndHalf sevenAndHalf = some (.float (.finite false 0x400C000000000000)) := by
    rw [halfOfX] at terms ⊢
    rw [eval, evaluate, terms, quotient]
    rfl
  exact ⟨parsed, finite, evaluated, throughout_isFinite_of_eval parsed finite finite evaluated⟩

end Script

end TreePath

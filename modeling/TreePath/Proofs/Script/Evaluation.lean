import TreePath.Proofs.Path.RoundTrip
import TreePath.Regex.Standard

/-!
# The value of a script

The entries of a formula are its operators and operands in prefix order. Working them off from the last to the first
puts the value of the formula in front of the terms that were there before, and no operator ever finds fewer terms
than it takes. So a script that was read has the value of its tree, in which every operator is applied to the values
of its own operands.
-/

namespace TreePath

/-- An operator with two operands never gathers. -/
theorem Operator.gathers_eq_false {operator : Operator} (binary : operator.arity = 2) :
    operator.gathers = false := by
  cases operator <;> first | rfl | simp [arity] at binary

section Evaluating

variable [RegexSyntax]

theorem Term.apply_unary {operator : Operator} (unary : operator.arity = 1) (argument : Term)
    (terms : List Term) : apply operator (argument :: terms) = applyUnary operator argument :: terms := by
  simp [apply, unary]

theorem Term.apply_binary {operator : Operator} (binary : operator.arity = 2) (left right : Term)
    (terms : List Term) :
    apply operator (left :: right :: terms) = applyBinary operator left right :: terms := by
  simp [apply, binary]

theorem meaningOfFragment_flatten_anchor {head : Fragment Formula} (anchor : head.isAnchor = true) :
    meaningOfFragment (flattenFragment head) = formulaStep head := by
  cases head <;> first | rfl | simp [Fragment.isAnchor] at anchor

mutual

/-- Below the entries of a formula the work goes on as if nothing had been there. -/
theorem meaningOfEntries_flatten : ∀ formula : Formula, formula.IsReadable →
    ∀ (gather : Bool) (entries : List Entry) (candidate root : Value),
      meaningOfEntries gather (formula.equation.flatten ++ entries) candidate root =
        formula.value candidate root gather :: meaningOfEntries false entries candidate root
  | .literal _, _, _, _, _, _ => rfl
  | .nothing, _, _, _, _, _ => rfl
  | .pattern _, _, _, _, _, _ => rfl
  | .path [], readable, _, _, _, _ => by simp [Formula.IsReadable] at readable
  | .path (head :: fragments), readable, gather, entries, candidate, root => by
      rw [Formula.IsReadable] at readable
      have first := meaningOfFragment_flatten_anchor readable.1
      have others := meaningOfFragments_flatten fragments readable.2
      simp only [Formula.equation, Equation.flatten, Operand.entry, List.singleton_append, meaningOfEntries,
        Entry.meaning, Path.meaning, flattenFragments, meaningOfFragments, first, others, Formula.value,
        formulaSteps, Entry.gathers]
  | .unary operator argument, readable, gather, entries, candidate, root => by
      rw [Formula.IsReadable] at readable
      have argumentValue := meaningOfEntries_flatten argument readable.2 operator.gathers entries candidate root
      rw [Formula.equation, Equation.flatten, List.cons_append, meaningOfEntries, Entry.meaning,
        Entry.gathers, argumentValue, Term.apply_unary readable.1, Formula.value]
  | .binary operator left right, readable, gather, entries, candidate, root => by
      rw [Formula.IsReadable] at readable
      have leftValue := meaningOfEntries_flatten left readable.2.1 false (right.equation.flatten ++ entries)
        candidate root
      have rightValue : meaningOfEntries false (right.equation.flatten ++ entries) candidate root =
          right.value candidate root false :: meaningOfEntries false entries candidate root := by
        rcases readable.2.2 with ⟨-, compiled, rfl, -⟩ | ⟨-, rightReadable⟩
        · rfl
        · exact meaningOfEntries_flatten right rightReadable false entries candidate root
      rw [Formula.equation, Equation.flatten, List.cons_append, List.append_assoc, meaningOfEntries,
        Entry.meaning, Entry.gathers, Operator.gathers_eq_false readable.1, leftValue, rightValue,
        Term.apply_binary readable.1, Formula.value]

theorem meaningOfFragments_flatten : ∀ fragments : List (Fragment Formula), areReadable fragments →
    meaningOfFragments (flattenFragments fragments) = formulaSteps fragments
  | [], _ => rfl
  | fragment :: fragments, readable => by
      rw [areReadable] at readable
      rw [flattenFragments, meaningOfFragments, formulaSteps, meaningOfFragment_flatten fragment readable.1,
        meaningOfFragments_flatten fragments readable.2]

theorem meaningOfFragment_flatten : ∀ fragment : Fragment Formula, isReadable fragment →
    meaningOfFragment (flattenFragment fragment) = formulaStep fragment
  | .root, _ | .current, _ | .child _, _ | .nth _, _ | .wildcard, _ | .descent, _ | .slice _ _ _, _
  | .union _, _ => rfl
  | .filter formula, readable => by
      rw [isReadable] at readable
      have value := meaningOfEntries_flatten formula readable false []
      rw [flattenFragment, meaningOfFragment, formulaStep]
      simp only [Equation.script, Script.meaning, List.append_nil] at value ⊢
      simp only [value, List.headD_cons]

end

theorem evaluateEntries_flatten {formula : Formula} (readable : formula.IsReadable) (gather : Bool)
    (entries : List Entry) (candidate root : Value) :
    evaluateEntries gather (formula.equation.flatten ++ entries) candidate root =
      formula.value candidate root gather :: evaluateEntries false entries candidate root := by
  rw [evaluateEntries_eq_meaning, evaluateEntries_eq_meaning]
  exact meaningOfEntries_flatten formula readable gather entries candidate root

/-- The walk along a path in a formula finds what the steps of the formula find. -/
theorem collect_flattenFragments {fragments : List (Fragment Formula)}
    (readable : (Formula.path fragments).IsReadable) (root : Value) (room : Option Nat) (candidate : Value) :
    collect root room (Path.steps ⟨flattenFragments fragments⟩) candidate =
      takeRoom room (findings root (formulaSteps fragments) candidate) := by
  cases fragments with
  | nil => simp [Formula.IsReadable] at readable
  | cons head fragments =>
      rw [Formula.IsReadable] at readable
      have first := meaningOfFragment_flatten_anchor readable.1
      have others := meaningOfFragments_flatten fragments readable.2
      rw [collect_eq, Path.steps, stepsOf_eq_meaning, flattenFragments, meaningOfFragments, first, others,
        formulaSteps]

/-! ## Supply of operands -/

/-- Every operator among the entries finds at least as many terms after it as it takes. -/
def IsSupplied (candidate root : Value) : List Entry → Prop
  | [] => True
  | .operator operator :: entries =>
    operator.arity ≤ (evaluateEntries operator.gathers entries candidate root).length ∧
      IsSupplied candidate root entries
  | _ :: entries => IsSupplied candidate root entries

/-- The entries of a formula supply their own operators, whatever comes after them. -/
theorem isSupplied_flatten {candidate root : Value} : ∀ formula : Formula, formula.IsReadable →
    ∀ entries : List Entry, IsSupplied candidate root entries →
      IsSupplied candidate root (formula.equation.flatten ++ entries)
  | .literal _, _, _, supplied => supplied
  | .nothing, _, _, supplied => supplied
  | .path _, _, _, supplied => supplied
  | .pattern _, _, _, supplied => supplied
  | .unary operator argument, readable, entries, supplied => by
      rw [Formula.IsReadable] at readable
      rw [Formula.equation, Equation.flatten, List.cons_append]
      refine ⟨?_, isSupplied_flatten argument readable.2 entries supplied⟩
      rw [evaluateEntries_flatten readable.2, List.length_cons, readable.1]
      omega
  | .binary operator left right, readable, entries, supplied => by
      rw [Formula.IsReadable] at readable
      rcases readable with ⟨binary, leftReadable, rightReadable⟩
      rw [Formula.equation, Equation.flatten, List.cons_append, List.append_assoc]
      refine ⟨?_, isSupplied_flatten left leftReadable _ ?_⟩
      · rw [evaluateEntries_flatten leftReadable, List.length_cons, binary]
        have right_length : 0 < (evaluateEntries false (right.equation.flatten ++ entries) candidate root).length := by
          rcases rightReadable with ⟨-, compiled, rfl, -⟩ | ⟨-, rightReadable⟩
          · exact Nat.succ_pos _
          · rw [evaluateEntries_flatten rightReadable, List.length_cons]
            omega
        omega
      · rcases rightReadable with ⟨-, compiled, rfl, -⟩ | ⟨-, rightReadable⟩
        · exact supplied
        · exact isSupplied_flatten right rightReadable entries supplied

/-! ## Scripts that were read -/

/--
A script that was read has the value of its tree, at every depth of filters. Its entries leave that value alone, no
operator among them lacks an operand, and the walk along a path in it finds what the path finds by recursion.
-/
theorem evaluate_readEquation {budget loosest : Nat} {text rest : List Char} {equation : Equation}
    (read : readEquation budget loosest text = .ok (equation, rest)) :
    (∃ formula : Formula, formula.IsReadable ∧ formula.equation = equation) ∧
      (∀ formula : Formula, formula.IsReadable → formula.equation = equation → ∀ candidate root : Value,
        evaluateEntries false equation.flatten candidate root = [formula.value candidate root false] ∧
          equation.script.evaluate candidate root = formula.value candidate root false ∧
          IsSupplied candidate root equation.flatten) ∧
      ∀ fragments : List (Fragment Formula), (Formula.path fragments).IsReadable →
        ∀ (candidate root : Value) (room : Option Nat),
          collect root room (Path.steps ⟨flattenFragments fragments⟩) candidate =
            takeRoom room (findings root (formulaSteps fragments) candidate) := by
  refine ⟨(legible budget).equation read, ?_, ?_⟩
  · rintro formula readable rfl candidate root
    have value := evaluateEntries_flatten readable false [] candidate root
    have supplied : IsSupplied candidate root (formula.equation.flatten ++ []) :=
      isSupplied_flatten formula readable [] trivial
    rw [List.append_nil] at value supplied
    refine ⟨value, ?_, supplied⟩
    rw [Equation.script, Script.evaluate, value]
    rfl
  · intro fragments readable candidate root room
    exact collect_flattenFragments readable root room candidate

end Evaluating

theorem evaluate_readEquation_sample :
    readEquation (readingBudget sampleFormula.rendering.alone) Operator.loosest sampleFormula.rendering.alone =
        .ok (sampleFormula.equation, []) ∧
      (∀ candidate root : Value,
        evaluateEntries false sampleFormula.equation.flatten candidate root =
            [sampleFormula.value candidate root false] ∧
          sampleFormula.equation.script.evaluate candidate root = sampleFormula.value candidate root false ∧
          IsSupplied candidate root sampleFormula.equation.flatten) ∧
      ∀ (candidate root : Value) (room : Option Nat),
        collect root room (Path.steps ⟨flattenFragments [.current, .filter sampleFormula]⟩) candidate =
          takeRoom room (findings root (formulaSteps [.current, .filter sampleFormula]) candidate) := by
  have read : readEquation (readingBudget sampleFormula.rendering.alone) Operator.loosest
      (sampleFormula.rendering.alone ++ []) = .ok (sampleFormula.equation, []) := by
    apply (formula_reads sampleFormula sampleFormula_isReadable).alone
    · rw [readingBudget]
      omega
    · rfl
  rw [List.append_nil] at read
  have evaluated := evaluate_readEquation read
  have readable : (Formula.path [.current, .filter sampleFormula]).IsReadable := by
    rw [Formula.IsReadable]
    simp [Fragment.isAnchor, areReadable, isReadable, sampleFormula_isReadable]
  exact ⟨read, evaluated.2.1 sampleFormula sampleFormula_isReadable rfl, evaluated.2.2 _ readable⟩

end TreePath

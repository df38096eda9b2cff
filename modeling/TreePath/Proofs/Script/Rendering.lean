import TreePath.Path.Printer
import TreePath.Proofs.Script.Formula

/-!
# The texts of a formula

The entries of a formula are written by working them off from the last to the first. What that leaves for the formula
is a pair of texts that depends on the formula alone.
-/

namespace TreePath

/-- The texts of a formula. -/
def Formula.rendering [RegexSyntax] : Formula → Rendering
  | .literal value => .same value.renderLiteral
  | .nothing => .same "Nothing".toList
  | .path fragments => .same (renderFragments true (flattenFragments fragments))
  | .pattern compiled => .same compiled.render
  | .unary operator argument => (operator.render [argument.rendering]).headD .missing
  | .binary operator left right => (operator.render [left.rendering, right.rendering]).headD .missing

theorem Operator.render_unary {operator : Operator} (unary : operator.arity = 1) (argument : Rendering)
    (operands : List Rendering) :
    operator.render (argument :: operands) = (operator.render [argument]).headD .missing :: operands := by
  simp [render, unary]

theorem Operator.render_binary {operator : Operator} (binary : operator.arity = 2) (left right : Rendering)
    (operands : List Rendering) :
    operator.render (left :: right :: operands) =
      (operator.render [left, right]).headD .missing :: operands := by
  simp [render, binary]

/-- Below the entries of a formula the texts are those of the entries after them. -/
theorem renderEntries_flatten [RegexSyntax] : ∀ formula : Formula, formula.IsReadable → ∀ entries : List Entry,
    renderEntries (formula.equation.flatten ++ entries) = formula.rendering :: renderEntries entries
  | .literal _, _, _ => rfl
  | .nothing, _, _ => rfl
  | .pattern _, _, _ => rfl
  | .path _, _, _ => by
      simp only [Formula.equation, Equation.flatten, Operand.entry, List.singleton_append, renderEntries,
        Entry.render, Path.render, Formula.rendering]
  | .unary operator argument, readable, entries => by
      rw [Formula.IsReadable] at readable
      have argumentTexts := renderEntries_flatten argument readable.2 entries
      rw [Formula.equation, Equation.flatten, List.cons_append, renderEntries, Entry.render, argumentTexts,
        Operator.render_unary readable.1, Formula.rendering]
  | .binary operator left right, readable, entries => by
      rw [Formula.IsReadable] at readable
      have leftTexts := renderEntries_flatten left readable.2.1 (right.equation.flatten ++ entries)
      have rightTexts : renderEntries (right.equation.flatten ++ entries) =
          right.rendering :: renderEntries entries := by
        rcases readable.2.2 with ⟨-, compiled, rfl, -⟩ | ⟨-, rightReadable⟩
        · rfl
        · exact renderEntries_flatten right rightReadable entries
      rw [Formula.equation, Equation.flatten, List.cons_append, List.append_assoc, renderEntries, Entry.render,
        leftTexts, rightTexts, Operator.render_binary readable.1, Formula.rendering]

/-- A script is written as its formula on its own. -/
theorem Script.render_equation [RegexSyntax] {formula : Formula} (readable : formula.IsReadable) :
    formula.equation.script.render = formula.rendering.alone := by
  have texts := renderEntries_flatten formula readable []
  rw [List.append_nil] at texts
  rw [Equation.script, Script.render, texts]
  rfl

/-! ## Texts by kind of operator -/

section Operators

variable (argument left right : Rendering)

theorem Operator.render_function {function : Operator} (isFunction : function.isFunction = true)
    (unary : function.arity = 1) : (function.render [argument]).headD .missing =
      .same (function.name.toList ++ '(' :: argument.alone ++ [')']) := by
  simp [render, isFunction, unary]

theorem Operator.render_test {function : Operator} (isFunction : function.isFunction = true)
    (binary : function.arity = 2) : (function.render [left, right]).headD .missing =
      .same (function.name.toList ++ '(' :: left.alone ++ ',' :: ' ' :: right.alone ++ [')']) := by
  simp [render, isFunction, binary]

theorem Operator.render_infix {operator : Operator} (plain : operator.isFunction = false)
    (binary : operator.arity = 2) : (operator.render [left, right]).headD .missing =
      ⟨left.nested ++ ' ' :: operator.name.toList ++ ' ' :: right.nested,
        '(' :: (left.nested ++ ' ' :: operator.name.toList ++ ' ' :: right.nested) ++ [')']⟩ := by
  simp [render, plain, binary]

end Operators

end TreePath

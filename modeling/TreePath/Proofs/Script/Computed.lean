import TreePath.Proofs.Number.Bounded
import TreePath.Script.Evaluation

/-!
# What operators compute

All that an operator makes of its operands is nothing, a truth value, a text or a finite number, whatever the operands are.
Only `get` hands on its operand as it is.
-/

namespace TreePath

namespace Term

variable [RegexSyntax]

/-- Terms that an operator makes, rather than hands on. -/
inductive IsComputed : Term → Prop
  | nothing : IsComputed nothing
  | boolean (truth : Bool) : IsComputed (boolean truth)
  | text (characters : String) : IsComputed (text characters)
  | number (x : Numeric) (finite : x.isFinite = true) : IsComputed (number x)

theorem isComputed_ofNumeric? {result : Option Numeric} (finite : ∀ x, result = some x → x.isFinite = true) :
    (ofNumeric? result).IsComputed := by
  cases result with
  | none => exact .nothing
  | some x => exact .number x (finite x rfl)

theorem isComputed_ofSize (size : Nat) : (ofSize size).IsComputed := by
  -- The function is opened as a whole, since opening it at one size would have its range of integers worked off.
  have unfolded : ∀ yields, yields = ofSize → (yields size).IsComputed := by
    intro yields same
    delta ofSize at same
    rcases same with rfl
    beta_reduce
    generalize int64? size = found
    cases found with
    | none => exact .nothing
    | some n => exact .number (.integer n) rfl
  exact unfolded _ rfl

theorem isComputed_arithmetic {operation : Numeric → Numeric → Option Numeric}
    (finite : ∀ x y result, operation x y = some result → result.isFinite = true) (left right : Term) :
    (left.arithmetic operation right).IsComputed := by
  unfold arithmetic
  split
  · exact isComputed_ofNumeric? (finite _ _)
  · exact .nothing

theorem isComputed_add (left right : Term) : (left.add right).IsComputed := by
  unfold add
  split
  · exact isComputed_ofNumeric? fun _ => Numeric.isFinite_of_add?
  · exact .text _
  · exact .nothing

theorem isComputed_applyBinary (operator : Operator) (left right : Term) :
    (applyBinary operator left right).IsComputed := by
  cases operator with
  | add => exact isComputed_add left right
  | subtract => exact isComputed_arithmetic (fun _ _ _ => Numeric.isFinite_of_sub?) left right
  | multiply => exact isComputed_arithmetic (fun _ _ _ => Numeric.isFinite_of_mul?) left right
  | divide => exact isComputed_arithmetic (fun _ _ _ => Numeric.isFinite_of_div?) left right
  | not => exact .nothing
  | get => exact .nothing
  | length => exact .nothing
  | count => exact .nothing
  | _ => exact .boolean _

theorem eq_or_isComputed_applyUnary (operator : Operator) (argument : Term) :
    applyUnary operator argument = argument ∨ (applyUnary operator argument).IsComputed := by
  cases operator with
  | get => exact .inl rfl
  | not => cases argument <;> exact .inr (.boolean _)
  | length =>
      apply Or.inr
      simp only [applyUnary]
      split
      · exact isComputed_ofSize _
      · exact .nothing
  | count => exact .inr (isComputed_ofSize argument.countFound)
  | _ => exact .inr .nothing

end Term

end TreePath

import TreePath.Number.Integer

/-!
# Slices

A slice picks the items of an array from a start to before a stop in equal steps. Negative bounds count from the
end. With a positive step the start defaults to the beginning and the stop to the end of the array; with a
negative step the walk is downwards, from the last item to before the first. A step of zero picks
nothing. Sums that leave the 64-bit range stay at its ends.
-/

namespace TreePath

namespace Slice

/-- The integer of the 64-bit range that is nearest to an integer. -/
def saturate (value : Int) : Int :=
  max (-2 ^ (63 : Nat)) (min value (2 ^ (63 : Nat) - 1))

/-- A bound counted from the beginning of an array. -/
def normalize (length : Int) (bound : Int64) : Int :=
  if bound.toInt < 0 then saturate (bound.toInt + length) else bound.toInt

/-- The value nearest to `value` between two others. -/
def clamp (lowest highest value : Int) : Int :=
  max lowest (min value highest)

/-- The indexes from `position` in steps up to before `stop`. The bound limits their number. -/
def upward (step stop : Int) : Nat → Int → List Nat
  | 0, _ => []
  | bound + 1, position =>
    if position < stop then position.toNat :: upward step stop bound (saturate (position + step)) else []

/-- The indexes from `position` in steps down to after `stop`. The bound limits their number. -/
def downward (step stop : Int) : Nat → Int → List Nat
  | 0, _ => []
  | bound + 1, position =>
    if stop < position then position.toNat :: downward step stop bound (saturate (position + step)) else []

/-- The indexes that a slice picks from an array of a length, in order. -/
def indices (start stop step : Option Int64) (length : Nat) : List Nat :=
  let step : Int := (step.map Int64.toInt).getD 1
  let count : Int := length
  if step = 0 ∨ length = 0 ∨ 2 ^ (63 : Nat) ≤ count then []
  else if 0 < step then
    let first := clamp 0 count ((start.map (normalize count)).getD 0)
    let last := clamp 0 count ((stop.map (normalize count)).getD count)
    upward step last length first
  else
    let first := clamp (-1) (count - 1) ((start.map (normalize count)).getD (count - 1))
    let last := match stop with
      | some stop => clamp (-1) (count - 1) (normalize count stop)
      | none => -1
    downward step last length first

example : indices none none (some (-1)) 3 = [2, 1, 0] := by decide
example : indices (some (-2)) none none 5 = [3, 4] := by decide
example : indices (some 1) (some 4) (some 2) 5 = [1, 3] := by decide

end Slice

end TreePath

import TreePath.Number.Binary64

/-!
# Integers of 64 bits

Integers of documents and paths lie between `-2 ^ 63` and `2 ^ 63 - 1`. Arithmetic is done in `Int`, and
`Int64.ofInt?` refuses a result outside of that range.
-/

namespace TreePath

/-- The 64-bit integer that an integer is, if it lies in the range. -/
def int64? (value : Int) : Option Int64 :=
  if -2 ^ (63 : Nat) ≤ value ∧ value < 2 ^ (63 : Nat) then some (Int64.ofInt value) else none

theorem toInt_of_int64? {value : Int} {n : Int64} (h : int64? value = some n) : n.toInt = value := by
  unfold int64? at h
  split at h
  · rename_i bounds
    rcases Option.some.inj h with rfl
    exact Int64.toInt_ofInt_of_le bounds.1 bounds.2
  · simp at h

theorem int64?_toInt (n : Int64) : int64? n.toInt = some n := by
  unfold int64?
  rw [if_pos]
  · simp
  · exact ⟨Int64.le_toInt n, Int64.toInt_lt n⟩

/-- The double-precision number nearest to a 64-bit integer. -/
def Binary64.ofInt64 (n : Int64) : Binary64 :=
  Binary64.ofInt n.toInt

end TreePath

/-!
# Sets of characters as ranges

A property of characters is a list of ranges of code points, in ascending order and apart from each
other. `covers` looks a code point up and stops at the first range that lies beyond it.
-/

namespace TreePath.Text

/-- Whether a code point lies in one of the ranges, which are in ascending order. -/
def covers : List (Nat × Nat) → Nat → Bool
  | [], _ => false
  | (first, last) :: ranges, code =>
    if code < first then false else decide (code ≤ last) || covers ranges code

/-- What the ranges cover, some range of the list contains. -/
theorem exists_mem_of_covers {ranges : List (Nat × Nat)} {code : Nat}
    (covered : covers ranges code = true) :
    ∃ range ∈ ranges, range.1 ≤ code ∧ code ≤ range.2 := by
  induction ranges with
  | nil => simp [covers] at covered
  | cons range ranges ih =>
    rcases range with ⟨first, last⟩
    rw [covers] at covered
    split at covered
    · simp at covered
    · rename_i reached
      rcases Bool.or_eq_true _ _ ▸ covered with here | later
      · exact ⟨(first, last), by simp, by simp; omega, by simpa using here⟩
      · rcases ih later with ⟨range, member, bounds⟩
        exact ⟨range, by simp [member], bounds⟩

end TreePath.Text

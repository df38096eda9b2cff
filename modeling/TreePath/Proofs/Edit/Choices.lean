import TreePath.Proofs.Edit.Search
import TreePath.Proofs.Value.Outline

/-!
# Each child is picked once

A step picks different children of a node, unless it is a union that names one of them twice. The indexes of a slice
grow or shrink from one to the next: they do not leave the 64-bit range as long as they are within an array.
-/

namespace TreePath

namespace Slice

/-- Going upwards, the indexes grow: a sum below the length of an array does not leave the 64-bit range. -/
theorem upward_sorted {step stop : Int} (positive : 0 < step) (small : stop < 2 ^ (63 : Nat)) (bound : Nat)
    {position : Int}
    (notNegative : 0 ≤ position) :
    (upward step stop bound position).Pairwise (· < ·) ∧ ∀ i ∈ upward step stop bound position, position ≤ i := by
  induction bound generalizing position with
  | zero => simp [upward]
  | succ bound ih =>
      rw [upward]
      split
      · have next : position + 1 ≤ saturate (position + step) := by
          rw [saturate]
          omega
        have others := ih (Int.le_trans (by omega) next)
        constructor
        · apply List.pairwise_cons.2 ⟨_, others.1⟩
          intro i isIn
          have := others.2 i isIn
          omega
        · intro i isIn
          rcases List.mem_cons.1 isIn with rfl | later
          · omega
          · have := others.2 i later
            omega
      · simp

theorem downward_sorted {step stop : Int} (negative : step < 0) (low : -2 ^ (63 : Nat) ≤ step) (isBound : -1 ≤ stop)
    (bound : Nat) {position : Int} (small : position < 2 ^ (63 : Nat)) :
    (downward step stop bound position).Pairwise (· > ·) ∧
      ∀ i ∈ downward step stop bound position, (i : Int) ≤ position := by
  induction bound generalizing position with
  | zero => simp [downward]
  | succ bound ih =>
      rw [downward]
      split
      · have next : saturate (position + step) ≤ position - 1 := by
          rw [saturate]
          omega
        have others := @ih (saturate (position + step)) (by omega)
        constructor
        · apply List.pairwise_cons.2 ⟨_, others.1⟩
          intro i isIn
          have := others.2 i isIn
          omega
        · intro i isIn
          rcases List.mem_cons.1 isIn with rfl | later
          · omega
          · have := others.2 i later
            omega
      · simp

theorem nodup_indices (start stop step : Option Int64) (length : Nat) : (indices start stop step length).Nodup := by
  unfold indices
  simp only
  split
  · exact List.nodup_nil
  · rename_i proper
    simp only [not_or, Int.not_le] at proper
    rcases proper with ⟨notZero, -, small⟩
    split
    · rename_i positive
      have bounds (value : Int) : 0 ≤ clamp 0 length value ∧ clamp 0 length value < 2 ^ (63 : Nat) := by
        rw [clamp]
        omega
      exact (upward_sorted positive (bounds _).2 length (bounds _).1).1.imp Nat.ne_of_lt
    · have low : -2 ^ (63 : Nat) ≤ (step.map Int64.toInt).getD 1 := by
        cases step with
        | none => decide
        | some step => exact step.le_toInt
      have bounds (value : Int) :
          -1 ≤ clamp (-1) (length - 1) value ∧ clamp (-1) (length - 1) value < 2 ^ (63 : Nat) := by
        rw [clamp]
        omega
      refine (downward_sorted (by omega) low ?_ length (bounds _).2).1.imp Nat.ne_of_gt
      split
      · exact (bounds _).1
      · exact Int.le_refl _

end Slice

/-- The children that a step picks are different ones, if the step is no union that names one twice. -/
theorem Step.nodup_choices {root node : Value} {step : Step} (ordered : node.IsOrdered)
    (unions : ∀ selectors, step = .union selectors → (selectors.flatMap (·.segments node)).Nodup) :
    (step.choices root node).Nodup := by
  have single (selector : Selector) : (selector.segments node).Nodup := by
    cases selector with
    | key name => cases node <;> simp [Selector.segments]
    | index i =>
        cases node with
        | array items => cases resolved : resolveIndex i items.length <;> simp [Selector.segments, resolved]
        | _ => exact List.nodup_nil
  cases step with
  | child name => exact single (.key name)
  | nth i => exact single (.index i)
  | wildcard => exact ordered.nodup_segments
  | slice start stop step =>
      cases node with
      | array items => exact (Slice.nodup_indices start stop step items.length).map fun _ _ => Segment.index.inj
      | _ => exact List.nodup_nil
  | union selectors => exact unions selectors rfl
  | filter test =>
      have first : (node.segments.zip node.children).map Prod.fst = node.segments :=
        List.map_fst_zip (Nat.le_of_eq node.length_segments)
      have pairs : ((node.segments.zip node.children).map Prod.fst).Nodup := by
        rw [first]
        exact ordered.nodup_segments
      have chosen : choices root node (.filter test) =
          ((node.segments.zip node.children).filter fun pair => test pair.2 root).map Prod.fst := by
        rw [← List.filterMap_eq_map, List.filterMap_filter]
        rfl
      rw [chosen]
      exact pairs.sublist (List.filter_sublist.map Prod.fst)
  | _ => exact List.nodup_nil

end TreePath

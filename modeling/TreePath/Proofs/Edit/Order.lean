import TreePath.Proofs.Edit.First
import TreePath.Proofs.Edit.Running
import TreePath.Proofs.Value.Order

/-!
# Edits keep the order of members

An edit of a well-formed document leaves a well-formed one behind, however it ends, as long as it puts well-formed
values into it.
-/

namespace TreePath

/-- All that is put into a well-formed document is well-formed. -/
def Action.KeepsOrder {Memory : Type} : Action Memory → Prop
  | .set value => value.WellFormed
  | .delete => True
  | .modify answer => ∀ memory old, old.WellFormed → ∀ new ∈ (answer memory old).2, new.WellFormed

namespace Plan

variable {Memory : Type} {plan : Plan Memory} {progress later : Progress Memory} {location : Location}

theorem deduce_wellFormed {index : Nat} {container : Value} (deduced : plan.deduce index = .ok container) :
    container.WellFormed := by
  rw [deduce] at deduced
  split at deduced
  · cases deduced
  · split at deduced
    · rw [← Except.ok.inj deduced]
      exact Value.wellFormed_iff.2 ⟨List.Pairwise.nil, by simp [Value.children]⟩
    · split at deduced
      · cases deduced
      · rw [← Except.ok.inj deduced]
        refine Value.wellFormed_iff.2 ⟨trivial, ?_⟩
        intro child isChild
        rw [(List.mem_replicate.1 isChild).2]
        exact Value.WellFormed.null
    · cases deduced

theorem create_wellFormed {document : Value} {ways : List (Segment × Option Value)} (wellFormed : document.WellFormed)
    (created : ∀ segment container, (segment, some container) ∈ ways → container.WellFormed) :
    (create document location ways).WellFormed := by
  induction ways generalizing document with
  | nil => exact wellFormed
  | cons way ways ih =>
      have others : ∀ segment container, (segment, some container) ∈ ways → container.WellFormed :=
        fun segment container isIn => created segment container (List.mem_cons_of_mem _ isIn)
      rcases way with ⟨segment, _ | container⟩
      · exact ih wellFormed others
      · refine ih (wellFormed.updateAt ?_ location) others
        exact fun child isOrdered => isOrdered.place (created segment container List.mem_cons_self) segment

theorem change_wellFormed (keeps : plan.action.KeepsOrder) (wellFormed : progress.document.WellFormed)
    (segment : Segment) : (plan.change progress location segment).document.WellFormed := by
  have stores {value : Value} (isOrdered : value.WellFormed) :
      (progress.document.updateAt (Value.place value · segment) location).WellFormed :=
    wellFormed.updateAt (fun child inOrder => inOrder.place isOrdered segment) location
  rw [change]
  cases acts : plan.action with
  | set value =>
      rw [acts] at keeps
      exact stores keeps
  | delete =>
      cases progress.document.at? (location ++ [segment]) with
      | none => exact wellFormed
      | some old => exact wellFormed.updateAt (fun child inOrder => inOrder.remove segment) location
  | modify answer =>
      rw [acts] at keeps
      cases found : progress.document.at? (location ++ [segment]) with
      | none => exact wellFormed
      | some old =>
          rcases answered : answer progress.memory old with ⟨memory, _ | new⟩
          · simp only [answered]
            exact wellFormed
          · simp only [answered]
            exact stores (keeps progress.memory old (wellFormed.at? found) new (by rw [answered]; rfl))

theorem changeAll_wellFormed (keeps : plan.action.KeepsOrder) (wellFormed : progress.document.WellFormed)
    (segments : List Segment) : (plan.changeAll progress location segments).document.WellFormed :=
  changeAll_induction (motive := fun later => later.document.WellFormed) wellFormed
    fun segment _ _ before => change_wellFormed keeps before segment

theorem perform_wellFormed (keeps : plan.action.KeepsOrder) (wellFormed : progress.document.WellFormed) {task : Task}
    {more : List Task} (performed : plan.perform progress task = .ok (later, more)) : later.document.WellFormed := by
  cases turn_of_perform performed with
  | finish here plain walks isLast found picked => exact changeAll_wellFormed keeps wellFormed _
  | follow here plain walks inner found picked approached =>
      refine create_wellFormed wellFormed ?_
      intro segment container isIn
      rcases ((mem_approachAll approached).1 isIn).2 with ⟨isNone, -⟩ | ⟨_, isSome, -, -, deduced⟩
      · cases isNone
      · rw [Option.some.inj isSome]
        exact deduce_wellFormed deduced
  | _ => exact wellFormed

theorem run_wellFormed (keeps : plan.action.KeepsOrder) (wellFormed : progress.document.WellFormed)
    (tasks : List Task) : (plan.run progress tasks).1.document.WellFormed := by
  have kept := @run_induction _ plan progress tasks (fun progress _ => progress.document.WellFormed)
    (fun _ _ _ _ => id) (fun _ _ _ _ _ _ performed before => perform_wellFormed keeps before performed) wellFormed
  rcases kept with ⟨-, isOrdered, -⟩
  exact isOrdered

end Plan

/-- An edit leaves a well-formed document behind, also when it fails. -/
theorem Path.edit_wellFormed [RegexSyntax] {Memory : Type} (path : Path) (action : Action Memory) (keeps : action.KeepsOrder)
    (limit : Option Nat) (memory : Memory) {document : Value} (wellFormed : document.WellFormed) :
    (path.edit action limit memory document).document.WellFormed := by
  have runs : (path.runEdit action limit memory document).document.WellFormed := Plan.run_wellFormed keeps wellFormed _
  have refuses {target : Fragment Script} : (if target.isAssignable then path.runEdit action limit memory document
      else ⟨document, memory, .error (.invalidTarget action.operation target.kindName)⟩).document.WellFormed := by
    split
    · exact runs
    · exact wellFormed
  rw [edit]
  cases path.fragments.getLast? with
  | none => exact wellFormed
  | some target =>
      cases action with
      | modify answer =>
          simp only
          split
          · rw [modifyWhole]
            rcases answered : answer memory document with ⟨later, _ | new⟩
            · exact wellFormed
            · exact keeps memory document wellFormed new (by rw [answered]; rfl)
          · exact refuses
      | _ => exact refuses

end TreePath

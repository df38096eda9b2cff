import TreePath.Edit
import TreePath.Proofs.Edit.Running

/-!
# What a modification asks about

A modification can keep a log in its memory: the values that it was asked about, in order. `Path.edit_logging` says
that the log is all it adds. A modification with a log leaves the same document, answers and outcome as the one
without.
-/

namespace TreePath

variable {Memory : Type}

/-- The answers of a modification, with a log of the values that it was asked about. -/
def logging (answer : Memory → Value → Memory × Option Value) :
    Memory × List Value → Value → (Memory × List Value) × Option Value :=
  fun (memory, log) value =>
    let (later, reply) := answer memory value
    ((later, log ++ [value]), reply)

/-- The same progress without the log. -/
def Progress.unlogged (progress : Progress (Memory × List Value)) : Progress Memory :=
  { progress with memory := progress.memory.1 }

def Edited.unlogged (edited : Edited (Memory × List Value)) : Edited Memory :=
  { edited with memory := edited.memory.1 }

namespace Plan

/-! ## Plans of the same kind -/

section Alike

variable {Other : Type} {plan : Plan Memory} {other : Plan Other} {index : Nat} {node : Value}

/-- Two plans follow the same steps with the same operation. -/
structure Alike (plan : Plan Memory) (other : Plan Other) : Prop where
  steps : plan.steps = other.steps
  operation : plan.action.operation = other.action.operation

theorem Alike.isStrict_eq (alike : plan.Alike other) : plan.isStrict index = other.isStrict index := by
  rw [isStrict, isStrict, alike.steps]

theorem Alike.pickIndex_eq (alike : plan.Alike other) (i : Int64) (length : Nat) :
    plan.pickIndex index i length = other.pickIndex index i length := by
  rw [pickIndex, pickIndex, alike.isStrict_eq, Action.isModify, Action.isModify, alike.operation]

theorem Alike.pickSelector_eq (alike : plan.Alike other) (selector : Selector) :
    plan.pickSelector index node selector = other.pickSelector index node selector := by
  cases selector with
  | key name => rfl
  | index i =>
      cases node with
      | array items => exact alike.pickIndex_eq i items.length
      | _ => rfl

theorem Alike.pickSelectors_eq (alike : plan.Alike other) (selectors : List Selector) :
    plan.pickSelectors index node selectors = other.pickSelectors index node selectors := by
  induction selectors with
  | nil => rfl
  | cons selector selectors ih => rw [pickSelectors, pickSelectors, ih, alike.pickSelector_eq]

theorem Alike.pick_eq (alike : plan.Alike other) (root : Value) (step : Step) :
    plan.pick index root node step = other.pick index root node step := by
  cases step with
  | child name => rfl
  | nth i => exact alike.pickSelector_eq (.index i)
  | union selectors => exact alike.pickSelectors_eq selectors
  | _ => rfl

theorem Alike.deduce_eq (alike : plan.Alike other) : plan.deduce index = other.deduce index := by
  rw [deduce, deduce, alike.steps]

theorem Alike.approach_eq (alike : plan.Alike other) (step : Step) (segment : Segment) :
    plan.approach index step node segment = other.approach index step node segment := by
  rw [approach, approach, alike.isStrict_eq, alike.deduce_eq, Action.isSet, Action.isSet, alike.operation]

theorem Alike.approachAll_eq (alike : plan.Alike other) (step : Step) (segments : List Segment) :
    plan.approachAll index step node segments = other.approachAll index step node segments := by
  induction segments with
  | nil => rfl
  | cons segment segments ih => rw [approachAll, approachAll, ih, alike.approach_eq]

end Alike

/-! ## Leaving the log out -/

/-- A modification of all that steps find. -/
def modification (steps : List Step) (limit : Option Nat) (answer : Memory → Value → Memory × Option Value) :
    Plan Memory :=
  ⟨steps, .modify answer, limit⟩

variable {steps : List Step} {limit : Option Nat} {answer : Memory → Value → Memory × Option Value}

theorem alike_logging : (modification steps limit (logging answer)).Alike (modification steps limit answer) :=
  ⟨rfl, rfl⟩

theorem change_logging (progress : Progress (Memory × List Value)) (location : Location) (segment : Segment) :
    ((modification steps limit (logging answer)).change progress location segment).unlogged =
      (modification steps limit answer).change progress.unlogged location segment := by
  cases found : progress.document.at? (location ++ [segment]) with
  | none => simp only [change, modification, Progress.unlogged, found]
  | some old =>
      rcases replied : answer progress.memory.1 old with ⟨memory, _ | new⟩
      · simp only [change, modification, Progress.unlogged, logging, found, replied]
      · simp only [change, modification, Progress.unlogged, logging, found, replied]
        rfl

theorem changeAll_logging (progress : Progress (Memory × List Value)) (location : Location)
    (segments : List Segment) :
    ((modification steps limit (logging answer)).changeAll progress location segments).unlogged =
      (modification steps limit answer).changeAll progress.unlogged location segments := by
  induction segments generalizing progress with
  | nil => rfl
  | cons segment segments ih =>
      rw [changeAll, changeAll, ← change_logging, ← ih]
      exact apply_ite Progress.unlogged _ _ _

theorem finish_logging (progress : Progress (Memory × List Value)) (task : Task) (step : Step) :
    ((modification steps limit (logging answer)).finish progress task step).map (Prod.map Progress.unlogged id) =
      (modification steps limit answer).finish progress.unlogged task step := by
  cases found : progress.document.at? task.location with
  | none => simp only [finish, Progress.unlogged, found, Except.map, Prod.map, id]
  | some node =>
      simp only [finish, Progress.unlogged, found, alike_logging.pick_eq]
      cases (modification steps limit answer).pick task.index progress.document node step with
      | error obstacle => rfl
      | ok segments =>
          show Except.ok _ = Except.ok _
          rw [Prod.map, changeAll_logging]
          rfl

theorem follow_logging (progress : Progress (Memory × List Value)) (task : Task) (step : Step) :
    ((modification steps limit (logging answer)).follow progress task step).map (Prod.map Progress.unlogged id) =
      (modification steps limit answer).follow progress.unlogged task step := by
  cases found : progress.document.at? task.location with
  | none => simp only [follow, Progress.unlogged, found, Except.map, Prod.map, id]
  | some node =>
      simp only [follow, Progress.unlogged, found, alike_logging.pick_eq, alike_logging.approachAll_eq]
      cases (modification steps limit answer).pick task.index progress.document node step with
      | error obstacle => rfl
      | ok segments =>
          cases approached : (modification steps limit answer).approachAll task.index step node segments with
          | error obstacle => simp only [bind, Except.bind, approached, Except.map]
          | ok ways =>
              simp only [bind, Except.bind, approached, Except.map, Prod.map, id]
              rfl

theorem perform_logging (progress : Progress (Memory × List Value)) (task : Task) :
    ((modification steps limit (logging answer)).perform progress task).map (Prod.map Progress.unlogged id) =
      (modification steps limit answer).perform progress.unlogged task := by
  have acted (step : Step) :
      (if task.index + 1 = steps.length then (modification steps limit (logging answer)).finish progress task step
        else (modification steps limit (logging answer)).follow progress task step).map
          (Prod.map Progress.unlogged id) =
      if task.index + 1 = steps.length then (modification steps limit answer).finish progress.unlogged task step
        else (modification steps limit answer).follow progress.unlogged task step := by
    split
    · exact finish_logging progress task step
    · exact follow_logging progress task step
  have same : (modification steps limit (logging answer)).steps = (modification steps limit answer).steps := rfl
  rw [perform, perform, same]
  cases (modification steps limit answer).steps[task.index]? with
  | none => rfl
  | some step =>
      cases step with
      | root => rfl
      | current => rfl
      | descent => rfl
      | _ => exact acted _

/-- The run of a modification with a log is that of the modification, with the log left out. -/
theorem run_logging (progress : Progress (Memory × List Value)) (tasks : List Task) :
    Prod.map Progress.unlogged id ((modification steps limit (logging answer)).run progress tasks) =
      (modification steps limit answer).run progress.unlogged tasks := by
  induction progress, tasks using Plan.run.induct (modification steps limit (logging answer)) with
  | case1 progress tasks isDone =>
      have isDone' : (modification steps limit answer).isDone progress.unlogged.count = true := isDone
      rw [run_of_isDone isDone, run_of_isDone isDone']
      rfl
  | case2 progress unfinished =>
      rw [run_nil, run_nil]
      rfl
  | case3 progress unfinished task tasks wrote ih =>
      have unfinished := Bool.eq_false_iff.2 unfinished
      have unfinished' : (modification steps limit answer).isDone progress.unlogged.count = false := unfinished
      have wrote' : progress.unlogged.wrote task.location = true := wrote
      rw [run_of_wrote unfinished wrote, run_of_wrote unfinished' wrote', ih]
  | case4 progress unfinished task tasks unwritten obstacle performed =>
      have unfinished := Bool.eq_false_iff.2 unfinished
      have unwritten := Bool.eq_false_iff.2 unwritten
      have unfinished' : (modification steps limit answer).isDone progress.unlogged.count = false := unfinished
      have unwritten' : progress.unlogged.wrote task.location = false := unwritten
      have unlogged := @perform_logging _ steps limit answer progress task
      rw [performed] at unlogged
      rw [run_of_error unfinished unwritten performed,
        run_of_error unfinished' unwritten' unlogged.symm]
      rfl
  | case5 progress unfinished task tasks unwritten later more performed ih =>
      have unfinished := Bool.eq_false_iff.2 unfinished
      have unwritten := Bool.eq_false_iff.2 unwritten
      have unfinished' : (modification steps limit answer).isDone progress.unlogged.count = false := unfinished
      have unwritten' : progress.unlogged.wrote task.location = false := unwritten
      have unlogged := @perform_logging _ steps limit answer progress task
      rw [performed] at unlogged
      rw [run_of_ok unfinished unwritten performed,
        run_of_ok unfinished' unwritten' unlogged.symm, ih]
      rfl

end Plan

namespace Path

variable [RegexSyntax] (path : Path) (limit : Option Nat) (answer : Memory → Value → Memory × Option Value) (memory : Memory)
  (document : Value)

/-- The values that a modification along a path asks about, in order. -/
def asked : List Value :=
  (path.edit (.modify (logging answer)) limit (memory, []) document).memory.2

theorem runEdit_logging (log : List Value) :
    (path.runEdit (.modify (logging answer)) limit (memory, log) document).unlogged =
      path.runEdit (.modify answer) limit memory document := by
  have ran : Prod.map Progress.unlogged id
      ((path.plan (.modify (logging answer)) limit).run (.start document (memory, log)) [⟨[], 0⟩]) =
        (path.plan (.modify answer) limit).run (.start document memory) [⟨[], 0⟩] :=
    Plan.run_logging _ _
  rw [runEdit, runEdit, ← ran]
  rfl

/-- Keeping a log changes nothing else. -/
theorem edit_logging (log : List Value) :
    (path.edit (.modify (logging answer)) limit (memory, log) document).unlogged =
      path.edit (.modify answer) limit memory document := by
  rw [edit, edit]
  cases path.fragments.getLast? with
  | none => rfl
  | some target =>
      by_cases whole : path.fragments.all Fragment.isAnchor = true
      · simp only [whole, if_true, modifyWhole, logging]
        rcases answer memory document with ⟨later, _ | new⟩ <;> rfl
      · by_cases assignable : target.isAssignable = true
        · simp only [whole, assignable, if_true]
          exact runEdit_logging path limit answer memory document log
        · simp only [whole, assignable]
          rfl

end Path

end TreePath

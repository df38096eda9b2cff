import TreePath.Edit.Run

/-!
# Runs, task by task

The equations of a run, one for each way in which its next task can turn out, and what follows from them: what each step
keeps is kept by the run.
-/

namespace TreePath

namespace Plan

variable {Memory : Type} {plan : Plan Memory} {progress later : Progress Memory} {task : Task}
  {tasks more : List Task}

theorem run_of_isDone (isDone : plan.isDone progress.count = true) : plan.run progress tasks = (progress, none) := by
  rw [run.eq_def, if_pos isDone]

theorem run_nil : plan.run progress [] = (progress, none) := by
  by_cases isDone : plan.isDone progress.count = true
  · exact run_of_isDone isDone
  · rw [run.eq_def, if_neg isDone]

section Unfinished

variable (unfinished : plan.isDone progress.count = false)

include unfinished

theorem run_of_wrote (wrote : progress.wrote task.location = true) :
    plan.run progress (task :: tasks) = plan.run progress tasks := by
  rw [run.eq_def, unfinished]
  simp only [Bool.false_eq_true, if_false, wrote, dite_true]

theorem run_of_error (unwritten : progress.wrote task.location = false) {obstacle : Obstacle}
    (performed : plan.perform progress task = .error obstacle) :
    plan.run progress (task :: tasks) = (progress, some obstacle) := by
  rw [run.eq_def, unfinished]
  simp only [Bool.false_eq_true, if_false, unwritten, dite_false]
  split
  · rename_i failed
    rw [performed] at failed
    rw [Except.error.inj failed]
  · rename_i isOk
    rw [performed] at isOk
    cases isOk

theorem run_of_ok (unwritten : progress.wrote task.location = false)
    (performed : plan.perform progress task = .ok (later, more)) :
    plan.run progress (task :: tasks) = plan.run later (more ++ tasks) := by
  rw [run.eq_def, unfinished]
  simp only [Bool.false_eq_true, if_false, unwritten, dite_false]
  split
  · rename_i failed
    rw [performed] at failed
    cases failed
  · rename_i isOk
    rw [performed] at isOk
    rcases Prod.mk.inj (Except.ok.inj isOk) with ⟨rfl, rfl⟩
    rfl

end Unfinished

/-- How a run can end, judged by the tasks that are left then. -/
inductive Halts (plan : Plan Memory) (progress : Progress Memory) : List Task → Option Obstacle → Prop
  /-- As many changes as allowed have been made. -/
  | enough {tasks : List Task} (isDone : plan.isDone progress.count = true) : Halts plan progress tasks none
  | exhausted : Halts plan progress [] none
  | blocked {task : Task} {tasks : List Task} {obstacle : Obstacle} (unwritten : progress.wrote task.location = false)
      (performed : plan.perform progress task = .error obstacle) : Halts plan progress (task :: tasks) (some obstacle)

/--
What holds at the beginning of a run and is kept by each of its steps holds in the end. The property is one of the
progress and of the tasks that are left.
-/
theorem exists_halts {holds : Progress Memory → List Task → Prop}
    (drop : ∀ progress task tasks, progress.wrote task.location = true → holds progress (task :: tasks) →
      holds progress tasks)
    (perform : ∀ progress task tasks later more, progress.wrote task.location = false →
      plan.isDone progress.count = false → plan.perform progress task = .ok (later, more) →
      holds progress (task :: tasks) → holds later (more ++ tasks))
    (begins : holds progress tasks) :
    ∃ left, holds (plan.run progress tasks).1 left ∧
      plan.Halts (plan.run progress tasks).1 left (plan.run progress tasks).2 := by
  induction progress, tasks using Plan.run.induct plan with
  | case1 progress tasks isDone =>
      rw [run_of_isDone isDone]
      exact ⟨tasks, begins, .enough isDone⟩
  | case2 progress unfinished =>
      rw [run_nil]
      exact ⟨[], begins, .exhausted⟩
  | case3 progress unfinished task tasks wrote ih =>
      rw [run_of_wrote (by simpa using unfinished) wrote]
      exact ih (drop progress task tasks wrote begins)
  | case4 progress unfinished task tasks unwritten obstacle performed =>
      have unwritten : progress.wrote task.location = false := by simpa using unwritten
      rw [run_of_error (by simpa using unfinished) unwritten performed]
      exact ⟨task :: tasks, begins, .blocked unwritten performed⟩
  | case5 progress unfinished task tasks unwritten later more performed ih =>
      have unfinished : plan.isDone progress.count = false := by simpa using unfinished
      have unwritten : progress.wrote task.location = false := by simpa using unwritten
      rw [run_of_ok unfinished unwritten performed]
      exact ih (perform progress task tasks later more unwritten unfinished performed begins)

/-- No task is left after a run without a limit that meets no obstacle. -/
theorem run_induction {holds : Progress Memory → List Task → Prop}
    (drop : ∀ progress task tasks, progress.wrote task.location = true → holds progress (task :: tasks) →
      holds progress tasks)
    (perform : ∀ progress task tasks later more, progress.wrote task.location = false →
      plan.perform progress task = .ok (later, more) → holds progress (task :: tasks) →
      holds later (more ++ tasks))
    (begins : holds progress tasks) :
    ∃ left, holds (plan.run progress tasks).1 left ∧
      (plan.limit = none → (plan.run progress tasks).2 = none → left = []) := by
  rcases exists_halts drop (fun progress task tasks later more unwritten _ => perform progress task tasks later more unwritten)
    begins with ⟨left, stillHolds, halts⟩
  refine ⟨left, stillHolds, ?_⟩
  intro unlimited succeeds
  rw [succeeds] at halts
  cases halts with
  | enough isDone =>
      rw [Plan.isDone, unlimited] at isDone
      cases isDone
  | exhausted => rfl

end Plan

end TreePath

import TreePath.Edit
import TreePath.Proofs.Edit.Running

/-!
# The turns of an edit

An edit is a loop that takes one task in each turn. `Plan.loop` is that loop, cut off after a number of turns, with nothing
assumed about how many it needs. `exists_loop_eq_run` says that from every state some number of turns is enough, whatever is
written and whatever a modification answers, and that the loop returns then what the edit does.
-/

namespace TreePath

variable {Memory : Type}

namespace Plan

/--
What the loop of an edit returns, if it does so within a number of turns: what has been done, and the obstacle that ended
the edit, if one did.
-/
def loop (plan : Plan Memory) : Nat → State Memory → Option (Progress Memory × Option Obstacle)
  | 0, _ => none
  | turns + 1, ⟨progress, tasks⟩ =>
    match tasks with
    | [] => some (progress, none)
    | task :: tasks =>
      if plan.isDone progress.count then some (progress, none)
      else if progress.wrote task.location then plan.loop turns ⟨progress, tasks⟩
      else match plan.perform progress task with
        | .error obstacle => some (progress, some obstacle)
        | .ok (later, more) => plan.loop turns ⟨later, more ++ tasks⟩

variable {plan : Plan Memory} {progress later : Progress Memory} {task : Task} {tasks more : List Task} {turns : Nat}

theorem loop_of_isDone (isDone : plan.isDone progress.count = true) :
    plan.loop (turns + 1) ⟨progress, tasks⟩ = some (progress, none) := by
  cases tasks with
  | nil => rfl
  | cons task tasks => rw [loop, if_pos isDone]

section Unfinished

variable (unfinished : plan.isDone progress.count = false)

include unfinished

theorem loop_of_wrote (wrote : progress.wrote task.location = true) :
    plan.loop (turns + 1) ⟨progress, task :: tasks⟩ = plan.loop turns ⟨progress, tasks⟩ := by
  rw [loop, unfinished, wrote]
  rfl

theorem loop_of_error (unwritten : progress.wrote task.location = false) {obstacle : Obstacle}
    (performed : plan.perform progress task = .error obstacle) :
    plan.loop (turns + 1) ⟨progress, task :: tasks⟩ = some (progress, some obstacle) := by
  rw [loop, unfinished, unwritten, performed]
  rfl

theorem loop_of_ok (unwritten : progress.wrote task.location = false)
    (performed : plan.perform progress task = .ok (later, more)) :
    plan.loop (turns + 1) ⟨progress, task :: tasks⟩ = plan.loop turns ⟨later, more ++ tasks⟩ := by
  rw [loop, unfinished, unwritten, performed]
  rfl

end Unfinished

/-- The states of an edit do not go on for ever, by `acc_next`. -/
theorem not_forall_next (plan : Plan Memory) (states : Nat → State Memory) :
    ¬ ∀ turn, plan.Next (states (turn + 1)) (states turn) := by
  intro goesOn
  suffices never : ∀ state, Acc plan.Next state → ∀ turn, states turn ≠ state from
    never (states 0) (plan.acc_next _) 0 rfl
  intro state accessible
  induction accessible with
  | intro state _ ih =>
      rintro turn rfl
      exact ih (states (turn + 1)) (goesOn turn) (turn + 1) rfl

/-- From every state the loop returns after finitely many turns, by induction on the states that can still come. -/
theorem exists_loop_eq_run (plan : Plan Memory) (progress : Progress Memory) (tasks : List Task) :
    ∃ turns, ∀ others, plan.loop (turns + others) ⟨progress, tasks⟩ = some (plan.run progress tasks) := by
  induction progress, tasks using Plan.run.induct plan with
  | case1 progress tasks isDone =>
      refine ⟨1, fun others => ?_⟩
      rw [Nat.add_comm, loop_of_isDone isDone, run_of_isDone isDone]
  | case2 progress _ =>
      refine ⟨1, fun others => ?_⟩
      rw [Nat.add_comm, run_nil]
      rfl
  | case3 progress unfinished task tasks wrote ih =>
      have unfinished := Bool.eq_false_iff.2 unfinished
      rcases ih with ⟨turns, returns⟩
      refine ⟨turns + 1, fun others => ?_⟩
      rw [Nat.add_right_comm, loop_of_wrote unfinished wrote, run_of_wrote unfinished wrote, returns]
  | case4 progress unfinished task tasks unwritten obstacle performed =>
      have unfinished := Bool.eq_false_iff.2 unfinished
      have unwritten := Bool.eq_false_iff.2 unwritten
      refine ⟨1, fun others => ?_⟩
      rw [Nat.add_comm, loop_of_error unfinished unwritten performed, run_of_error unfinished unwritten performed]
  | case5 progress unfinished task tasks unwritten later more performed ih =>
      have unfinished := Bool.eq_false_iff.2 unfinished
      have unwritten := Bool.eq_false_iff.2 unwritten
      rcases ih with ⟨turns, returns⟩
      refine ⟨turns + 1, fun others => ?_⟩
      rw [Nat.add_right_comm, loop_of_ok unfinished unwritten performed, run_of_ok unfinished unwritten performed, returns]

end Plan

namespace Path

/--
The loop of an edit returns after finitely many turns, for every path, action, limit and document: with the number of
changes, or with the obstacle that it met. That is what the edit leaves behind. No sequence of states of the loop goes on
for ever.
-/
theorem edit_terminates [RegexSyntax] (path : Path) (action : Action Memory) (limit : Option Nat) (memory : Memory)
    (document : Value) :
    (∃ turns progress obstacle,
      (∀ others, (path.plan action limit).loop (turns + others) ⟨.start document memory, [⟨[], 0⟩]⟩ =
        some (progress, obstacle)) ∧
      path.runEdit action limit memory document = ⟨progress.document, progress.memory,
        match obstacle with
        | some obstacle => .error (.ofObstacle path obstacle)
        | none => .ok progress.count⟩) ∧
    ∀ states : Nat → Plan.State Memory, ∃ turn, ¬ (path.plan action limit).Next (states (turn + 1)) (states turn) := by
  constructor
  · rcases Plan.exists_loop_eq_run (path.plan action limit) (.start document memory) [⟨[], 0⟩] with ⟨turns, returns⟩
    exact ⟨turns, _, _, returns, rfl⟩
  · intro states
    exact Classical.not_forall.1 (Plan.not_forall_next (path.plan action limit) states)

end Path

end TreePath

import TreePath.Proofs.Edit.First

/-!
# The calls of a modification

A modification calls a function on one value after the other. `Plan.calls` are these calls along a run, each with
the location of the value and the answer. `calls_answered` says that they are what the run does with its
memory: the memory after the run is the one after the calls.
-/

namespace TreePath

variable {Memory : Type}

/-- A call of a modification: the value, where it stands, and the answer to it. -/
structure Call where
  location : Location
  value : Value
  reply : Option Value

/-- Calls lead from one memory to another, one after the other, and have the answers that are given. -/
inductive Answered (answer : Memory → Value → Memory × Option Value) : Memory → List Call → Memory → Prop
  | nil (memory : Memory) : Answered answer memory [] memory
  | cons {memory next last : Memory} {call : Call} {calls : List Call}
      (replied : answer memory call.value = (next, call.reply)) (others : Answered answer next calls last) :
      Answered answer memory (call :: calls) last

theorem Answered.append {answer : Memory → Value → Memory × Option Value} {memory next last : Memory}
    {front back : List Call} (first : Answered answer memory front next) (second : Answered answer next back last) :
    Answered answer memory (front ++ back) last := by
  induction first with
  | nil => exact second
  | cons replied _ ih => exact .cons replied (ih second)

namespace Plan

/-- The call about a child of a location, if there is the child. -/
def call? (plan : Plan Memory) (progress : Progress Memory) (location : Location) (segment : Segment) : Option Call :=
  (progress.document.at? (location ++ [segment])).map fun old =>
    ⟨location ++ [segment], old, (plan.action.reply progress.memory old).2⟩

def callAll (plan : Plan Memory) (progress : Progress Memory) (location : Location) : List Segment → List Call
  | [] => []
  | segment :: segments =>
    if plan.isDone progress.count then []
    else (plan.call? progress location segment).toList ++
      plan.callAll (plan.change progress location segment) location segments

/-- The calls about the children that the last step picks. There are none about a task with another step. -/
def taskCalls (plan : Plan Memory) (progress : Progress Memory) (task : Task) : List Call :=
  match plan.steps[task.index]?, progress.document.at? task.location with
  | some step, some node =>
    if task.index + 1 = plan.steps.length ∧ step.isAnchor = false ∧ step.isDescent = false then
      match plan.pick task.index progress.document node step with
      | .ok segments => plan.callAll progress task.location segments
      | .error _ => []
    else []
  | _, _ => []

/-- The calls of a run, in order. -/
def calls (plan : Plan Memory) (progress : Progress Memory) (tasks : List Task) : List Call :=
  if plan.isDone progress.count then []
  else match tasks with
    | [] => []
    | task :: tasks =>
      if _unwritten : progress.wrote task.location then plan.calls progress tasks
      else match _performed : plan.perform progress task with
        | .error _ => []
        | .ok (later, more) => plan.taskCalls progress task ++ plan.calls later (more ++ tasks)
termination_by plan.wellFounded_next.wrap (⟨progress, tasks⟩ : State Memory)
decreasing_by
  · show plan.Next _ _
    simp [Next, next?, _unwritten]
  · show plan.Next _ _
    simp [Next, next?, _unwritten, _performed]

section Equations

variable {plan : Plan Memory} {progress later : Progress Memory} {task : Task} {tasks more : List Task}

theorem calls_of_isDone (isDone : plan.isDone progress.count = true) : plan.calls progress tasks = [] := by
  rw [calls.eq_def, if_pos isDone]

theorem calls_nil : plan.calls progress [] = [] := by
  rw [calls.eq_def]
  split <;> rfl

variable (unfinished : plan.isDone progress.count = false)

include unfinished

theorem calls_of_wrote (wrote : progress.wrote task.location = true) :
    plan.calls progress (task :: tasks) = plan.calls progress tasks := by
  rw [calls.eq_def, unfinished]
  simp only [Bool.false_eq_true, if_false, wrote, dite_true]

theorem calls_of_error (unwritten : progress.wrote task.location = false) {obstacle : Obstacle}
    (performed : plan.perform progress task = .error obstacle) : plan.calls progress (task :: tasks) = [] := by
  rw [calls.eq_def, unfinished]
  simp only [Bool.false_eq_true, if_false, unwritten, dite_false]
  split
  · rfl
  · rename_i isOk
    rw [performed] at isOk
    cases isOk

theorem calls_of_ok (unwritten : progress.wrote task.location = false)
    (performed : plan.perform progress task = .ok (later, more)) :
    plan.calls progress (task :: tasks) = plan.taskCalls progress task ++ plan.calls later (more ++ tasks) := by
  rw [calls.eq_def, unfinished]
  simp only [Bool.false_eq_true, if_false, unwritten, dite_false]
  split
  · rename_i failed
    rw [performed] at failed
    cases failed
  · rename_i isOk
    rw [performed] at isOk
    rcases Prod.mk.inj (Except.ok.inj isOk) with ⟨rfl, rfl⟩
    rfl

end Equations

/-! ## What the calls do to the memory -/

section Answers

variable {plan : Plan Memory} {answer : Memory → Value → Memory × Option Value} {progress later : Progress Memory}
  {task : Task} {tasks more : List Task}

theorem change_answered (modifies : plan.action = .modify answer) (location : Location) (segment : Segment) :
    Answered answer progress.memory (plan.call? progress location segment).toList
      (plan.change progress location segment).memory := by
  cases found : progress.document.at? (location ++ [segment]) with
  | none =>
      simp only [call?, change, modifies, found, Option.map_none, Option.toList_none]
      exact .nil _
  | some old =>
      simp only [call?, change, modifies, found, Option.map_some, Option.toList_some, Action.reply]
      rcases replied : answer progress.memory old with ⟨memory, _ | new⟩
      · exact .cons replied (.nil memory)
      · exact .cons replied (.nil memory)

theorem changeAll_answered (modifies : plan.action = .modify answer) (location : Location)
    (segments : List Segment) :
    Answered answer progress.memory (plan.callAll progress location segments)
      (plan.changeAll progress location segments).memory := by
  induction segments generalizing progress with
  | nil => exact .nil _
  | cons segment segments ih =>
      rw [callAll, changeAll]
      by_cases isDone : plan.isDone progress.count = true
      · rw [if_pos isDone, if_pos isDone]
        exact .nil _
      · rw [if_neg isDone, if_neg isDone]
        exact (change_answered modifies location segment).append ih

theorem taskCalls_eq_nil {step : Step} (here : plan.steps[task.index]? = some step)
    (other : ¬ (task.index + 1 = plan.steps.length ∧ step.isAnchor = false ∧ step.isDescent = false)) :
    plan.taskCalls progress task = [] := by
  rw [taskCalls, here]
  cases progress.document.at? task.location with
  | none => rfl
  | some node => simp only [if_neg other]

/-- There are calls about a task only if its step is the last one, which is then finished with. -/
theorem taskCalls_cases (performed : plan.perform progress task = .ok (later, more)) :
    (plan.taskCalls progress task = [] ∧ ∃ document, later = { progress with document := document }) ∨
      ∃ step node segments, plan.steps[task.index]? = some step ∧ task.index + 1 = plan.steps.length ∧
        step.isDescent = false ∧ progress.document.at? task.location = some node ∧
        plan.pick task.index progress.document node step = .ok segments ∧
        plan.taskCalls progress task = plan.callAll progress task.location segments ∧
        later = plan.changeAll progress task.location segments ∧ more = [] := by
  cases turn_of_perform performed with
  | beyond here =>
      left
      rw [taskCalls, here]
      exact ⟨rfl, _, rfl⟩
  | root here => exact .inl ⟨taskCalls_eq_nil here (by simp [Fragment.isAnchor]), _, rfl⟩
  | current here => exact .inl ⟨taskCalls_eq_nil here (by simp [Fragment.isAnchor]), _, rfl⟩
  | descent here => exact .inl ⟨taskCalls_eq_nil here (by simp [Fragment.isDescent]), _, rfl⟩
  | absent here nothing =>
      left
      rw [taskCalls, here, nothing]
      exact ⟨rfl, _, rfl⟩
  | follow here plain walks inner => exact .inl ⟨taskCalls_eq_nil here (by omega), _, rfl⟩
  | @finish step node segments here plain walks isLast found picked =>
      right
      refine ⟨step, node, segments, here, isLast, walks, found, picked, ?_, rfl, rfl⟩
      rw [taskCalls, here, found]
      simp only [if_pos (And.intro isLast (And.intro plain walks)), picked]

theorem calls_answered (modifies : plan.action = .modify answer) (progress : Progress Memory) (tasks : List Task) :
    Answered answer progress.memory (plan.calls progress tasks) (plan.run progress tasks).1.memory := by
  induction progress, tasks using Plan.run.induct plan with
  | case1 progress tasks isDone =>
      rw [calls_of_isDone isDone, run_of_isDone isDone]
      exact .nil _
  | case2 progress _ =>
      rw [calls_nil, run_nil]
      exact .nil _
  | case3 progress unfinished task tasks wrote ih =>
      have unfinished := Bool.eq_false_iff.2 unfinished
      rw [calls_of_wrote unfinished wrote, run_of_wrote unfinished wrote]
      exact ih
  | case4 progress unfinished task tasks unwritten obstacle performed =>
      have unfinished := Bool.eq_false_iff.2 unfinished
      have unwritten := Bool.eq_false_iff.2 unwritten
      rw [calls_of_error unfinished unwritten performed, run_of_error unfinished unwritten performed]
      exact .nil _
  | case5 progress unfinished task tasks unwritten later more performed ih =>
      have unfinished := Bool.eq_false_iff.2 unfinished
      have unwritten := Bool.eq_false_iff.2 unwritten
      rw [calls_of_ok unfinished unwritten performed, run_of_ok unfinished unwritten performed]
      apply Answered.append _ ih
      rcases taskCalls_cases performed with ⟨noCalls, document, rfl⟩ |
        ⟨step, node, segments, -, -, -, -, -, areCalls, rfl, -⟩
      · rw [noCalls]
        exact .nil _
      · rw [areCalls]
        exact changeAll_answered modifies task.location segments

end Answers

end Plan

namespace Path

variable [RegexSyntax] (path : Path) (limit : Option Nat) (answer : Memory → Value → Memory × Option Value) (memory : Memory)
  (document : Value)

def calls : List Call :=
  (path.plan (.modify answer) limit).calls (.start document memory) [⟨[], 0⟩]

theorem calls_answered (assignable : path.isAssignable? = some true) :
    Answered answer memory (path.calls limit answer memory document)
      (path.edit (.modify answer) limit memory document).memory := by
  rw [edit_of_isAssignable assignable, runEdit, calls]
  exact @Plan.calls_answered _ (path.plan (.modify answer) limit) answer rfl (.start document memory) [⟨[], 0⟩]

end Path

end TreePath

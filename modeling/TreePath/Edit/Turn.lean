import TreePath.Edit.Basic

/-!
# How a task turns out

`Turn` says all that working off a task can do if it meets no obstacle, and `Stop` where it meets one. `Change` says the same
of one child that the last step picks. What is said about single tasks and children follows from these, by their cases.
-/

namespace TreePath

namespace Plan

variable {Memory : Type} {plan : Plan Memory} {progress later : Progress Memory} {task : Task} {more : List Task}
  {obstacle : Obstacle}

/-! ## Changing children -/

/-- What is done to one child: a value is stored there, it is removed, or nothing but the memory is new. -/
inductive Change (plan : Plan Memory) (progress : Progress Memory) (location : Location) (segment : Segment) :
    Progress Memory → Prop
  | store (memory : Memory) (value : Value) :
      Change plan progress location segment (plan.store { progress with memory := memory } location segment value)
  | remove : Change plan progress location segment
      { progress with
        document := progress.document.updateAt (Value.remove · segment) location
        count := progress.count + 1 }
  | memory (memory : Memory) : Change plan progress location segment { progress with memory := memory }

theorem change_of_eq {location : Location} {segment : Segment}
    (changed : plan.change progress location segment = later) : plan.Change progress location segment later := by
  rw [← changed, change]
  split
  · exact .store progress.memory _
  · split
    · exact .remove
    · exact .memory progress.memory
  · split
    · split
      · exact .store _ _
      · exact .memory _
    · exact .memory progress.memory

/-- What the change of each child keeps is kept when as many of them are changed as may be. -/
theorem changeAll_induction {motive : Progress Memory → Prop} {location : Location} {segments : List Segment}
    (begins : motive progress)
    (change : ∀ segment ∈ segments, ∀ progress, motive progress → motive (plan.change progress location segment)) :
    motive (plan.changeAll progress location segments) := by
  induction segments generalizing progress with
  | nil => exact begins
  | cons segment segments ih =>
      rcases List.forall_mem_cons.1 change with ⟨here, others⟩
      rw [changeAll]
      split
      · exact begins
      · exact ih (here progress begins) others

/-! ## One step -/

theorem perform_of_plain {step : Step} (here : plan.steps[task.index]? = some step) (plain : step.isAnchor = false)
    (walks : step.isDescent = false) :
    plan.perform progress task =
      if task.index + 1 = plan.steps.length then plan.finish progress task step
      else plan.follow progress task step := by
  rw [perform, here]
  cases step with
  | root => cases plain
  | current => cases plain
  | descent => cases walks
  | _ => rfl

/-! ## Without an obstacle -/

/-- What is done when a task meets no obstacle, and the tasks that come of it. -/
inductive Turn (plan : Plan Memory) (progress : Progress Memory) (task : Task) : Progress Memory → List Task → Prop
  /-- There is no step left. -/
  | beyond (here : plan.steps[task.index]? = none) : Turn plan progress task progress []
  | root (here : plan.steps[task.index]? = some .root) : Turn plan progress task progress [⟨[], task.index + 1⟩]
  | current (here : plan.steps[task.index]? = some .current) :
      Turn plan progress task progress [⟨task.location, task.index + 1⟩]
  | descent (here : plan.steps[task.index]? = some .descent) :
      Turn plan progress task progress (descendTasks progress.document task)
  /-- There is no value any more from which to go on. -/
  | absent {step : Step} (here : plan.steps[task.index]? = some step)
      (nothing : progress.document.at? task.location = none) : Turn plan progress task progress []
  | finish {step : Step} {node : Value} {segments : List Segment} (here : plan.steps[task.index]? = some step)
      (plain : step.isAnchor = false) (walks : step.isDescent = false) (isLast : task.index + 1 = plan.steps.length)
      (found : progress.document.at? task.location = some node)
      (picked : plan.pick task.index progress.document node step = .ok segments) :
      Turn plan progress task (plan.changeAll progress task.location segments) []
  | follow {step : Step} {node : Value} {segments : List Segment} {ways : List (Segment × Option Value)}
      (here : plan.steps[task.index]? = some step) (plain : step.isAnchor = false) (walks : step.isDescent = false)
      (inner : task.index + 1 < plan.steps.length) (found : progress.document.at? task.location = some node)
      (picked : plan.pick task.index progress.document node step = .ok segments)
      (approached : plan.approachAll task.index step node segments = .ok ways) :
      Turn plan progress task { progress with document := create progress.document task.location ways }
        (ways.map fun way => ⟨task.location ++ [way.1], task.index + 1⟩)

theorem turn_of_perform (performed : plan.perform progress task = .ok (later, more)) :
    plan.Turn progress task later more := by
  cases here : plan.steps[task.index]? with
  | none =>
      rw [perform, here] at performed
      rcases Prod.mk.inj (Except.ok.inj performed) with ⟨rfl, rfl⟩
      exact .beyond here
  | some step =>
      by_cases plain : step.isAnchor = false ∧ step.isDescent = false
      · have within : task.index < plan.steps.length := (List.getElem?_eq_some_iff.1 here).1
        rw [perform_of_plain here plain.1 plain.2, finish, follow] at performed
        cases found : progress.document.at? task.location with
        | none =>
            rw [found] at performed
            split at performed <;> rcases Prod.mk.inj (Except.ok.inj performed) with ⟨rfl, rfl⟩ <;>
              exact .absent here found
        | some node =>
            rw [found] at performed
            cases picked : plan.pick task.index progress.document node step with
            | error obstacle => split at performed <;> simp [picked, bind, Except.bind] at performed
            | ok segments =>
                split at performed
                · rename_i isLast
                  simp only [picked, bind, Except.bind] at performed
                  rcases Prod.mk.inj (Except.ok.inj performed) with ⟨rfl, rfl⟩
                  exact .finish here plain.1 plain.2 isLast found picked
                · rename_i notLast
                  cases approached : plan.approachAll task.index step node segments with
                  | error obstacle => simp [picked, approached, bind, Except.bind] at performed
                  | ok ways =>
                      simp only [picked, approached, bind, Except.bind] at performed
                      rcases Prod.mk.inj (Except.ok.inj performed) with ⟨rfl, rfl⟩
                      exact .follow here plain.1 plain.2 (by omega) found picked approached
      · rw [perform, here] at performed
        cases step with
        | root =>
            rcases Prod.mk.inj (Except.ok.inj performed) with ⟨rfl, rfl⟩
            exact .root here
        | current =>
            rcases Prod.mk.inj (Except.ok.inj performed) with ⟨rfl, rfl⟩
            exact .current here
        | descent =>
            rcases Prod.mk.inj (Except.ok.inj performed) with ⟨rfl, rfl⟩
            exact .descent here
        | _ => exact absurd ⟨rfl, rfl⟩ plain

/-! ## With an obstacle -/

/-- Where a task meets an obstacle: when children are picked, or on the way to one that is picked. -/
inductive Stop (plan : Plan Memory) (progress : Progress Memory) (task : Task) (obstacle : Obstacle) : Prop
  | pick {step : Step} {node : Value} (here : plan.steps[task.index]? = some step)
      (found : progress.document.at? task.location = some node)
      (failed : plan.pick task.index progress.document node step = .error obstacle)
  | approach {step : Step} {node : Value} {segments : List Segment} (here : plan.steps[task.index]? = some step)
      (inner : task.index + 1 < plan.steps.length) (found : progress.document.at? task.location = some node)
      (picked : plan.pick task.index progress.document node step = .ok segments)
      (failed : plan.approachAll task.index step node segments = .error obstacle)

theorem stop_of_perform (failed : plan.perform progress task = .error obstacle) :
    plan.Stop progress task obstacle := by
  cases here : plan.steps[task.index]? with
  | none =>
      rw [perform, here] at failed
      cases failed
  | some step =>
      by_cases plain : step.isAnchor = false ∧ step.isDescent = false
      · have within : task.index < plan.steps.length := (List.getElem?_eq_some_iff.1 here).1
        rw [perform_of_plain here plain.1 plain.2, finish, follow] at failed
        cases found : progress.document.at? task.location with
        | none =>
            rw [found] at failed
            split at failed <;> cases failed
        | some node =>
            rw [found] at failed
            cases picked : plan.pick task.index progress.document node step with
            | error other =>
                simp only [picked, bind, Except.bind, ite_self] at failed
                rw [Except.error.inj failed] at picked
                exact .pick here found picked
            | ok segments =>
                split at failed
                · simp [picked, bind, Except.bind] at failed
                · cases approached : plan.approachAll task.index step node segments with
                  | ok ways => simp [picked, approached, bind, Except.bind] at failed
                  | error other =>
                      simp only [picked, approached, bind, Except.bind] at failed
                      rw [Except.error.inj failed] at approached
                      exact .approach here (by omega) found picked approached
      · rw [perform, here] at failed
        cases step with
        | root => cases failed
        | current => cases failed
        | descent => cases failed
        | _ => exact absurd ⟨rfl, rfl⟩ plain

end Plan

end TreePath

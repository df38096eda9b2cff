import TreePath.Edit.Termination

/-!
# Running an edit

An edit works off its tasks until none is left, as many changes as allowed have been made, or an obstacle ends
it. What has been changed up to then stays changed.
-/

namespace TreePath

namespace Plan

variable {Memory : Type}

/-- Works off tasks. The result is what has been done in the end, and the obstacle that ended the edit, if one did. -/
def run (plan : Plan Memory) (progress : Progress Memory) (tasks : List Task) :
    Progress Memory × Option Obstacle :=
  if plan.isDone progress.count then (progress, none)
  else match tasks with
    | [] => (progress, none)
    | task :: tasks =>
      if _unwritten : progress.wrote task.location then plan.run progress tasks
      else match _performed : plan.perform progress task with
        | .error obstacle => (progress, some obstacle)
        | .ok (later, more) => plan.run later (more ++ tasks)
termination_by plan.wellFounded_next.wrap (⟨progress, tasks⟩ : State Memory)
decreasing_by
  · show plan.Next _ _
    simp [Next, next?, _unwritten]
  · show plan.Next _ _
    simp [Next, next?, _unwritten, _performed]

end Plan

end TreePath

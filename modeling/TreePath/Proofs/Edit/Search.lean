import TreePath.Proofs.Edit.Logging
import TreePath.Proofs.Edit.Outcome
import TreePath.Proofs.Query.Sites

/-!
# Edits look for what the query finds

As long as an edit has changed nothing, its tasks stand for what the query finds in the document. `Task.sites` says
what that is for one task, and `perform_sites` that the tasks which come of a task stand for the same sites in the
same order. So an edit that stops at its first change, a deletion or a modification, goes through the sites of the
path one after the other, until there is a reply to one of them: `run_consults`.
-/

namespace TreePath

/-! ## The children that a step picks -/

/-- The segments of the children that a step picks from a node of a document, in order. -/
def Step.choices (root node : Value) : Step → List Segment
  | .filter test => (node.segments.zip node.children).filterMap fun (segment, child) =>
      if test child root then some segment else none
  | step => step.segments node

theorem Plan.pick_eq_choices {Memory : Type} {plan : Plan Memory} {index : Nat} {root node : Value} {step : Step}
    {segments : List Segment} (picked : plan.pick index root node step = .ok segments) :
    segments = step.choices root node := by
  cases step with
  | filter test => exact (Except.ok.inj picked).symm
  | _ => exact pick_eq_ok rfl picked

namespace Step

variable {document : Value} {site : Site} {step : Step}

theorem sites_eq_choices (wellFormed : site.value.WellFormed) (plain : step.isAnchor = false)
    (walks : step.isDescent = false) :
    step.sites document site = (step.choices document site.value).filterMap site.child? := by
  cases step with
  | root => cases plain
  | current => cases plain
  | descent => cases walks
  | wildcard => exact Site.children_eq wellFormed
  | filter test =>
      have each : ∀ pair ∈ site.value.segments.zip site.value.children,
          site.child? pair.1 = some ⟨site.location ++ [pair.1], pair.2⟩ := by
        rintro ⟨segment, child⟩ paired
        exact Site.child?_eq_some.2 ⟨rfl, wellFormed.child?_of_mem_zip paired⟩
      rw [sites, choices, Site.children, List.filterMap_filterMap, List.filter_map, ← List.filterMap_eq_map,
        ← List.filterMap_eq_filter, List.filterMap_filterMap]
      apply List.filterMap_congr
      rintro ⟨segment, child⟩ paired
      by_cases passes : test child document = true
      · simp [passes, each _ paired]
      · simp [passes]
  | _ => rfl

theorem sites_eq_nil (plain : step.isAnchor = false) (walks : step.isDescent = false)
    (closed : site.value.isContainer = false) : step.sites document site = [] := by
  rcases site with ⟨location, node⟩
  have noChildren : (Site.mk location node).children = [] := by
    cases node with
    | array items => cases closed
    | object members => cases closed
    | _ => rfl
  have noSegments (other : Step) : other.segments node = [] := by
    apply List.eq_nil_iff_forall_not_mem.2
    intro segment isIn
    have container : node.isContainer = true := isContainer_of_mem_segments isIn
    rw [container] at closed
    cases closed
  cases step with
  | root => cases plain
  | current => cases plain
  | descent => cases walks
  | wildcard => exact noChildren
  | filter test => rw [sites, noChildren, List.filter_nil]
  | _ => simp only [sites, noSegments, List.filterMap_nil]

end Step

theorem findSites_eq_nil {document : Value} {steps : List Step} {site : Site}
    (plain : ∀ step ∈ steps, step.isAnchor = false)
    (assignable : ∀ last ∈ steps.getLast?, last.isAssignable = true) (closed : site.value.isContainer = false) :
    findSites document steps site = [] := by
  induction steps with
  | nil => rfl
  | cons step steps ih =>
      cases steps with
      | nil =>
          rcases isDescent_of_isAssignable (assignable step rfl) with ⟨walks, isPlain⟩
          rw [findSites_last document site (ne_descent walks)]
          exact Step.sites_eq_nil isPlain walks closed
      | cons next rest =>
          have more := List.cons_ne_nil next rest
          have pending : findSites document (next :: rest) site = [] := by
            apply ih
            · exact fun other member => plain other (List.mem_cons_of_mem _ member)
            · rwa [List.getLast?_cons_cons] at assignable
          by_cases walks : step.isDescent = true
          · have descent : step = .descent := by
              cases step with
              | descent => rfl
              | _ => cases walks
            have noChildren : site.children = [] := by
              have empty := congrArg List.length site.map_value_children
              cases isValue : site.value with
              | array items => simp [isValue, Value.isContainer] at closed
              | object members => simp [isValue, Value.isContainer] at closed
              | _ => simpa [isValue, Value.children] using empty
            rw [descent, findSites_descent document site more, pending, noChildren]
            rfl
          · have walks := Bool.eq_false_iff.2 walks
            rw [findSites_cons document site (ne_descent walks) more,
              Step.sites_eq_nil (plain step List.mem_cons_self) walks closed]
            rfl

/-- What steps find from the location of a task on. -/
def Task.sites (document : Value) (steps : List Step) (task : Task) : List Site :=
  match document.at? task.location with
  | none => []
  | some node => findSites document (steps.drop task.index) ⟨task.location, node⟩

theorem Task.sites_eq {document node : Value} {steps : List Step} {location : Location} {index : Nat}
    (stands : document.at? location = some node) :
    Task.sites document steps ⟨location, index⟩ = findSites document (steps.drop index) ⟨location, node⟩ := by
  rw [sites, stands]

namespace Plan

variable {Memory : Type} {plan : Plan Memory} {progress later : Progress Memory} {task : Task} {more : List Task}

/-! ## Tasks before anything is changed -/

theorem approachAll_eq_ok {index : Nat} {step : Step} {node : Value} {segments : List Segment}
    {ways : List (Segment × Option Value)} (keeps : plan.action.isSet = false)
    (approached : plan.approachAll index step node segments = .ok ways) :
    ways = (segments.filter fun segment => (node.child? segment).any Value.isContainer).map (·, none) := by
  induction segments generalizing ways with
  | nil => exact (Except.ok.inj approached).symm
  | cons segment segments ih =>
      rw [approachAll] at approached
      rcases bind_eq_ok.1 approached with ⟨first, isFirst, approached⟩
      rcases bind_eq_ok.1 approached with ⟨others, areOthers, approached⟩
      rw [← Except.ok.inj approached, ih areOthers, List.filter_cons]
      simp only [approach, keeps, Bool.and_false, Bool.false_eq_true, if_false] at isFirst
      cases found : node.child? segment with
      | none =>
          simp only [found] at isFirst
          rw [← Except.ok.inj isFirst]
          rfl
      | some child =>
          simp only [found] at isFirst
          by_cases container : child.isContainer = true
          · rw [if_pos container] at isFirst
            rw [← Except.ok.inj isFirst, Option.any_some, container]
            rfl
          · rw [if_neg container] at isFirst
            have nothing : first = [] := by
              split at isFirst
              · exact (Except.ok.inj isFirst).symm
              · split at isFirst
                · cases isFirst
                · exact (Except.ok.inj isFirst).symm
            rw [nothing, Option.any_some, Bool.eq_false_iff.2 container]
            rfl

theorem follow_of_keeps {step : Step} {node : Value} {segments : List Segment} {ways : List (Segment × Option Value)}
    (keeps : plan.action.isSet = false) (picked : plan.pick task.index progress.document node step = .ok segments)
    (approached : plan.approachAll task.index step node segments = .ok ways) :
    ({ progress with document := create progress.document task.location ways } : Progress Memory) = progress ∧
      (ways.map fun way => (⟨task.location ++ [way.1], task.index + 1⟩ : Task)) =
        ((step.choices progress.document node).filter fun segment =>
          (node.child? segment).any Value.isContainer).map fun segment =>
            ⟨task.location ++ [segment], task.index + 1⟩ := by
  rw [pick_eq_choices picked] at approached
  rw [approachAll_eq_ok keeps approached, List.map_map]
  refine ⟨?_, rfl⟩
  rw [create_eq_self]
  intro segment created member
  rcases List.mem_map.1 member with ⟨_, _, same⟩
  cases same

/-- The tasks for the containers among the children stand for what the next steps find from all children. -/
theorem flatMap_sites_children {document node : Value} (segments : List Segment)
    (stands : document.at? task.location = some node)
    (plain : ∀ step ∈ plan.steps.drop (task.index + 1), step.isAnchor = false)
    (assignable : ∀ last ∈ (plan.steps.drop (task.index + 1)).getLast?, last.isAssignable = true) :
    ((segments.filter fun segment => (node.child? segment).any Value.isContainer).map fun segment =>
        (⟨task.location ++ [segment], task.index + 1⟩ : Task)).flatMap (Task.sites document plan.steps) =
      (segments.filterMap (Site.child? ⟨task.location, node⟩)).flatMap
        (findSites document (plan.steps.drop (task.index + 1))) := by
  induction segments with
  | nil => rfl
  | cons segment segments ih =>
      rw [List.filter_cons, List.filterMap_cons, Site.child?]
      cases found : node.child? segment with
      | none => exact ih
      | some child =>
          rw [Option.any_some, Option.map_some, List.flatMap_cons, ← ih]
          by_cases container : child.isContainer = true
          · have isChild : document.at? (task.location ++ [segment]) = some child := by
              rw [Value.at?_concat, stands, Option.bind_some, found]
            rw [if_pos container, List.map_cons, List.flatMap_cons,
              Task.sites_eq isChild]
          · have closed := Bool.eq_false_iff.2 container
            rw [if_neg container, findSites_eq_nil plain assignable closed, List.nil_append]

/-- The tasks of a descent stand for what it finds: for the node itself, and then for the containers right below it. -/
theorem flatMap_sites_descendTasks {document node : Value} (wellFormed : document.WellFormed)
    (stands : document.at? task.location = some node) (here : plan.steps[task.index]? = some .descent)
    (more : plan.steps.drop (task.index + 1) ≠ []) :
    (descendTasks document task).flatMap (Task.sites document plan.steps) = task.sites document plan.steps := by
  have below : ∀ pair ∈ node.segments.zip node.children,
      Task.sites document plan.steps ⟨task.location ++ [pair.1], task.index⟩ =
        findSites document (plan.steps.drop task.index) ⟨task.location ++ [pair.1], pair.2⟩ := by
    rintro ⟨segment, child⟩ paired
    have found := (wellFormed.at? stands).child?_of_mem_zip paired
    have isChild : document.at? (task.location ++ [segment]) = some child := by
      rw [Value.at?_concat, stands, Option.bind_some, found]
    exact Task.sites_eq isChild
  have isDrop := drop_eq_cons here
  rw [isDrop] at below
  rw [descendTasks, List.flatMap_cons, Task.sites_eq stands,
    Task.sites_eq stands, isDrop, findSites_descent document _ more, Site.children, stands]
  congr 1
  simp only
  generalize node.segments.zip node.children = pairs at below
  induction pairs with
  | nil => rfl
  | cons pair pairs ih =>
      have ih := ih fun other member => below other (List.mem_cons_of_mem _ member)
      rw [List.filterMap_cons, List.map_cons, List.filter_cons]
      by_cases container : pair.2.isContainer = true
      · simp only [container, if_true]
        rw [List.flatMap_cons, List.flatMap_cons, below pair List.mem_cons_self, ih]
      · simp only [container]
        exact ih

theorem isSome_of_mem_descendTasks {document : Value} (stands : (document.at? task.location).isSome = true)
    (wellFormed : document.WellFormed) :
    ∀ next ∈ descendTasks document task, (document.at? next.location).isSome = true := by
  intro next member
  rcases Option.isSome_iff_exists.1 stands with ⟨node, found⟩
  rw [descendTasks, found] at member
  rcases List.mem_cons.1 member with rfl | isBelow
  · exact stands
  · rcases List.mem_filterMap.1 isBelow with ⟨⟨segment, child⟩, paired, chosen⟩
    simp only [Option.ite_none_right_eq_some, Option.some.injEq] at chosen
    rw [← chosen.2, Value.at?_concat, found, Option.bind_some, (wellFormed.at? found).child?_of_mem_zip paired]
    rfl

/--
A task before the last step changes nothing, unless values are set, and the tasks that come of it stand for what it
stood for.
-/
theorem perform_sites (editable : Editable plan.steps) (keeps : plan.action.isSet = false)
    (wellFormed : progress.document.WellFormed) (notLast : task.index + 1 ≠ plan.steps.length)
    (stands : (progress.document.at? task.location).isSome = true)
    (performed : plan.perform progress task = .ok (later, more)) :
    later = progress ∧
      more.flatMap (Task.sites progress.document plan.steps) = task.sites progress.document plan.steps ∧
      ∀ next ∈ more, (progress.document.at? next.location).isSome = true := by
  rcases Option.isSome_iff_exists.1 stands with ⟨node, found⟩
  have pending {step : Step} (here : plan.steps[task.index]? = some step) :
      plan.steps.drop (task.index + 1) ≠ [] := by
    have before := (List.getElem?_eq_some_iff.1 here).1
    rw [Ne, List.drop_eq_nil_iff]
    omega
  have anchored (place : Location) (value : Value) {step : Step} (here : plan.steps[task.index]? = some step)
      (walks : step.isDescent = false) (stands : progress.document.at? place = some value)
      (alone : step.sites progress.document ⟨task.location, node⟩ = [⟨place, value⟩]) :
      [(⟨place, task.index + 1⟩ : Task)].flatMap (Task.sites progress.document plan.steps) =
          task.sites progress.document plan.steps := by
    rw [List.flatMap_singleton, Task.sites_eq stands, Task.sites_eq found,
      drop_eq_cons here, findSites_cons _ _ (ne_descent walks) (pending here), alone, List.flatMap_singleton]
  cases turn_of_perform performed with
  | beyond here =>
      have beyond : plan.steps.drop task.index = [] := List.drop_eq_nil_of_le (List.getElem?_eq_none_iff.1 here)
      refine ⟨rfl, ?_, by simp⟩
      rw [Task.sites_eq found, beyond]
      rfl
  | root here =>
      refine ⟨rfl, anchored [] progress.document here rfl rfl rfl, ?_⟩
      intro next member
      rw [List.mem_singleton.1 member]
      rfl
  | current here =>
      refine ⟨rfl, anchored task.location node here rfl found rfl, ?_⟩
      intro next member
      rw [List.mem_singleton.1 member]
      exact stands
  | descent here =>
      exact ⟨rfl, flatMap_sites_descendTasks wellFormed found here (pending here),
        isSome_of_mem_descendTasks stands wellFormed⟩
  | absent here nothing =>
      rw [found] at nothing
      cases nothing
  | finish here plain walks isLast => exact absurd isLast notLast
  | @follow step other segments ways here plain walks inner isOther picked approached =>
      rcases Option.some.inj (found.symm.trans isOther)
      rcases follow_of_keeps keeps picked approached with ⟨unchanged, areTasks⟩
      rw [areTasks]
      refine ⟨unchanged, ?_, ?_⟩
      · have children := flatMap_sites_children (step.choices progress.document node) found
          (editable.plain_drop task.index) (editable.assignable_drop (pending here))
        rw [Task.sites_eq found, drop_eq_cons here, findSites_cons _ _ (ne_descent walks) (pending here),
          Step.sites_eq_choices (wellFormed.at? found) plain walks, ← children]
      · intro next member
        rcases List.mem_map.1 member with ⟨segment, isIn, rfl⟩
        have container := (List.mem_filter.1 isIn).2
        rw [Value.at?_concat, found, Option.bind_some]
        exact Option.isSome_of_any container

end Plan

/-! ## Seeking a reply -/

namespace Action

variable {Memory : Type}

/-- The reply of an action to a value that is found, with the memory after it: what to put in its place, if anything. -/
def reply : Action Memory → Memory → Value → Memory × Option Value
  | set value, memory, _ => (memory, some value)
  | delete, memory, _ => (memory, some .null)
  | modify answer, memory, value => answer memory value

/-- A node in which a child got a reply. -/
def put (action : Action Memory) (new node : Value) (segment : Segment) : Value :=
  match action with
  | delete => node.remove segment
  | _ => Value.place new node segment

/-- Goes through sites until there is a reply to one of them. The result is that site, with the reply. -/
def consult (action : Action Memory) (memory : Memory) : List Site → Memory × Option (Site × Value)
  | [] => (memory, none)
  | site :: sites =>
    match action.reply memory site.value with
    | (memory, some new) => (memory, some (site, new))
    | (memory, none) => action.consult memory sites

theorem consult_append (action : Action Memory) (memory : Memory) (front back : List Site) :
    action.consult memory (front ++ back) =
      match action.consult memory front with
      | (memory, none) => action.consult memory back
      | (memory, some replied) => (memory, some replied) := by
  induction front generalizing memory with
  | nil => rfl
  | cons site front ih =>
      rw [List.cons_append, consult, consult]
      rcases action.reply memory site.value with ⟨later, _ | new⟩
      · exact ih later
      · rfl

end Action

namespace Plan

variable {Memory : Type} {plan : Plan Memory} {progress later : Progress Memory} {task : Task} {tasks : List Task}

/-- What has been done after replies were sought: nothing, or the one thing that was replied. -/
def Settles (plan : Plan Memory) (progress : Progress Memory) (found : Memory × Option (Site × Value))
    (later : Progress Memory) : Prop :=
  match found with
  | (memory, none) => later = { progress with memory := memory }
  | (memory, some (site, new)) =>
    later.memory = memory ∧ later.count = progress.count + 1 ∧
      ∃ location segment, site.location = location ++ [segment] ∧
        later.document = progress.document.updateAt (plan.action.put new · segment) location

/-- The edit stops after one more change, or there will never be a reply. -/
def StopsAt (plan : Plan Memory) (count : Nat) : Prop :=
  plan.isDone count = true ∨ ∀ memory value, (plan.action.reply memory value).2 = none

theorem StopsAt.isDone {count : Nat} (stops : plan.StopsAt count) {memory last : Memory} {sites : List Site}
    {replied : Site × Value} (consulted : plan.action.consult memory sites = (last, some replied)) :
    plan.isDone count = true := by
  apply stops.resolve_right
  intro never
  induction sites generalizing memory with
  | nil => cases consulted
  | cons site sites ih =>
      have silent := never memory site.value
      rw [Action.consult] at consulted
      rcases isReply : plan.action.reply memory site.value with ⟨later, _ | new⟩
      · rw [isReply] at consulted
        exact ih consulted
      · rw [isReply] at silent
        cases silent

theorem change_of_absent (keeps : plan.action.isSet = false) {location : Location} {segment : Segment}
    (absent : progress.document.at? (location ++ [segment]) = none) :
    plan.change progress location segment = progress := by
  cases acts : plan.action with
  | set value =>
      rw [acts] at keeps
      cases keeps
  | delete => simp only [change, acts, absent]
  | modify answer => simp only [change, acts, absent]

theorem change_settles (keeps : plan.action.isSet = false) {location : Location} {segment : Segment} {old : Value}
    (found : progress.document.at? (location ++ [segment]) = some old) :
    plan.Settles progress (plan.action.consult progress.memory [⟨location ++ [segment], old⟩])
      (plan.change progress location segment) := by
  cases acts : plan.action with
  | set value =>
      rw [acts] at keeps
      cases keeps
  | delete =>
      simp only [change, acts, found]
      refine ⟨rfl, rfl, location, segment, rfl, ?_⟩
      rw [acts]
      rfl
  | modify answer =>
      simp only [change, acts, found, Action.consult, Action.reply]
      rcases answer progress.memory old with ⟨memory, _ | new⟩
      · rfl
      · refine ⟨rfl, rfl, location, segment, rfl, ?_⟩
        rw [acts]
        rfl

theorem changeAll_settles (keeps : plan.action.isSet = false) (starts : plan.isDone progress.count = false)
    (stops : plan.StopsAt (progress.count + 1)) {location : Location} {node : Value} {segments : List Segment}
    (stands : progress.document.at? location = some node) :
    plan.Settles progress
      (plan.action.consult progress.memory (segments.filterMap (Site.child? ⟨location, node⟩)))
      (plan.changeAll progress location segments) := by
  induction segments generalizing progress with
  | nil => rfl
  | cons segment segments ih =>
      have isChild : progress.document.at? (location ++ [segment]) = node.child? segment := by
        rw [Value.at?_concat, stands, Option.bind_some]
      rw [changeAll, starts, List.filterMap_cons, Site.child?]
      simp only [Bool.false_eq_true, if_false]
      cases found : node.child? segment with
      | none =>
          rw [found] at isChild
          rw [change_of_absent keeps isChild]
          exact ih starts stops stands
      | some child =>
          rw [found] at isChild
          have settles := change_settles keeps isChild
          rw [Option.map_some]
          simp only [Action.consult] at settles ⊢
          rcases replied : plan.action.reply progress.memory child with ⟨memory, _ | new⟩
          · rw [replied] at settles
            simp only at settles ⊢
            have isSame : plan.change progress location segment = { progress with memory := memory } := settles
            rw [isSame]
            exact @ih { progress with memory := memory } starts stops stands
          · rw [replied] at settles
            simp only at settles ⊢
            rcases settles with ⟨isMemory, isCount, place⟩
            have consulted : plan.action.consult progress.memory [⟨location ++ [segment], child⟩] =
                (memory, some (⟨location ++ [segment], child⟩, new)) := by
              rw [Action.consult, replied]
            -- The edit is done with the first reply, and leaves the other children alone.
            have isDone : plan.isDone (plan.change progress location segment).count = true := by
              rw [isCount]
              exact stops.isDone consulted
            have unchanged (segments : List Segment) :
                plan.changeAll (plan.change progress location segment) location segments =
                  plan.change progress location segment := by
              cases segments with
              | nil => rfl
              | cons other segments => rw [changeAll, if_pos isDone]
            rw [unchanged]
            exact ⟨isMemory, isCount, place⟩

theorem perform_last_settles (editable : Editable plan.steps) (keeps : plan.action.isSet = false)
    (wellFormed : progress.document.WellFormed) (starts : plan.isDone progress.count = false)
    (stops : plan.StopsAt (progress.count + 1)) (isLast : task.index + 1 = plan.steps.length)
    (stands : (progress.document.at? task.location).isSome = true) {more : List Task}
    (performed : plan.perform progress task = .ok (later, more)) :
    more = [] ∧
      plan.Settles progress
        (plan.action.consult progress.memory (task.sites progress.document plan.steps)) later := by
  rcases Option.isSome_iff_exists.1 stands with ⟨node, found⟩
  have last {step : Step} (here : plan.steps[task.index]? = some step) :
      step.isDescent = false ∧ step.isAnchor = false := by
    apply isDescent_of_isAssignable (editable.assignable step _)
    rw [List.getLast?_eq_getElem?, ← isLast, Nat.add_sub_cancel, here]
    exact rfl
  cases turn_of_perform performed with
  | beyond here =>
      have := List.getElem?_eq_none_iff.1 here
      omega
  | root here => cases (last here).2
  | current here => cases (last here).2
  | descent here => cases (last here).1
  | absent here nothing =>
      rw [found] at nothing
      cases nothing
  | follow here plain walks inner => omega
  | finish here plain walks _ isOther picked =>
      rcases Option.some.inj (found.symm.trans isOther)
      refine ⟨rfl, ?_⟩
      have nothing : plan.steps.drop (task.index + 1) = [] := by rw [isLast, List.drop_length]
      rw [pick_eq_choices picked, Task.sites_eq found, drop_eq_cons here, nothing,
        findSites_last _ _ (ne_descent walks), Step.sites_eq_choices (wellFormed.at? found) plain walks]
      exact changeAll_settles keeps starts stops found

/-- Tasks seek a reply from all the sites that they stand for, in order, unless an obstacle comes first. -/
theorem run_consults (editable : Editable plan.steps) (keeps : plan.action.isSet = false)
    (wellFormed : progress.document.WellFormed) (starts : plan.isDone progress.count = false)
    (stops : plan.StopsAt (progress.count + 1)) (fresh : progress.written = [])
    (stand : ∀ task ∈ tasks, (progress.document.at? task.location).isSome = true) :
    ((plan.run progress tasks).2 = none →
      plan.Settles progress
        (plan.action.consult progress.memory (tasks.flatMap (Task.sites progress.document plan.steps)))
        (plan.run progress tasks).1) ∧
    ∀ obstacle, (plan.run progress tasks).2 = some obstacle →
      ∃ sought memory, sought <+: tasks.flatMap (Task.sites progress.document plan.steps) ∧
        plan.action.consult progress.memory sought = (memory, none) ∧
        (plan.run progress tasks).1 = { progress with memory := memory } := by
  have unwritten (location : Location) : progress.wrote location = false := by rw [Progress.wrote, fresh]; rfl
  -- Up to the first reply a run changes nothing but the memory, so that the tasks stand for the same sites all along.
  induction progress, tasks using Plan.run.induct plan with
  | case1 progress tasks isDone =>
      rw [starts] at isDone
      cases isDone
  | case2 progress _ =>
      rw [run_nil]
      refine ⟨fun _ => rfl, ?_⟩
      intro obstacle isSome
      cases isSome
  | case3 progress _ task tasks wrote _ =>
      rw [unwritten] at wrote
      cases wrote
  | case4 progress _ task tasks _ obstacle performed =>
      rw [run_of_error starts (unwritten _) performed]
      refine ⟨?_, ?_⟩
      · intro isNone
        cases isNone
      · intro _ _
        exact ⟨[], progress.memory, List.nil_prefix, rfl, rfl⟩
  | case5 progress _ task tasks _ later more performed ih =>
      have standsHere := stand task List.mem_cons_self
      have standOthers : ∀ other ∈ tasks, (progress.document.at? other.location).isSome = true :=
        fun other member => stand other (List.mem_cons_of_mem _ member)
      rw [run_of_ok starts (unwritten _) performed, List.flatMap_cons]
      by_cases isLast : task.index + 1 = plan.steps.length
      · rcases perform_last_settles editable keeps wellFormed starts stops isLast standsHere performed with
          ⟨rfl, settles⟩
        simp only [Action.consult_append]
        rw [List.nil_append] at ih ⊢
        rcases consulted : plan.action.consult progress.memory (task.sites progress.document plan.steps) with
          ⟨memory, _ | ⟨site, new⟩⟩
        · rw [consulted] at settles
          have isSame : later = { progress with memory := memory } := settles
          rw [isSame] at ih ⊢
          rcases ih wellFormed starts stops fresh standOthers unwritten with ⟨goesOn, fails⟩
          refine ⟨goesOn, ?_⟩
          intro obstacle isSome
          rcases fails obstacle isSome with ⟨sought, last, isPrefix, silent, unchanged⟩
          refine ⟨_ ++ sought, last, (List.prefix_append_right_inj _).2 isPrefix, ?_, unchanged⟩
          rw [Action.consult_append, consulted]
          exact silent
        · rw [consulted] at settles
          have isCount : later.count = progress.count + 1 := settles.2.1
          rw [run_of_isDone (by rw [isCount]; exact stops.isDone consulted)]
          refine ⟨fun _ => settles, ?_⟩
          intro obstacle isSome
          cases isSome
      · rcases perform_sites editable keeps wellFormed isLast standsHere performed with ⟨rfl, isSame, standMore⟩
        have stand : ∀ other ∈ more ++ tasks, (later.document.at? other.location).isSome = true := by
          intro other member
          rcases List.mem_append.1 member with isNew | isOld
          · exact standMore other isNew
          · exact standOthers other isOld
        rw [← isSame, ← List.flatMap_append]
        exact ih wellFormed starts stops fresh stand unwritten

end Plan

end TreePath

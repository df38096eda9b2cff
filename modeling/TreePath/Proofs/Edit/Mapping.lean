import TreePath.Proofs.Edit.Apart
import TreePath.Proofs.Edit.Remains
import TreePath.Regex.Standard

/-!
# Modifications as maps

Along a path without descents and filters, no two of the sites are within each other, as long as no union resolves two
selectors to one child. So what is changed at one of them is not seen at the others: a modification is called on the values
of the sites as they were, from the first to the last, and what is replaced is what was answered. An obstacle ends this after
some of the sites. A deletion is the same with the answer that nothing should be left.
-/

namespace TreePath

/-! ## Calls at the sites -/

/-- The value that a call is about, with its location. -/
def Call.site (call : Call) : Site :=
  ⟨call.location, call.value⟩

/-- What stands at a location after an action had a reply there. -/
def Action.stored {Memory : Type} (action : Action Memory) (location : Location) (new : Value) : Option Value :=
  match action with
  | .delete => location.getLast?.bind Value.leftover
  | _ => some new

/-- The locations at which there was a reply. -/
def Replied (calls : List Call) (location : Location) : Prop :=
  ∃ call ∈ calls, call.reply.isSome = true ∧ call.location = location

namespace Plan

variable {Memory : Type} {plan : Plan Memory} {progress later : Progress Memory} {task : Task}
  {tasks more : List Task} {location : Location} {segment : Segment} {start : Value} {lead : Nat}

/-- Unless there is a reply, a change leaves the document as it is. Otherwise it stores what the reply says. -/
theorem change_overlay (keeps : plan.action.isSet = false) {result : Location → Option Value}
    (fits : ∀ call ∈ plan.call? progress location segment, ∀ new, call.reply = some new →
      result call.location = plan.action.stored call.location new) :
    Overlay progress.document (plan.change progress location segment).document
      (Replied (plan.call? progress location segment).toList) result := by
  have unchanged {calls : List Call} (silent : ∀ call ∈ calls, call.reply = none) :
      Overlay progress.document progress.document (Replied calls) result := by
    apply (Overlay.refl progress.document result).congr (fun _ => False.elim)
    rintro place ⟨⟨call, isCall, replied, -⟩, -⟩
    rw [silent call isCall] at replied
    cases replied
  cases found : progress.document.at? (location ++ [segment]) with
  | none =>
      rw [change_of_absent keeps found, call?, found]
      exact unchanged (by simp)
  | some old =>
      have admitted : progress.document.AdmitsAt location segment := by
        rw [Value.at?_concat] at found
        rcases Option.bind_eq_some_iff.1 found with ⟨node, isNode, isChild⟩
        exact ⟨node, isNode, Value.admits_of_child? isChild⟩
      have only {reply : Value} (change : Overlay progress.document (plan.change progress location segment).document
          (· = location ++ [segment]) result) :
          Overlay progress.document (plan.change progress location segment).document
            (Replied [⟨location ++ [segment], old, some reply⟩]) result := by
        apply change.congr
        · rintro place rfl
          exact ⟨_, List.mem_singleton_self _, rfl, rfl⟩
        · rintro place ⟨⟨call, isCall, -, rfl⟩, -⟩
          rw [List.mem_singleton.1 isCall]
      rw [call?, found] at fits ⊢
      simp only [Option.map_some, Option.toList_some, Option.mem_def, Option.some.injEq, forall_eq'] at fits ⊢
      cases acts : plan.action with
      | set value =>
          rw [acts] at keeps
          cases keeps
      | delete =>
          rw [acts] at fits
          apply only
          simp only [change, acts, found]
          apply overlay_remove admitted
          rw [fits .null rfl, Action.stored, List.getLast?_concat]
          rfl
      | modify answer =>
          rw [acts] at fits
          rcases replied : answer progress.memory old with ⟨memory, _ | new⟩
          · simp only [change, acts, found, replied, Action.reply]
            exact unchanged (by simp)
          · simp only [Action.reply, replied] at fits ⊢
            apply only
            simp only [change, acts, found, replied, store, record]
            exact overlay_place admitted (fits new rfl)

/-- What a run leaves is told by its calls, as long as there is one result for each location. -/
theorem run_overlay (keeps : plan.action.isSet = false) {result : Location → Option Value}
    (fits : ∀ call ∈ plan.calls progress tasks, ∀ new, call.reply = some new →
      result call.location = plan.action.stored call.location new)
    (apart : NotInside (plan.calls progress tasks)) :
    Overlay progress.document (plan.run progress tasks).1.document (Replied (plan.calls progress tasks)) result := by
  refine calls_induction (motive := fun calls later => (∀ call ∈ calls, ∀ new, call.reply = some new →
        result call.location = plan.action.stored call.location new) → NotInside calls →
      Overlay progress.document later.document (Replied calls) result) keeps ?_ progress tasks [] ?_ fits apart
  · intro calls middle location segment holds fits apart
    rcases List.forall_mem_append.1 fits with ⟨fitsBefore, fitsHere⟩
    rcases List.pairwise_append.1 apart with ⟨apartBefore, -, outer⟩
    have before := holds fitsBefore apartBefore
    have change := @change_overlay _ plan middle location segment keeps result (by simpa using fitsHere)
    apply (before.trans change _).congr
    · rintro place (⟨call, isCall, replied⟩ | ⟨call, isCall, replied⟩)
      · exact ⟨call, List.mem_append_right _ isCall, replied⟩
      · exact ⟨call, List.mem_append_left _ isCall, replied⟩
    · rintro place ⟨⟨call, isCall, replied⟩, -⟩
      rcases List.mem_append.1 isCall with isBefore | isHere
      · exact .inr ⟨call, isBefore, replied⟩
      · exact .inl ⟨call, isHere, replied⟩
    · rintro _ _ ⟨call, isCall, replied, rfl⟩ ⟨other, isOther, -, rfl⟩ above
      exact outer call isCall other isOther replied above
  · intro _ _
    apply (Overlay.refl progress.document result).congr (fun _ => False.elim)
    rintro place ⟨⟨call, isCall, -⟩, -⟩
    cases isCall

/-- The changes that are counted are the calls with a reply. -/
theorem count_run (keeps : plan.action.isSet = false) :
    (plan.run progress tasks).1.count =
      progress.count + (plan.calls progress tasks).countP (·.reply.isSome) := by
  refine calls_induction (motive := fun calls later => later.count = progress.count + calls.countP (·.reply.isSome))
    keeps ?_ progress tasks [] rfl
  intro calls middle location segment holds
  rw [List.countP_append, ← Nat.add_assoc, ← holds]
  cases found : middle.document.at? (location ++ [segment]) with
  | none =>
      rw [change_of_absent keeps found, call?, found]
      rfl
  | some old =>
      have settles := @change_settles _ plan middle keeps location segment old found
      rw [call?, found]
      simp only [Action.consult] at settles
      rcases replied : plan.action.reply middle.memory old with ⟨memory, _ | new⟩
      · rw [replied] at settles
        have isSame : plan.change middle location segment = { middle with memory := memory } := settles
        rw [isSame]
        simp [replied]
      · rw [replied] at settles
        rw [settles.2.1]
        simp [replied]

theorem reply_of_delete (deletes : plan.action = .delete) :
    ∀ call ∈ plan.calls progress tasks, call.reply = some .null := by
  refine calls_induction (motive := fun calls _ => ∀ call ∈ calls, call.reply = some .null) (by rw [deletes]; rfl) ?_
    progress tasks [] (List.forall_mem_nil _)
  intro calls middle location segment holds
  apply List.forall_mem_append.2 ⟨holds, _⟩
  intro call isCall
  rcases Option.map_eq_some_iff.1 (Option.mem_toList.1 isCall) with ⟨old, -, rfl⟩
  rw [deletes]
  rfl

/-! ## The run through the sites -/

/-- What a plan needs for that its tasks do not meddle with each other. -/
structure IsMap (plan : Plan Memory) (lead : Nat) : Prop where
  keeps : plan.action.isSet = false
  unlimited : plan.limit = none
  editable : Editable plan.steps
  level : plan.descends = false
  direct : ∀ step ∈ plan.steps.drop lead, step.IsDirect

/-- What holds between the tasks: they stand in unrelated places, in which nothing has been changed yet. -/
structure Visits (plan : Plan Memory) (lead : Nat) (start : Value) (progress : Progress Memory)
    (tasks : List Task) : Prop where
  unwritten : progress.written = []
  inside : ∀ task ∈ tasks, lead ≤ task.index
  stands : ∀ task ∈ tasks, ∃ node, start.at? task.location = some node ∧
    progress.document.at? task.location = some node ∧ NamesOnce start (plan.steps.drop task.index) node
  apart : tasks.Pairwise fun task other => Unrelated task.location other.location

theorem IsMap.direct_at (isMap : plan.IsMap lead) {index : Nat} (inside : lead ≤ index) {step : Step}
    (here : plan.steps[index]? = some step) : step.IsDirect := by
  apply isMap.direct step
  apply List.drop_subset_drop_left plan.steps inside
  rw [drop_eq_cons here]
  exact List.mem_cons_self

theorem change_at?_of_unrelated (keeps : plan.action.isSet = false) {other : Location}
    (unrelated : Unrelated (location ++ [segment]) other) :
    (plan.change progress location segment).document.at? other = progress.document.at? other := by
  have change := @change_overlay _ plan progress location segment keeps
    (fun place => (plan.call? progress location segment).bind fun call =>
      call.reply.bind (plan.action.stored place ·)) (by
        intro call isCall new replied
        rw [Option.mem_def.1 isCall, Option.bind_some, replied, Option.bind_some])
  apply change.same
  rintro _ ⟨call, isCall, -, rfl⟩
  rcases Option.map_eq_some_iff.1 (Option.mem_toList.1 isCall) with ⟨old, -, rfl⟩
  exact unrelated

theorem changeAll_at?_of_unrelated (keeps : plan.action.isSet = false) {other : Location} {segments : List Segment}
    (unrelated : ∀ segment ∈ segments, Unrelated (location ++ [segment]) other) :
    (plan.changeAll progress location segments).document.at? other = progress.document.at? other := by
  refine changeAll_induction (motive := fun later => later.document.at? other = progress.document.at? other) rfl ?_
  intro segment isPicked middle before
  rw [change_at?_of_unrelated keeps (unrelated segment isPicked), before]

theorem written_changeAll_of_level (level : plan.descends = false) (segments : List Segment) :
    (plan.changeAll progress location segments).written = progress.written := by
  refine changeAll_induction (motive := fun later => later.written = progress.written) rfl ?_
  intro segment _ middle before
  generalize changed : plan.change middle location segment = later
  cases change_of_eq changed with
  | store memory value =>
      rw [← before]
      simp [store, record, level]
  | remove => exact before
  | memory memory => exact before

/-- The last step calls for each of the children as they were, since it picks none of those that are there twice. -/
theorem callAll_sites (isMap : plan.IsMap lead) (node : Value) {segments : List Segment}
    (distinct : (segments.filter fun segment => (node.child? segment).isSome).Nodup)
    (children : ∀ segment ∈ segments, progress.document.at? (location ++ [segment]) = node.child? segment) :
    (plan.callAll progress location segments).map Call.site = segments.filterMap (Site.child? ⟨location, node⟩) := by
  induction segments generalizing progress with
  | nil => rfl
  | cons segment segments ih =>
      have unfinished : plan.isDone progress.count = false := by rw [isDone, isMap.unlimited]
      rcases List.forall_mem_cons.1 children with ⟨here, others⟩
      have separate := (List.pairwise_cons.1 (List.pairwise_filter.1 distinct)).1
      have unchanged : ∀ other ∈ segments, (plan.change progress location segment).document.at? (location ++ [other]) =
          progress.document.at? (location ++ [other]) := by
        intro other isIn
        cases isThere : node.child? segment with
        | none => rw [change_of_absent isMap.keeps (here.trans isThere)]
        | some child =>
            apply change_at?_of_unrelated isMap.keeps
            apply unrelated_children
            rintro rfl
            exact separate segment isIn (Option.isSome_of_eq_some isThere) (Option.isSome_of_eq_some isThere) rfl
      rw [callAll, unfinished]
      simp only [Bool.false_eq_true, if_false]
      rw [List.map_append, ih (distinct.sublist ((List.sublist_cons_self segment segments).filter _)),
        List.filterMap_cons, Site.child?, call?, here]
      · cases node.child? segment <;> rfl
      · intro other isIn
        rw [unchanged other isIn, others other isIn]

/-- At the last step a task has calls for the sites that it stands for. -/
theorem Visits.finish (isMap : plan.IsMap lead) (wellFormed : start.WellFormed)
    (visits : plan.Visits lead start progress (task :: tasks)) {step : Step} {node : Value} {segments : List Segment}
    (here : plan.steps[task.index]? = some step) (plain : step.isAnchor = false) (walks : step.isDescent = false)
    (isLast : task.index + 1 = plan.steps.length) (found : progress.document.at? task.location = some node)
    (picked : plan.pick task.index progress.document node step = .ok segments) :
    task.sites start plan.steps = (plan.taskCalls progress task).map Call.site ∧
      plan.Visits lead start (plan.changeAll progress task.location segments) tasks := by
  rcases visits with ⟨unwritten, inside, stands, apart⟩
  rcases List.forall_mem_cons.1 inside with ⟨insideHere, insideOthers⟩
  rcases List.forall_mem_cons.1 stands with ⟨⟨_, isStart, isNow, once⟩, standOthers⟩
  rcases List.pairwise_cons.1 apart with ⟨apartHere, apartOthers⟩
  have direct := isMap.direct_at insideHere here
  rcases Option.some.inj (isNow.symm.trans found)
  have areSegments := pick_eq_ok direct.unfiltered picked
  have nothing : plan.steps.drop (task.index + 1) = [] := by rw [isLast, List.drop_length]
  rw [drop_eq_cons here] at once
  have distinct := once.nodup_choices (wellFormed.at? isStart)
  rw [direct.choices_eq, ← areSegments] at distinct
  have areCalls : plan.taskCalls progress task = plan.callAll progress task.location segments := by
    rw [taskCalls, here, found]
    simp only [if_pos (And.intro isLast (And.intro plain walks)), picked]
  have isUnrelated : ∀ next ∈ tasks, ∀ segment ∈ segments, Unrelated (task.location ++ [segment]) next.location := by
    intro next isNext segment _
    exact (apartHere next isNext).below (List.prefix_append _ _) (List.prefix_refl _)
  constructor
  · rw [areCalls, callAll_sites isMap node distinct, Task.sites_eq isStart, drop_eq_cons here, nothing,
      findSites_last _ _ (ne_descent walks), direct.sites_eq start (wellFormed.at? isStart), areSegments]
    intro segment _
    rw [Value.at?_concat, isNow, Option.bind_some]
  · refine ⟨?_, insideOthers, ?_, apartOthers⟩
    · rw [written_changeAll_of_level isMap.level, unwritten]
    · intro next isNext
      rw [changeAll_at?_of_unrelated isMap.keeps (isUnrelated next isNext)]
      exact standOthers next isNext

/-- Before the last step a task is replaced by tasks that stand for the same sites, in order, and nothing is changed. -/
theorem Visits.follow (isMap : plan.IsMap lead) (wellFormed : start.WellFormed)
    (visits : plan.Visits lead start progress (task :: tasks)) {step : Step} {node : Value} {segments : List Segment}
    {ways : List (Segment × Option Value)} (here : plan.steps[task.index]? = some step) (walks : step.isDescent = false)
    (inner : task.index + 1 < plan.steps.length) (found : progress.document.at? task.location = some node)
    (picked : plan.pick task.index progress.document node step = .ok segments)
    (approached : plan.approachAll task.index step node segments = .ok ways) :
    task.sites start plan.steps =
        (ways.map fun way => (⟨task.location ++ [way.1], task.index + 1⟩ : Task)).flatMap (Task.sites start plan.steps) ∧
      plan.Visits lead start { progress with document := create progress.document task.location ways }
        (ways.map (fun way => ⟨task.location ++ [way.1], task.index + 1⟩) ++ tasks) := by
  rcases visits with ⟨unwritten, inside, stands, apart⟩
  rcases List.forall_mem_cons.1 inside with ⟨insideHere, insideOthers⟩
  rcases List.forall_mem_cons.1 stands with ⟨⟨_, isStart, isNow, once⟩, standOthers⟩
  rcases List.pairwise_cons.1 apart with ⟨apartHere, apartOthers⟩
  have direct := isMap.direct_at insideHere here
  rcases Option.some.inj (isNow.symm.trans found)
  rcases follow_of_keeps isMap.keeps picked approached with ⟨unchanged, areTasks⟩
  have pending : plan.steps.drop (task.index + 1) ≠ [] := by
    rw [Ne, List.drop_eq_nil_iff]
    omega
  rw [drop_eq_cons here] at once
  have distinct := once.nodup_choices (wellFormed.at? isStart)
  rw [direct.choices_eq] at areTasks distinct
  have children := flatMap_sites_children (step.segments node) isStart (isMap.editable.plain_drop task.index)
    (isMap.editable.assignable_drop pending)
  rw [areTasks, unchanged]
  constructor
  · rw [Task.sites_eq isStart, drop_eq_cons here, findSites_cons _ _ (ne_descent walks) pending,
      direct.sites_eq start (wellFormed.at? isStart), children]
  · refine ⟨unwritten, ?_, ?_, ?_⟩
    · apply List.forall_mem_append.2 ⟨_, insideOthers⟩
      intro next isNext
      rcases List.mem_map.1 isNext with ⟨segment, -, rfl⟩
      exact Nat.le_succ_of_le insideHere
    · apply List.forall_mem_append.2 ⟨_, standOthers⟩
      intro next isNext
      rcases List.mem_map.1 isNext with ⟨segment, isIn, rfl⟩
      rcases List.mem_filter.1 isIn with ⟨isIn, isContainer⟩
      rcases Option.isSome_iff_exists.1 (Option.isSome_of_any isContainer) with ⟨child, isChild⟩
      refine ⟨child, ?_, ?_, once.of_child direct (wellFormed.at? isStart) isIn isChild⟩
      · rw [Value.at?_concat, isStart, Option.bind_some, isChild]
      · rw [Value.at?_concat, isNow, Option.bind_some, isChild]
    · apply List.pairwise_append.2 ⟨_, apartOthers, _⟩
      · apply List.pairwise_map.2
        apply List.pairwise_filter.2
        apply (List.pairwise_filter.1 distinct).imp
        intro segment other different isThere isThereToo
        exact unrelated_children task.location
          (different (Option.isSome_of_any isThere) (Option.isSome_of_any isThereToo))
      · intro next isNext other isOther
        rcases List.mem_map.1 isNext with ⟨segment, -, rfl⟩
        exact (apartHere other isOther).below (List.prefix_append _ _) (List.prefix_refl _)

/--
A task has calls for the sites that it stands for, if its step is the last one, or is replaced by tasks that stand for
them, in the same order.
-/
theorem Visits.perform (isMap : plan.IsMap lead) (wellFormed : start.WellFormed)
    (visits : plan.Visits lead start progress (task :: tasks))
    (performed : plan.perform progress task = .ok (later, more)) :
    task.sites start plan.steps =
        (plan.taskCalls progress task).map Call.site ++ more.flatMap (Task.sites start plan.steps) ∧
      plan.Visits lead start later (more ++ tasks) := by
  have insideHere := visits.inside task List.mem_cons_self
  rcases visits.stands task List.mem_cons_self with ⟨node, isStart, isNow, -⟩
  cases turn_of_perform performed with
  | beyond here =>
      have beyond : plan.steps.drop task.index = [] := List.drop_eq_nil_of_le (List.getElem?_eq_none_iff.1 here)
      have noCalls : plan.taskCalls progress task = [] := by rw [taskCalls, here]
      rw [noCalls, Task.sites_eq isStart, beyond]
      exact ⟨rfl, visits.unwritten, (List.forall_mem_cons.1 visits.inside).2, (List.forall_mem_cons.1 visits.stands).2,
        (List.pairwise_cons.1 visits.apart).2⟩
  | root here => cases (isMap.direct_at insideHere here).plain
  | current here => cases (isMap.direct_at insideHere here).plain
  | descent here => cases (isMap.direct_at insideHere here).flat
  | absent here nothing =>
      rw [isNow] at nothing
      cases nothing
  | finish here plain walks isLast found picked =>
      rcases visits.finish isMap wellFormed here plain walks isLast found picked with ⟨areSites, visits⟩
      exact ⟨areSites.trans (List.append_nil _).symm, visits⟩
  | follow here plain walks inner found picked approached =>
      have noCalls : plan.taskCalls progress task = [] := taskCalls_eq_nil here (by omega)
      rw [noCalls]
      exact visits.follow isMap wellFormed here walks inner found picked approached

/-- A run has calls for the sites that the tasks stand for, in order: for all of them, unless an obstacle ends it. -/
theorem run_visits (isMap : plan.IsMap lead) (wellFormed : start.WellFormed)
    (visits : plan.Visits lead start progress tasks) :
    ∃ rest, tasks.flatMap (Task.sites start plan.steps) = (plan.calls progress tasks).map Call.site ++ rest ∧
      ((plan.run progress tasks).2 = none → rest = []) := by
  have unfinished (count : Nat) : plan.isDone count = false := by rw [isDone, isMap.unlimited]
  have unwritten (location : Location) {progress : Progress Memory} (fresh : progress.written = []) :
      progress.wrote location = false := by rw [Progress.wrote, fresh]; rfl
  induction progress, tasks using Plan.run.induct plan with
  | case1 progress tasks isDone =>
      rw [unfinished] at isDone
      cases isDone
  | case2 progress _ =>
      rw [calls_nil]
      exact ⟨[], rfl, fun _ => rfl⟩
  | case3 progress _ task tasks wrote _ =>
      rw [unwritten _ visits.unwritten] at wrote
      cases wrote
  | case4 progress _ task tasks _ obstacle performed =>
      rw [calls_of_error (unfinished _) (unwritten _ visits.unwritten) performed,
        run_of_error (unfinished _) (unwritten _ visits.unwritten) performed]
      exact ⟨_, rfl, fun impossible => by cases impossible⟩
  | case5 progress _ task tasks _ later more performed ih =>
      rw [calls_of_ok (unfinished _) (unwritten _ visits.unwritten) performed,
        run_of_ok (unfinished _) (unwritten _ visits.unwritten) performed]
      rcases visits.perform isMap wellFormed performed with ⟨areSites, continues⟩
      rcases ih continues with ⟨rest, others, all⟩
      refine ⟨rest, ?_, all⟩
      rw [List.flatMap_cons, areSites, List.append_assoc, ← List.flatMap_append, others, List.map_append,
        List.append_assoc]

end Plan

/-- The answer to the call at a location, if there was one. -/
def replyAt (calls : List Call) (location : Location) : Option Value :=
  (calls.find? (·.location = location)).bind Call.reply

theorem replyAt_of_mem {calls : List Call}
    (apart : calls.Pairwise fun call other => Unrelated call.location other.location) :
    ∀ call ∈ calls, replyAt calls call.location = call.reply := by
  induction calls with
  | nil =>
      intro call isCall
      cases isCall
  | cons first calls ih =>
      rcases List.pairwise_cons.1 apart with ⟨apartFirst, apart⟩
      intro call isCall
      rcases List.mem_cons.1 isCall with rfl | isLater
      · simp [replyAt]
      · have different : first.location ≠ call.location := by
          intro same
          exact (apartFirst call isLater).1 (same ▸ List.prefix_refl _)
        rw [← ih apart call isLater, replyAt, replyAt, List.find?_cons_of_neg (by simpa using different)]

namespace Path

section Mapping

variable [RegexSyntax] {Memory : Type} {path : Path} {document : Value}

section Direct

variable (path_wellFormed : path.WellFormed) (assignable : path.isAssignable? = some true)
  (unfiltered : ∀ fragment ∈ path.fragments, fragment.isFilter = false)
  (level : ∀ fragment ∈ path.fragments, fragment.isDescent = false) (wellFormed : document.WellFormed)
  (unions : ∀ k selectors, path.fragments[k]? = some (.union selectors) → ∀ node ∈ path.nodes document k,
    (node.slots selectors).Nodup)

include path_wellFormed assignable unfiltered level wellFormed unions

omit wellFormed in
/-- There may be an anchor at the head of the path, which makes no difference. -/
theorem exists_isMap {action : Action Memory} (keeps : action.isSet = false) (memory : Memory) :
    ∃ lead, (path.plan action none).IsMap lead ∧ NamesOnce document (path.steps.drop lead) document ∧
      path.sites document = findSites document (path.steps.drop lead) document.rootSite ∧
      (path.plan action none).calls (.start document memory) [⟨[], 0⟩] =
        (path.plan action none).calls (.start document memory) [⟨[], lead⟩] ∧
      (path.plan action none).run (.start document memory) [⟨[], 0⟩] =
        (path.plan action none).run (.start document memory) [⟨[], lead⟩] := by
  have editable := editable_steps path_wellFormed (assignable_last assignable)
  have noDescent : (path.plan action none).descends = false := descends_plan_eq_false level
  have direct {lead : Nat} (plain : ∀ step ∈ path.steps.drop lead, step.isAnchor = false) :
      ∀ step ∈ path.steps.drop lead, step.IsDirect := by
    intro step isStep
    have isIn := List.mem_of_mem_drop isStep
    exact ⟨plain step isStep, level_steps level step isIn, unfiltered_steps unfiltered step isIn⟩
  have once := namesOnce_steps unions
  rcases anchored_or_plain (editable.plain_drop 0) with ⟨head, here, anchor⟩ | plain
  · have split : path.steps = head :: path.steps.drop 1 :=
      @Plan.drop_eq_cons _ (path.plan action none) 0 head here
    have isPicked : document ∈ head.pick document document := by
      rw [pick_of_isAnchor anchor]
      exact List.mem_singleton_self document
    rw [split] at once
    refine ⟨1, ⟨keeps, rfl, editable, noDescent, direct (editable.plain_drop 0)⟩,
      once.next (isDescent_of_isAnchor anchor) isPicked, ?_, ?_, ?_⟩
    · exact findSites_anchor document here anchor (editable.drop_one_ne_nil here anchor)
    · exact Plan.calls_anchor here anchor
    · exact Plan.run_anchor rfl here anchor
  · exact ⟨0, ⟨keeps, rfl, editable, noDescent, direct plain⟩, once, rfl, rfl, rfl⟩

theorem sites_pairwise :
    (path.sites document).Pairwise fun site other => Unrelated site.location other.location := by
  have keeps : (.delete : Action Unit).isSet = false := rfl
  rcases exists_isMap path_wellFormed assignable unfiltered level unions keeps () with
    ⟨lead, isMap, once, areSites, -⟩
  rw [areSites]
  exact findSites_pairwise wellFormed isMap.direct once

/-- An edit other than setting values has calls for the sites of the path in order, up to an obstacle. -/
theorem runEdit_maps {action : Action Memory} (keeps : action.isSet = false) (memory : Memory) :
    ∃ calls rest, calls = (path.plan action none).calls (.start document memory) [⟨[], 0⟩] ∧
      path.sites document = calls.map Call.site ++ rest ∧
      calls.Pairwise (fun call other => Unrelated call.location other.location) ∧
      (∀ result : Location → Option Value, (∀ call ∈ calls, ∀ new, call.reply = some new →
          result call.location = action.stored call.location new) →
        Overlay document (path.runEdit action none memory document).document (Replied calls) result) ∧
      ∀ count, (path.runEdit action none memory document).outcome = .ok count →
        rest = [] ∧ count = calls.countP (·.reply.isSome) := by
  rcases exists_isMap path_wellFormed assignable unfiltered level unions keeps memory with
    ⟨lead, isMap, once, areSites, sameCalls, sameRun⟩
  have begins : (path.plan action none).Visits lead document (.start document memory) [⟨[], lead⟩] := by
    refine ⟨rfl, by simp, ?_, List.pairwise_singleton _ _⟩
    intro task isTask
    rw [List.mem_singleton.1 isTask]
    exact ⟨document, rfl, rfl, once⟩
  rcases Plan.run_visits isMap wellFormed begins with ⟨rest, visited, all⟩
  have isSite : document.at? [] = some document := rfl
  rw [List.flatMap_singleton, Task.sites_eq isSite] at visited
  have split : path.sites document =
      ((path.plan action none).calls (.start document memory) [⟨[], lead⟩]).map Call.site ++ rest :=
    areSites.trans visited
  have apart : ((path.plan action none).calls (.start document memory) [⟨[], lead⟩]).Pairwise
      fun call other => Unrelated call.location other.location := by
    have sites := sites_pairwise path_wellFormed assignable unfiltered level wellFormed unions
    rw [split, List.pairwise_append, List.pairwise_map] at sites
    exact sites.1
  refine ⟨_, rest, sameCalls.symm, split, apart, ?_, ?_⟩
  · intro result fits
    rw [runEdit, sameRun]
    exact @Plan.run_overlay _ _ (.start document memory) _ keeps result fits
      (apart.imp fun unrelated _ above => absurd above unrelated.1)
  · have counted := @Plan.count_run _ (path.plan action none) (.start document memory) [⟨[], lead⟩] keeps
    intro count succeeds
    rw [runEdit, sameRun] at succeeds
    generalize (path.plan action none).run (.start document memory) [⟨[], lead⟩] = ran at all counted succeeds
    rcases ran with ⟨later, _ | obstacle⟩
    · refine ⟨all rfl, ?_⟩
      rw [← Except.ok.inj succeeds, counted]
      exact Nat.zero_add _
    · cases succeeds

end Direct

/--
Modifying along a path that was read and has no descents and no filters, in a document in which no union of it resolves two
selectors to the same child of a node that the fragments before it reach. The sites of the path are what it gets, with the
locations, none within another. The calls are about the sites in order: about all of them if all goes well, and otherwise
about those before the obstacle. Where there was an answer it replaces the value, and nothing else is changed. A deletion
leaves no member, or null in the slot of an array, at all sites or at those before the obstacle.
-/
theorem modify_maps_sites {text : String} (parsed : Path.parse text = .ok path)
    (assignable : path.isAssignable? = some true)
    (unfiltered : ∀ fragment ∈ path.fragments, fragment.isFilter = false)
    (level : ∀ fragment ∈ path.fragments, fragment.isDescent = false) (wellFormed : document.WellFormed)
    (unions : ∀ k selectors, path.fragments[k]? = some (.union selectors) → ∀ node ∈ path.nodes document k,
      (node.slots selectors).Nodup) :
    (path.sites document).map Site.value = path.get document ∧
    (∀ site ∈ path.sites document, document.at? site.location = some site.value) ∧
    (path.sites document).Pairwise (fun site other => Unrelated site.location other.location) ∧
    (∀ (Memory : Type) (answer : Memory → Value → Memory × Option Value) (memory : Memory),
      ∃ calls rest, calls = path.calls none answer memory document ∧
        path.sites document = calls.map Call.site ++ rest ∧
        Answered answer memory calls (path.modify answer memory document).memory ∧
        Overlay document (path.modify answer memory document).document (Replied calls) (replyAt calls) ∧
        ∀ count, (path.modify answer memory document).outcome = .ok count →
          rest = [] ∧ count = calls.countP (·.reply.isSome)) ∧
    ∃ done rest, path.sites document = done ++ rest ∧
      Overlay document (path.delete document).document (· ∈ done.map Site.location)
        (fun location => location.getLast?.bind Value.leftover) ∧
      ∀ count, (path.delete document).outcome = .ok count → rest = [] ∧ count = done.length := by
  have path_wellFormed := wellFormed_of_parse parsed
  refine ⟨path.map_value_sites document, ?_, ?_, ?_, ?_⟩
  · exact findSites_standsIn wellFormed (Site.rootSite_standsIn document)
  · exact sites_pairwise path_wellFormed assignable unfiltered level wellFormed unions
  · intro Memory answer memory
    have keeps : (Action.modify answer).isSet = false := rfl
    rcases runEdit_maps path_wellFormed assignable unfiltered level wellFormed unions keeps memory with
      ⟨calls, rest, areCalls, split, apart, overlay, all⟩
    rw [modify, edit_of_isAssignable assignable]
    refine ⟨calls, rest, areCalls, split, ?_, ?_, all⟩
    · have answered := path.calls_answered none answer memory document assignable
      rwa [edit_of_isAssignable assignable, Path.calls, ← areCalls] at answered
    · apply overlay
      intro call isCall new replied
      rw [replyAt_of_mem apart call isCall, replied]
      rfl
  · have keeps : (.delete : Action Unit).isSet = false := rfl
    rcases runEdit_maps path_wellFormed assignable unfiltered level wellFormed unions keeps () with
      ⟨calls, rest, rfl, split, -, overlay, all⟩
    rw [delete, edit_of_isAssignable assignable]
    have replies := @Plan.reply_of_delete _ (path.plan .delete none) (.start document ()) [⟨[], 0⟩] rfl
    generalize (path.plan .delete none).calls (.start document ()) [⟨[], 0⟩] = calls at split overlay all replies
    refine ⟨calls.map Call.site, rest, split, ?_, ?_⟩
    · apply (overlay _ fun _ _ _ _ => rfl).congr
      · rintro _ ⟨call, isCall, -, rfl⟩
        rw [List.map_map]
        exact List.mem_map_of_mem isCall
      · rintro place ⟨isDone, -⟩
        rw [List.map_map] at isDone
        rcases List.mem_map.1 isDone with ⟨call, isCall, rfl⟩
        exact ⟨call, isCall, by rw [replies call isCall]; rfl, rfl⟩
    · intro count succeeds
      rcases all count succeeds with ⟨nothing, isCount⟩
      refine ⟨nothing, ?_⟩
      rw [isCount, List.length_map, List.countP_eq_length]
      intro call isCall
      rw [replies call isCall]
      rfl

end Mapping

/-- The path to the members `b` of the members `a` of three items. -/
def membersOfThreeItems : Path where
  fragments := [.root, .union [.index 0, .index 1, .index 2], .child "a", .child "b"]

/-- A document in which the second of the items has a scalar where the path goes on. -/
def scalarInTheMiddle : Value :=
  .array [.object [("a", .object [("b", .integer 1)])], .object [("a", .integer 5)],
    .object [("a", .object [("b", .integer 2)])]]

/-- The modification fails between the two sites: it was called on the first one only, and has replaced it. -/
theorem modify_maps_sites_membersOfThreeItems :
    Path.parse membersOfThreeItems.text = .ok membersOfThreeItems ∧ membersOfThreeItems.isAssignable? = some true ∧
      (∀ fragment ∈ membersOfThreeItems.fragments, fragment.isFilter = false) ∧
      (∀ fragment ∈ membersOfThreeItems.fragments, fragment.isDescent = false) ∧ scalarInTheMiddle.WellFormed ∧
      (∀ k selectors, membersOfThreeItems.fragments[k]? = some (.union selectors) →
        ∀ node ∈ membersOfThreeItems.nodes scalarInTheMiddle k, (node.slots selectors).Nodup) ∧
      (membersOfThreeItems.sites scalarInTheMiddle).map Site.location =
        [[.index 0, .field "a", .field "b"], [.index 2, .field "a", .field "b"]] ∧
      (membersOfThreeItems.modify timesTen () scalarInTheMiddle).outcome =
        .error (.cannotFollow .integer "$[0,1,2].a") ∧
      (∃ calls rest, calls.map (fun call => (call.location, call.reply)) =
          [([.index 0, .field "a", .field "b"], some (.integer 10))] ∧
        membersOfThreeItems.sites scalarInTheMiddle = calls.map Call.site ++ rest ∧
        Overlay scalarInTheMiddle (membersOfThreeItems.modify timesTen () scalarInTheMiddle).document (Replied calls)
          (replyAt calls)) ∧
      ∃ done rest, membersOfThreeItems.sites scalarInTheMiddle = done ++ rest ∧
        Overlay scalarInTheMiddle (membersOfThreeItems.delete scalarInTheMiddle).document (· ∈ done.map Site.location)
          (fun location => location.getLast?.bind Value.leftover) := by
  have parsed : Path.parse membersOfThreeItems.text = .ok membersOfThreeItems :=
    parse_text_of_wellFormed ⟨by simp [membersOfThreeItems, Fragment.WellFormed],
      by simp [membersOfThreeItems, Fragment.isAnchor]⟩
  have unfiltered : ∀ fragment ∈ membersOfThreeItems.fragments, fragment.isFilter = false := by
    simp [membersOfThreeItems, Fragment.isFilter]
  have level : ∀ fragment ∈ membersOfThreeItems.fragments, fragment.isDescent = false := by
    simp [membersOfThreeItems, Fragment.isDescent]
  have wellFormed : scalarInTheMiddle.WellFormed := by
    simp [scalarInTheMiddle, Value.WellFormed, Value.WellFormedItems, Value.WellFormedMembers, Members.Ordered]
  have reached : membersOfThreeItems.nodes scalarInTheMiddle 1 = [scalarInTheMiddle] := by cbv
  have unions : ∀ k selectors, membersOfThreeItems.fragments[k]? = some (.union selectors) →
      ∀ node ∈ membersOfThreeItems.nodes scalarInTheMiddle k, (node.slots selectors).Nodup := by
    intro k selectors here node isNode
    have isUnion : k = 1 := by
      rcases k with _ | _ | _ | _ | k
      · cases here
      · rfl
      · cases here
      · cases here
      · cases here
    rcases isUnion with rfl
    rcases Fragment.union.inj (Option.some.inj here) with rfl
    rw [reached, List.mem_singleton] at isNode
    rw [isNode]
    decide
  have areCalls : (membersOfThreeItems.calls none timesTen () scalarInTheMiddle).map
      (fun call => (call.location, call.reply)) =
        [([.index 0, .field "a", .field "b"], some (.integer 10))] := by cbv
  have stops : ((membersOfThreeItems.plan (.modify timesTen) none).run (.start scalarInTheMiddle ()) [⟨[], 0⟩]).2 =
      some (.scalar .integer 3) := by cbv
  have fails : (membersOfThreeItems.modify timesTen () scalarInTheMiddle).outcome =
      .error (.cannotFollow .integer "$[0,1,2].a") := by
    rw [modify, edit_of_isAssignable rfl]
    simp only [runEdit, stops]
    rfl
  rcases modify_maps_sites parsed rfl unfiltered level wellFormed unions with ⟨-, -, -, modifies, deletes⟩
  rcases modifies Unit timesTen () with ⟨calls, rest, rfl, split, -, overlay, -⟩
  rcases deletes with ⟨done, left, splitDone, overlayDone, -⟩
  exact ⟨parsed, rfl, unfiltered, level, wellFormed, unions, rfl, fails,
    ⟨_, rest, areCalls, split, overlay⟩, done, left, splitDone, overlayDone⟩

end Path

end TreePath

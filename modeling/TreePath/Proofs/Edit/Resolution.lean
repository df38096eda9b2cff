import TreePath.Proofs.Edit.Operations

/-!
# Edits change what the unchanged document says

An edit looks for places while it changes the document. For paths without filters it still changes just
the places that can be told from the document as it was: those that are due, as long as none of them is within
another one. `Resolves` is what holds all along. The document is the one of the beginning in two layers,
first with the gaps filled that were met, and then with the places overwritten that were changed. Whatever is due is
changed or awaited by a task, and a task awaits nothing that is not due, or it stands where nothing is found any
more.
-/

namespace TreePath

namespace Plan

variable {Memory : Type}

/-- A plan to set or delete everything that steps without filters pick. The first steps up to `lead` are left aside. -/
structure Regular (plan : Plan Memory) (lead : Nat) : Prop where
  simple : plan.action.isModify = false
  unlimited : plan.limit = none
  unfiltered : ∀ step ∈ plan.steps, step.isFilter = false
  assignable : ∀ last ∈ plan.steps.getLast?, last.isAssignable = true
  plain : ∀ step ∈ plan.steps.drop lead, step.isAnchor = false

/-- The container that fills gaps, if the plan fills them at all. -/
def filler (plan : Plan Memory) : Option Value :=
  if plan.action.isSet then filler? plan.steps else none

/-- A location that the steps pick in the unchanged document. -/
def Aims (plan : Plan Memory) (lead : Nat) (start : Value) (target : Location) : Prop :=
  start.IsTarget plan.filler (plan.steps.drop lead) [] target

/-- A location that is to be changed. What does not exist cannot be deleted. -/
def Due (plan : Plan Memory) (lead : Nat) (start : Value) (target : Location) : Prop :=
  plan.Aims lead start target ∧ (plan.action.isSet = true ∨ (start.at? target).isSome = true)

/-- A location that a task is going to pick: in the unchanged document, or in a gap that was filled. -/
def Awaits (plan : Plan Memory) (start : Value) (gaps : Location → Prop) (task : Task) (target : Location) : Prop :=
  start.IsTarget plan.filler (plan.steps.drop task.index) task.location target ∨
    ∃ container last segment, plan.filler = some container ∧ plan.steps.drop task.index = [last] ∧
      gaps task.location ∧ segment ∈ last.segments container ∧ target = task.location ++ [segment]

/-- What holds between the tasks of an edit. -/
structure Resolves (plan : Plan Memory) (lead : Nat) (start : Value) (progress : Progress Memory) (tasks : List Task)
    (base : Value) (gaps changed : Location → Prop) : Prop where
  filled : Overlay start base gaps fun _ => plan.filler
  edited : Overlay base progress.document changed plan.action.result
  isGap : ∀ gap, gaps gap → plan.filler.isSome = true ∧ start.IsGap (plan.steps.drop lead) [] gap
  isDue : ∀ target, changed target → plan.Due lead start target
  noted : ∀ target ∈ progress.written, changed target
  remembered : plan.action.isSet = true → plan.descends = true →
    ∀ target, changed target → target ∈ progress.written
  inside : ∀ task ∈ tasks, lead ≤ task.index
  level : plan.descends = false → ∀ task ∈ tasks, task.location.length + lead = task.index
  sound : ∀ task ∈ tasks, Within changed task.location ∨ ∀ target,
    start.IsTarget plan.filler (plan.steps.drop task.index) task.location target → plan.Aims lead start target
  complete : ∀ target, Outermost (plan.Due lead start) target → changed target ∨
    ∃ task ∈ tasks, plan.Awaits start gaps task target

variable {plan : Plan Memory} {lead : Nat} {start : Value}

/-! ## Steps and lengths -/

theorem Regular.plain_drop (regular : plan.Regular lead) {index : Nat} (inside : lead ≤ index) :
    ∀ step ∈ plan.steps.drop index, step.isAnchor = false := by
  intro step member
  apply regular.plain step
  have split : plan.steps.drop index = (plan.steps.drop lead).drop (index - lead) := by
    rw [List.drop_drop]
    congr 1
    omega
  rw [split] at member
  exact List.mem_of_mem_drop member

theorem drop_eq_cons {index : Nat} {step : Step} (here : plan.steps[index]? = some step) :
    plan.steps.drop index = step :: plan.steps.drop (index + 1) := by
  rcases List.getElem?_eq_some_iff.1 here with ⟨within, rfl⟩
  exact List.drop_eq_getElem_cons within

theorem Regular.plain_at (regular : plan.Regular lead) {index : Nat} (inside : lead ≤ index) {step : Step}
    (here : plan.steps[index]? = some step) : step.isAnchor = false := by
  apply regular.plain_drop inside
  rw [drop_eq_cons here]
  exact List.mem_cons_self

theorem isDescent_eq_false (level : plan.descends = false) {index : Nat} :
    ∀ step ∈ plan.steps.drop index, step.isDescent = false := by
  intro step member
  rw [descends, List.any_eq_false] at level
  simpa using level step (List.mem_of_mem_drop member)

theorem descends_of_filler (isSome : plan.filler.isSome = true) : plan.descends = false := by
  cases descends : plan.descends with
  | false => rfl
  | true =>
      rw [Plan.descends] at descends
      simp [filler, filler?, descends] at isSome

theorem isSet_of_filler (isSome : plan.filler.isSome = true) : plan.action.isSet = true := by
  cases isSet : plan.action.isSet with
  | true => rfl
  | false => simp [filler, isSet] at isSome

theorem Aims.length_eq (regular : plan.Regular lead) (level : plan.descends = false) {target : Location}
    (aims : plan.Aims lead start target) : target.length + lead = plan.steps.length := by
  have length := Value.IsTarget.length_eq regular.plain (isDescent_eq_false level) aims
  have below := (Value.IsTarget.below regular.plain aims).2
  have positive : target.length ≠ 0 := by
    intro isZero
    rw [List.eq_nil_of_length_eq_zero isZero] at below
    exact below.2 rfl
  rw [List.length_drop, List.length_nil] at length
  omega

namespace Resolves

variable {progress later : Progress Memory} {task : Task} {tasks more : List Task} {base : Value}
  {gaps changed : Location → Prop}

theorem length_gap (regular : plan.Regular lead)
    (resolves : plan.Resolves lead start progress tasks base gaps changed) {gap : Location} (isGap : gaps gap) :
    plan.descends = false ∧ gap.length + 1 + lead = plan.steps.length := by
  rcases resolves.isGap gap isGap with ⟨isSome, isGap⟩
  have level := descends_of_filler isSome
  have length := Value.IsGap.length_eq regular.plain (isDescent_eq_false level) isGap
  rw [List.length_drop, List.length_nil] at length
  exact ⟨level, by omega⟩

/-- Nothing that is due and outermost lies below a place that was changed. -/
theorem not_within (resolves : plan.Resolves lead start progress tasks base gaps changed) {location target : Location}
    (outermost : Outermost (plan.Due lead start) target) (above : location <+: target)
    (different : location ≠ target) : ¬ Within changed location := by
  rintro ⟨place, isChanged, isAbove⟩
  have same := outermost.2 place (resolves.isDue place isChanged) (isAbove.trans above)
  rw [same] at isAbove
  exact different (above.eq_of_length_le isAbove.length_le)

theorem awaits_below (regular : plan.Regular lead)
    (resolves : plan.Resolves lead start progress tasks base gaps changed) (member : task ∈ tasks)
    {target : Location} (awaits : plan.Awaits start gaps task target) :
    task.location <+: target ∧ task.location ≠ target := by
  rcases awaits with isTarget | ⟨_, _, segment, _, _, _, _, rfl⟩
  · exact (isTarget.below (regular.plain_drop (resolves.inside task member))).2
  · simp

/-! ## Tasks that give way to others -/

/-- A task gives way to tasks that await all that it awaits, and nothing is changed. -/
theorem replace (resolves : plan.Resolves lead start progress (task :: tasks) base gaps changed)
    (inside : ∀ next ∈ more, lead ≤ next.index)
    (level : plan.descends = false → ∀ next ∈ more, next.location.length + lead = next.index)
    (sound : ∀ next ∈ more, Within changed next.location ∨ ∀ target,
      start.IsTarget plan.filler (plan.steps.drop next.index) next.location target → plan.Aims lead start target)
    (complete : ∀ target, Outermost (plan.Due lead start) target → plan.Awaits start gaps task target →
      changed target ∨ ∃ next ∈ more, plan.Awaits start gaps next target) :
    plan.Resolves lead start progress (more ++ tasks) base gaps changed := by
  refine { resolves with inside := ?_, level := ?_, sound := ?_, complete := ?_ }
  · intro next member
    rcases List.mem_append.1 member with isNew | isOld
    · exact inside next isNew
    · exact resolves.inside next (List.mem_cons_of_mem _ isOld)
  · intro noDescent next member
    rcases List.mem_append.1 member with isNew | isOld
    · exact level noDescent next isNew
    · exact resolves.level noDescent next (List.mem_cons_of_mem _ isOld)
  · intro next member
    rcases List.mem_append.1 member with isNew | isOld
    · exact sound next isNew
    · exact resolves.sound next (List.mem_cons_of_mem _ isOld)
  · intro target outermost
    rcases resolves.complete target outermost with isChanged | ⟨next, member, awaits⟩
    · exact .inl isChanged
    · rcases List.mem_cons.1 member with rfl | isOld
      · rcases complete target outermost awaits with isChanged | ⟨next, isNew, awaits⟩
        · exact .inl isChanged
        · exact .inr ⟨next, List.mem_append_left _ isNew, awaits⟩
      · exact .inr ⟨next, List.mem_append_right _ isOld, awaits⟩

/-- A task within a place that was changed awaits nothing that is due and outermost. -/
theorem drop (regular : plan.Regular lead)
    (resolves : plan.Resolves lead start progress (task :: tasks) base gaps changed)
    (within : Within changed task.location) : plan.Resolves lead start progress tasks base gaps changed := by
  show plan.Resolves lead start progress ([] ++ tasks) base gaps changed
  apply resolves.replace
  · simp
  · simp
  · simp
  · intro target outermost awaits
    have below := resolves.awaits_below regular List.mem_cons_self awaits
    exact absurd within (resolves.not_within outermost below.1 below.2)

theorem within_of_wrote (resolves : plan.Resolves lead start progress tasks base gaps changed)
    {location : Location} (wrote : progress.wrote location = true) : Within changed location := by
  rcases List.any_eq_true.1 wrote with ⟨place, member, above⟩
  exact ⟨place, resolves.noted place member, List.isPrefixOf_iff_prefix.1 above⟩

/-- Where a task stands within a changed place without having been noted, nothing is found any more. -/
theorem isContainerAt_eq_false (regular : plan.Regular lead)
    (resolves : plan.Resolves lead start progress tasks base gaps changed) (member : task ∈ tasks)
    (unwritten : progress.wrote task.location = false) (before : task.index < plan.steps.length)
    (within : Within changed task.location) : progress.document.isContainerAt task.location = false := by
  cases acts : plan.action with
  | set value =>
      exfalso
      have isSet : plan.action.isSet = true := by rw [acts]; rfl
      rcases within with ⟨place, isChanged, above⟩
      cases descends : plan.descends with
      | true =>
          have wrote : progress.wrote task.location = true :=
            List.any_eq_true.2 ⟨place, resolves.remembered isSet descends place isChanged,
              List.isPrefixOf_iff_prefix.2 above⟩
          rw [wrote] at unwritten
          cases unwritten
      | false =>
          have long := (resolves.isDue place isChanged).1.length_eq regular descends
          have short := resolves.level descends task member
          have := above.length_le
          omega
  | delete =>
      rcases within.exists_outermost with ⟨place, outermost, rest, same⟩
      have stored := resolves.edited.stored place outermost
      rw [acts, Action.result] at stored
      rw [← same, Value.isContainerAt, Value.at?_append, stored]
      cases place.getLast? with
      | none => rfl
      | some segment =>
          cases segment with
          | field name => rfl
          | index i => cases rest <;> rfl
  | modify answer =>
      have simple := regular.simple
      rw [acts] at simple
      cases simple

/-! ## Looking through the layers -/

/-- At a location outside of the changed places and the filled gaps the face is that of the beginning. -/
theorem face_eq (resolves : plan.Resolves lead start progress tasks base gaps changed) {location : Location}
    (live : ¬ Within changed location) (unfilled : ¬ Within gaps location) :
    (progress.document.at? location).map Value.face = (start.at? location).map Value.face :=
  (resolves.edited.kept location live).trans (resolves.filled.kept location unfilled)

theorem isSome_eq (resolves : plan.Resolves lead start progress tasks base gaps changed) {location : Location}
    (live : ¬ Within changed location) (unfilled : ¬ Within gaps location) :
    (progress.document.at? location).isSome = (start.at? location).isSome :=
  (resolves.edited.isSome_at?_eq live).trans (resolves.filled.isSome_at?_eq unfilled)

theorem isContainerAt_eq (resolves : plan.Resolves lead start progress tasks base gaps changed) {location : Location}
    (live : ¬ Within changed location) (unfilled : ¬ Within gaps location) :
    progress.document.isContainerAt location = start.isContainerAt location :=
  (resolves.edited.isContainerAt_eq live).trans (resolves.filled.isContainerAt_eq unfilled)

/-- In a filled gap there is what it was filled with, apart from its children. -/
theorem face_gap (regular : plan.Regular lead)
    (resolves : plan.Resolves lead start progress tasks base gaps changed) {gap : Location} (isGap : gaps gap)
    (live : ¬ Within changed gap) :
    (progress.document.at? gap).map Value.face = plan.filler.map Value.face := by
  have outermost : Outermost gaps gap := by
    refine ⟨isGap, ?_⟩
    intro other isOther above
    apply above.eq_of_length
    have := resolves.length_gap regular isGap
    have := resolves.length_gap regular isOther
    omega
  rw [resolves.edited.kept gap live, resolves.filled.stored gap outermost]

/-- A filled gap is met only by the last step. -/
theorem not_within_gaps (regular : plan.Regular lead)
    (resolves : plan.Resolves lead start progress tasks base gaps changed) {location : Location}
    (short : plan.descends = false → location.length + 1 + lead < plan.steps.length) :
    ¬ Within gaps location := by
  rintro ⟨gap, isGap, above⟩
  rcases resolves.length_gap regular isGap with ⟨level, length⟩
  have := short level
  have := above.length_le
  omega

/-- What lies within a filled gap, and not below it, is the gap. -/
theorem gaps_of_within (regular : plan.Regular lead)
    (resolves : plan.Resolves lead start progress tasks base gaps changed) {location : Location}
    (short : plan.descends = false → location.length + lead < plan.steps.length)
    (within : Within gaps location) : gaps location := by
  rcases within with ⟨gap, isGap, above⟩
  rcases resolves.length_gap regular isGap with ⟨level, length⟩
  have := short level
  have := above.length_le
  rwa [← above.eq_of_length (by omega)]

/-! ## Descents -/

theorem not_gaps (resolves : plan.Resolves lead start progress tasks base gaps changed)
    (unfilled : plan.filler = none) (location : Location) : ¬ Within gaps location := by
  rintro ⟨gap, isGap, -⟩
  have isSome := (resolves.isGap gap isGap).1
  rw [unfilled] at isSome
  cases isSome

theorem descend (regular : plan.Regular lead)
    (resolves : plan.Resolves lead start progress (task :: tasks) base gaps changed)
    (here : plan.steps[task.index]? = some .descent) :
    plan.Resolves lead start progress (descendTasks progress.document task ++ tasks) base gaps changed := by
  have inside : lead ≤ task.index := resolves.inside task List.mem_cons_self
  have descends : plan.descends = true := List.any_eq_true.2 ⟨.descent, List.mem_of_getElem? here, rfl⟩
  have unfilled : plan.filler = none := by
    cases found : plan.filler with
    | none => rfl
    | some container =>
        have level : plan.descends = false := descends_of_filler (by rw [found]; rfl)
        rw [descends] at level
        cases level
  have plain : ∀ step ∈ plan.steps.drop (task.index + 1), step.isAnchor = false :=
    regular.plain_drop (by omega)
  have split (place target : Location) := @Value.isTarget_descent start place _ target plain
  rw [← drop_eq_cons here] at split
  apply resolves.replace
  · intro next member
    rcases mem_descendTasks member with rfl | ⟨segment, rfl⟩
    · exact Nat.le_succ_of_le inside
    · exact inside
  · intro level
    rw [descends] at level
    cases level
  · intro next member
    rcases resolves.sound task List.mem_cons_self with within | sound
    · left
      rcases mem_descendTasks member with rfl | ⟨segment, rfl⟩
      · exact within
      · exact within.trans (List.prefix_append _ _)
    · right
      intro target isTarget
      apply sound
      rw [unfilled] at isTarget ⊢
      rcases mem_descendTasks member with rfl | ⟨segment, rfl⟩
      · exact (split _ _).2 (.inl isTarget)
      · have container := (isTarget.below (regular.plain_drop inside)).1
        exact (split _ _).2 (.inr ⟨segment, container, isTarget⟩)
  · intro target outermost awaits
    right
    rcases awaits with isTarget | ⟨container, last, segment, filled, -⟩
    · rw [unfilled, split] at isTarget
      rcases isTarget with isTarget | ⟨segment, container, isTarget⟩
      · refine ⟨⟨task.location, task.index + 1⟩, List.mem_cons_self, .inl ?_⟩
        rwa [unfilled]
      · have below := (isTarget.below (regular.plain_drop inside)).2
        have live := resolves.not_within outermost below.1 below.2
        rw [← resolves.isContainerAt_eq live (resolves.not_gaps unfilled _)] at container
        refine ⟨_, mem_descendTasks_of_isContainerAt container, .inl ?_⟩
        rwa [unfilled]
    · rw [unfilled] at filled
      cases filled

/-! ## The last step -/

/-- What a task awaits is picked in the unchanged document, unless the task stands within a changed place. -/
theorem aims_of_awaits (resolves : plan.Resolves lead start progress tasks base gaps changed) (member : task ∈ tasks)
    (live : ¬ Within changed task.location) {target : Location} (awaits : plan.Awaits start gaps task target) :
    plan.Aims lead start target := by
  rcases awaits with isTarget | ⟨container, last, segment, filled, isLast, isGap, isIn, rfl⟩
  · exact (resolves.sound task member).resolve_left live target isTarget
  · have inside := resolves.inside task member
    have split : plan.steps.drop task.index = (plan.steps.drop lead).drop (task.index - lead) := by
      rw [List.drop_drop]
      congr 1
      omega
    have isEnd := congrArg List.getLast? isLast
    rw [split, List.getLast?_drop] at isEnd
    split at isEnd
    · cases isEnd
    · exact .inr ⟨container, last, task.location, segment, filled, isEnd, (resolves.isGap _ isGap).2, isIn, rfl⟩

/-- Where something is awaited there is a container, unless the task stands within a changed place. -/
theorem isContainerAt_of_awaits (regular : plan.Regular lead)
    (resolves : plan.Resolves lead start progress tasks base gaps changed) (member : task ∈ tasks)
    (before : task.index < plan.steps.length) (live : ¬ Within changed task.location) {target : Location}
    (awaits : plan.Awaits start gaps task target) : progress.document.isContainerAt task.location = true := by
  rcases awaits with isTarget | ⟨container, last, segment, filled, isLast, isGap, isIn, rfl⟩
  · have holds := (isTarget.below (regular.plain_drop (resolves.inside task member))).1
    rw [resolves.isContainerAt_eq live, holds]
    intro within
    have isGap : gaps task.location := by
      apply resolves.gaps_of_within regular _ within
      intro level
      have := resolves.level level task member
      omega
    have vacant := (resolves.isGap _ isGap).2.isVacant.isContainerAt_eq_false
    rw [holds] at vacant
    cases vacant
  · have faces := resolves.face_gap regular isGap live
    rw [filled] at faces
    rw [Value.isContainerAt]
    cases found : progress.document.at? task.location with
    | none =>
        rw [found] at faces
        cases faces
    | some node =>
        rw [found, Option.map_some, Option.map_some, Option.some.injEq] at faces
        rw [Option.any_some, ← Value.isContainer_face, faces, Value.isContainer_face]
        exact Step.isContainer_of_mem_segments isIn

/-- A task awaits nothing due and outermost where there is no container. -/
theorem drop_of_closed (regular : plan.Regular lead)
    (resolves : plan.Resolves lead start progress (task :: tasks) base gaps changed)
    (before : task.index < plan.steps.length) (closed : progress.document.isContainerAt task.location = false) :
    plan.Resolves lead start progress tasks base gaps changed := by
  show plan.Resolves lead start progress ([] ++ tasks) base gaps changed
  apply resolves.replace
  · simp
  · simp
  · simp
  · intro target outermost awaits
    have below := resolves.awaits_below regular List.mem_cons_self awaits
    have live := resolves.not_within outermost below.1 below.2
    rw [resolves.isContainerAt_of_awaits regular List.mem_cons_self before live awaits] at closed
    cases closed

theorem segments_eq_nil {document node : Value} {location : Location} {step : Step}
    (closed : document.isContainerAt location = false) (found : document.at? location = some node) :
    step.segments node = [] := by
  rw [Value.isContainerAt, found, Option.any_some] at closed
  apply List.eq_nil_iff_forall_not_mem.2
  intro segment isIn
  rw [Step.isContainer_of_mem_segments isIn] at closed
  cases closed

theorem not_within_concat {places : Location → Prop} {location : Location} {segment : Segment}
    (notWithin : ¬ Within places location) (notHere : ¬ places (location ++ [segment])) :
    ¬ Within places (location ++ [segment]) := by
  rintro ⟨place, isPlace, above⟩
  rcases List.prefix_concat_iff.1 above with rfl | above
  · exact notHere isPlace
  · exact notWithin ⟨place, isPlace, above⟩

theorem drop_eq_singleton {step : Step} (here : plan.steps[task.index]? = some step)
    (isLast : task.index + 1 = plan.steps.length) : plan.steps.drop task.index = [step] := by
  rw [drop_eq_cons here, isLast, List.drop_length]

/-- In a gap that was filled, the last step picks what it names in the container that the gap was filled with. -/
theorem awaits_iff_of_gap (regular : plan.Regular lead)
    (resolves : plan.Resolves lead start progress tasks base gaps changed) {step : Step}
    (here : plan.steps[task.index]? = some step) (isLast : task.index + 1 = plan.steps.length)
    (live : ¬ Within changed task.location) {node : Value} (found : progress.document.at? task.location = some node)
    (isGap : gaps task.location) {segment : Segment} :
    plan.Awaits start gaps task (task.location ++ [segment]) ↔ segment ∈ step.segments node := by
  have faces := resolves.face_gap regular isGap live
  rcases resolves.isGap _ isGap with ⟨isSome, wasGap⟩
  rcases Option.isSome_iff_exists.1 isSome with ⟨container, filled⟩
  have isFiller := filled
  rw [filler, isSet_of_filler isSome, if_pos rfl] at isFiller
  rcases Step.exists_segment_of_filler? isFiller with ⟨last, _, isEnd, naming, -⟩
  have same : last = step := by
    rw [List.getLast?_eq_getElem?, ← isLast, Nat.add_sub_cancel, here] at isEnd
    exact (Option.some.inj isEnd).symm
  subst same
  rw [found, filled, Option.map_some, Option.map_some, Option.some.injEq] at faces
  rw [Awaits, drop_eq_singleton here isLast, Value.isTarget_singleton, ← Step.segments_face naming, faces,
    Step.segments_face naming]
  constructor
  · rintro (picks | ⟨other, _, segment, isOther, isStep, -, isIn, same⟩)
    · have vacant := wasGap.isVacant.isContainerAt_eq_false
      rw [picks.isContainerAt] at vacant
      cases vacant
    · rcases List.append_inj_right' same rfl with ⟨⟩
      rcases List.cons.inj isStep with ⟨rfl, -⟩
      rw [filled] at isOther
      rcases Option.some.inj isOther with rfl
      exact isIn
  · intro isIn
    exact .inr ⟨container, last, segment, filled, rfl, isGap, isIn, rfl⟩

/-- Elsewhere the last step picks what it picked in the unchanged document, apart from what was changed. -/
theorem awaits_iff_of_not_gap (regular : plan.Regular lead)
    (resolves : plan.Resolves lead start progress tasks base gaps changed) (member : task ∈ tasks) {step : Step}
    (here : plan.steps[task.index]? = some step) (isLast : task.index + 1 = plan.steps.length)
    (live : ¬ Within changed task.location) {node : Value} (found : progress.document.at? task.location = some node)
    (notGap : ¬ gaps task.location) {segment : Segment} (fresh : ¬ changed (task.location ++ [segment])) :
    plan.Awaits start gaps task (task.location ++ [segment]) ↔ segment ∈ step.segments node := by
  have unfilled : ¬ Within gaps task.location := by
    intro within
    apply notGap
    apply resolves.gaps_of_within regular _ within
    intro level
    have := resolves.level level task member
    omega
  have noGapBelow : ¬ gaps (task.location ++ [segment]) := by
    intro isGap
    rcases resolves.length_gap regular isGap with ⟨level, length⟩
    have := resolves.level level task member
    simp only [List.length_append, List.length_singleton] at length
    omega
  have faces := resolves.face_eq live unfilled
  rw [found] at faces
  rcases Value.exists_of_face_eq faces with ⟨old, isOld, sameFace⟩
  have exist := resolves.isSome_eq (not_within_concat live fresh) (not_within_concat unfilled noGapBelow)
  rw [Value.at?_concat, Value.at?_concat, found, isOld, Option.bind_some, Option.bind_some] at exist
  rw [Awaits, drop_eq_singleton here isLast, Value.isTarget_singleton,
    Step.mem_segments_congr sameFace.symm exist]
  constructor
  · rintro (⟨other, segment, isOther, isIn, same⟩ | ⟨_, _, _, _, _, isGap, _⟩)
    · rcases List.append_inj_right' same rfl with ⟨⟩
      rw [isOld] at isOther
      rcases Option.some.inj isOther with rfl
      exact isIn
    · exact absurd isGap notGap
  · intro isIn
    exact .inl ⟨old, segment, isOld, isIn, rfl⟩

/-- The last step picks now what it was to pick, except that it may pick again what has been changed. -/
theorem awaits_iff (regular : plan.Regular lead)
    (resolves : plan.Resolves lead start progress tasks base gaps changed) (member : task ∈ tasks) {step : Step}
    (here : plan.steps[task.index]? = some step) (isLast : task.index + 1 = plan.steps.length)
    (live : ¬ Within changed task.location) {node : Value} (found : progress.document.at? task.location = some node)
    {segment : Segment} (fresh : ¬ changed (task.location ++ [segment])) :
    plan.Awaits start gaps task (task.location ++ [segment]) ↔ segment ∈ step.segments node := by
  by_cases isGap : gaps task.location
  · exact resolves.awaits_iff_of_gap regular here isLast live found isGap
  · exact resolves.awaits_iff_of_not_gap regular member here isLast live found isGap fresh

/-- An edit stays resolved if a place that is due is changed and noted. -/
theorem store (resolves : plan.Resolves lead start progress tasks base gaps changed) {location : Location}
    {segment : Segment} (live : ¬ Within changed location) (isDue : plan.Due lead start (location ++ [segment]))
    (overlay : Overlay progress.document later.document (· = location ++ [segment]) plan.action.result)
    (written : later.written =
      if plan.action.isSet && plan.descends then (location ++ [segment]) :: progress.written
      else progress.written) :
    plan.Resolves lead start later tasks base gaps fun place => place = location ++ [segment] ∨ changed place := by
  refine { resolves with edited := ?_, isDue := ?_, noted := ?_, remembered := ?_, sound := ?_, complete := ?_ }
  · apply resolves.edited.cons overlay
    intro place isChanged above
    rcases List.prefix_concat_iff.1 above with same | above
    · exact same
    · exact absurd ⟨place, isChanged, above⟩ live
  · rintro place (rfl | isChanged)
    · exact isDue
    · exact resolves.isDue place isChanged
  · intro place member
    rw [written] at member
    split at member
    · rcases List.mem_cons.1 member with here | before
      · exact .inl here
      · exact .inr (resolves.noted place before)
    · exact .inr (resolves.noted place member)
  · rintro isSet descends place isChanged
    rw [written, isSet, descends, Bool.and_self, if_pos rfl]
    rcases isChanged with rfl | isChanged
    · exact List.mem_cons_self
    · exact List.mem_cons_of_mem _ (resolves.remembered isSet descends place isChanged)
  · intro task member
    rcases resolves.sound task member with within | sound
    · exact .inl (within.mono fun _ => .inr)
    · exact .inr sound
  · intro target outermost
    rcases resolves.complete target outermost with isChanged | awaited
    · exact .inl (.inr isChanged)
    · exact .inr awaited

/-- One child is changed that was picked in the unchanged document. -/
theorem change (regular : plan.Regular lead)
    (resolves : plan.Resolves lead start progress tasks base gaps changed) {location : Location} {segment : Segment}
    (live : ¬ Within changed location) (admitted : base.AdmitsAt location segment)
    (aims : plan.Aims lead start (location ++ [segment])) :
    ∃ changed', plan.Resolves lead start (plan.change progress location segment) tasks base gaps changed' ∧
      (∀ place, changed place → changed' place) ∧
      (∀ place, changed' place → place = location ++ [segment] ∨ changed place) ∧
      (plan.Due lead start (location ++ [segment]) → changed' (location ++ [segment])) := by
  -- An absent child can only be left out when values are deleted, and then no gaps are filled.
  have exist (deletes : plan.action.isSet = false) (fresh : ¬ changed (location ++ [segment])) :
      (progress.document.at? (location ++ [segment])).isSome = (start.at? (location ++ [segment])).isSome := by
    apply resolves.isSome_eq (not_within_concat live fresh)
    apply resolves.not_gaps
    rw [filler, deletes]
    rfl
  have now : progress.document.AdmitsAt location segment := (resolves.edited.admitsAt_iff live).2 admitted
  rcases change_cases regular.simple now with ⟨isThere, overlay, written⟩ | ⟨deletes, isAbsent, unchanged⟩
  · have isDue : plan.Due lead start (location ++ [segment]) := by
      by_cases before : changed (location ++ [segment])
      · exact resolves.isDue _ before
      · refine ⟨aims, ?_⟩
        cases isSet : plan.action.isSet with
        | true => exact .inl rfl
        | false =>
            right
            rw [isSet] at isThere
            rw [← exist isSet before]
            exact isThere.resolve_left (by simp)
    exact ⟨_, resolves.store live isDue overlay written, fun _ => .inr, fun _ => id, fun _ => .inl rfl⟩
  · rw [unchanged]
    refine ⟨changed, resolves, fun _ => id, fun _ => .inr, ?_⟩
    intro isDue
    apply Classical.byContradiction
    intro fresh
    have isThere := isDue.2.resolve_left (by simp [deletes])
    rw [← exist deletes fresh, isAbsent] at isThere
    cases isThere

theorem changeAll (regular : plan.Regular lead) {location : Location} {segments : List Segment}
    (resolves : plan.Resolves lead start progress tasks base gaps changed) (live : ¬ Within changed location)
    (admitted : ∀ segment ∈ segments, base.AdmitsAt location segment)
    (aims : ∀ segment ∈ segments, plan.Aims lead start (location ++ [segment])) :
    ∃ changed', plan.Resolves lead start (plan.changeAll progress location segments) tasks base gaps changed' ∧
      (∀ place, changed place → changed' place) ∧
      ∀ segment ∈ segments, plan.Due lead start (location ++ [segment]) → changed' (location ++ [segment]) := by
  induction segments generalizing progress changed with
  | nil =>
      refine ⟨changed, resolves, fun _ => id, ?_⟩
      intro segment member
      cases member
  | cons segment segments ih =>
      rcases resolves.change regular live (admitted segment List.mem_cons_self) (aims segment List.mem_cons_self) with
        ⟨next, resolves, more, noMore, here⟩
      have stillLive : ¬ Within next location := by
        rintro ⟨place, isChanged, above⟩
        rcases noMore place isChanged with rfl | before
        · exact not_within_child location segment ⟨_, rfl, above⟩
        · exact live ⟨place, before, above⟩
      rcases ih resolves stillLive (fun other member => admitted other (List.mem_cons_of_mem _ member))
        (fun other member => aims other (List.mem_cons_of_mem _ member)) with ⟨last, resolves, evenMore, others⟩
      have unfinished : plan.isDone progress.count = false := by
        rw [isDone, regular.unlimited]
      rw [Plan.changeAll, unfinished]
      refine ⟨last, resolves, fun place isChanged => evenMore place (more place isChanged), ?_⟩
      intro other member isDue
      rcases List.mem_cons.1 member with rfl | isLater
      · exact evenMore _ (here isDue)
      · exact others other isLater isDue

theorem finish (regular : plan.Regular lead)
    (resolves : plan.Resolves lead start progress (task :: tasks) base gaps changed)
    (unwritten : progress.wrote task.location = false) {step : Step} (here : plan.steps[task.index]? = some step)
    (isLast : task.index + 1 = plan.steps.length) {node : Value}
    (found : progress.document.at? task.location = some node) {segments : List Segment}
    (picked : plan.pick task.index progress.document node step = .ok segments) :
    ∃ changed', plan.Resolves lead start (plan.changeAll progress task.location segments) tasks base gaps changed' := by
  have before : task.index < plan.steps.length := by omega
  have isEnd : plan.steps.getLast? = some step := by
    rw [List.getLast?_eq_getElem?, ← isLast, Nat.add_sub_cancel, here]
  rw [pick_eq_ok (regular.unfiltered step (List.mem_of_getElem? here)) picked]
  by_cases within : Within changed task.location
  · have closed := resolves.isContainerAt_eq_false regular List.mem_cons_self unwritten before within
    rw [segments_eq_nil closed found]
    exact ⟨changed, resolves.drop_of_closed regular before closed⟩
  · have awaits {segment : Segment} (fresh : ¬ changed (task.location ++ [segment])) :=
      resolves.awaits_iff regular List.mem_cons_self here isLast within found fresh
    have admitted : ∀ segment ∈ step.segments node, base.AdmitsAt task.location segment := by
      intro segment isIn
      apply (resolves.edited.admitsAt_iff within).1
      exact ⟨node, found, Step.admits_of_mem_segments (regular.assignable step isEnd) isIn⟩
    have aims : ∀ segment ∈ step.segments node, plan.Aims lead start (task.location ++ [segment]) := by
      intro segment isIn
      by_cases isChanged : changed (task.location ++ [segment])
      · exact (resolves.isDue _ isChanged).1
      · exact resolves.aims_of_awaits List.mem_cons_self within ((awaits isChanged).2 isIn)
    rcases resolves.changeAll regular within admitted aims with ⟨changed', resolves', more, all⟩
    refine ⟨changed', ?_⟩
    show plan.Resolves lead start _ ([] ++ tasks) base gaps changed'
    refine resolves'.replace ?_ ?_ ?_ ?_
    · simp
    · simp
    · simp
    · intro target outermost isAwaited
      left
      have isChild : ∃ segment, target = task.location ++ [segment] := by
        rcases isAwaited with isTarget | ⟨_, _, segment, _, _, _, _, same⟩
        · rw [drop_eq_singleton here isLast, Value.isTarget_singleton] at isTarget
          rcases isTarget with ⟨_, segment, _, _, same⟩
          exact ⟨segment, same⟩
        · exact ⟨segment, same⟩
      rcases isChild with ⟨segment, rfl⟩
      by_cases isChanged : changed (task.location ++ [segment])
      · exact more _ isChanged
      · exact all segment ((awaits isChanged).1 isAwaited) outermost.1

end Resolves

end Plan

end TreePath

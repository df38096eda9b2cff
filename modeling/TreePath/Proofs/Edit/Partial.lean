import TreePath.Proofs.Edit.Errors
import TreePath.Proofs.Edit.Layers
import TreePath.Proofs.Edit.Single
import TreePath.Regex.Standard

/-!
# What a set leaves behind

Setting a value along a path without filters and descents assigns it to one target after the other, in the order of
`Path.targets`. `Assigns` says that what has been set and what the tasks are still to set are all targets, in order. A
container is created in front of the tasks for it, and not in use only as long as those are not done. So an obstacle
finds all containers in use, unless the last step meets it in a child beside them.
-/

namespace TreePath

/-- The value was set somewhere in the container that fills a gap. -/
def Value.HoldsOneOf (document : Value) (targets : List Location) (gap : Location) : Prop :=
  document.IsVacant gap ∧ ∃ segment, gap ++ [segment] ∈ targets

/--
What was filled beside what is in use, after the index of the last step was out of bounds in an array: all gaps that the
union before it names in the same node.
-/
structure LeavesGaps (steps : List Step) (document : Value) (gaps : Location → Prop) (done : List Location)
    (selectors : List Selector) (i : Int64) (place : Location) : Prop where
  isEnd : [.union selectors, .nth i] <:+ steps
  outside : ∃ segment items, document.Picks (.union selectors) place (place ++ [segment]) ∧
    document.at? (place ++ [segment]) = some (.array items) ∧ resolveIndex i items.length = none
  gaps_iff : ∀ gap, gaps gap ↔
    document.HoldsOneOf done gap ∨ document.IsGap [.union selectors, .nth i] place gap

namespace Plan

variable {Memory : Type} {plan : Plan Memory} {lead : Nat} {value start base : Value} {progress later : Progress Memory}
  {gaps : Location → Prop} {done : List Location} {location : Location} {node now : Value} {step : Step}

/-! ## Tasks and what they are still to set -/

/-- The targets of a task, given what stands at its location. -/
def ahead (plan : Plan Memory) (start : Value) (pair : Task × Value) : List Location :=
  targetsFrom start plan.filler (plan.steps.drop pair.1.index) pair.1.location pair.2

/-- A container was created in a gap, and in all others that the step names in the node. One of the tasks is for it. -/
inductive IsPending (plan : Plan Memory) (start : Value) (gaps : Location → Prop) (fresh : List (Task × Value))
    (gap : Location) : Prop
  | intro {step last : Step} {place : Location} (isEnd : [step, last] <:+ plan.steps)
      (isGap : start.IsGap [step, last] place gap) (all : ∀ other, start.IsGap [step, last] place other → gaps other)
      (picked : ∀ pair ∈ fresh, start.Picks step place pair.1.location)
      (awaited : ∃ pair ∈ fresh, pair.1.location = gap)

/--
What holds between the tasks. First come those for the last step, then the others, each with what stands at its
location.
-/
structure Assigns (plan : Plan Memory) (lead : Nat) (value start : Value) (progress : Progress Memory) (base : Value)
    (gaps : Location → Prop) (done : List Location) (fresh older : List (Task × Value)) : Prop where
  layers : plan.Layers lead value start progress base gaps done
  isLast : ∀ pair ∈ fresh, pair.1.index + 1 = plan.steps.length
  inner : ∀ pair ∈ older, pair.1.index + 1 < plan.steps.length
  level : ∀ pair ∈ fresh ++ older, pair.1.location.length + lead = pair.1.index
  stands : ∀ pair ∈ fresh ++ older, plan.Stands start gaps pair.1.location pair.2
  inOrder : targetsFrom start plan.filler (plan.steps.drop lead) [] start =
    done ++ (fresh ++ older).flatMap (plan.ahead start)
  filled : ∀ gap, start.HoldsOneOf done gap → gaps gap
  inUse : ∀ gap, gaps gap → start.HoldsOneOf done gap ∨ plan.IsPending start gaps fresh gap

namespace Assigns

variable {fresh older : List (Task × Value)} {task : Task} {segments : List Segment}

theorem ahead_last (plain : step.isAnchor = false) (here : plan.steps[task.index]? = some step)
    (isLast : task.index + 1 = plan.steps.length) :
    plan.ahead start (task, node) = (step.segments node).map fun segment => task.location ++ [segment] := by
  rw [ahead, Resolves.drop_eq_singleton here isLast, targetsFrom_last plain]

theorem gaps_of_vacant {segment : Segment} (stands : plan.Stands start gaps location node)
    (vacant : start.IsVacant location) (isIn : segment ∈ step.segments node) : gaps location := by
  rcases stands with ⟨found, -⟩ | ⟨isGap, -⟩
  · have container := Step.isContainer_of_mem_segments isIn
    rw [Value.IsVacant, found, Option.all_some, isNull_of_isContainer container] at vacant
    cases vacant
  · exact isGap

/-- In a gap that was filled, the last step picks something. -/
theorem segments_ne_nil (isGap : gaps location) (here : plan.steps[task.index]? = some step)
    (isLast : task.index + 1 = plan.steps.length) (stands : plan.Stands start gaps location node) :
    step.segments node ≠ [] := by
  rcases stands with ⟨-, notGap⟩ | ⟨-, filled⟩
  · exact absurd isGap notGap
  · rcases Step.exists_segment_of_filler? (filler?_of_filler filled) with ⟨last, segment, isEnd, -, isIn⟩
    rw [List.getLast?_eq_getElem?, ← isLast, Nat.add_sub_cancel, here] at isEnd
    rcases Option.some.inj isEnd
    exact List.ne_nil_of_mem isIn

/-! ## The last step -/

/-- The last step sets the value at the targets of its task. -/
theorem finish (sets : plan.SetsAll lead value) (wellFormed : start.WellFormed)
    (assigns : plan.Assigns lead value start progress base gaps done ((task, node) :: fresh) older)
    (here : plan.steps[task.index]? = some step) (isNow : progress.document.at? task.location = some now)
    (picked : plan.pick task.index progress.document now step = .ok segments) :
    plan.Assigns lead value start (plan.changeAll progress task.location segments) base gaps
      (done ++ plan.ahead start (task, node)) fresh older := by
  have isLast := assigns.isLast _ List.mem_cons_self
  have level := assigns.level _ List.mem_cons_self
  have stands := assigns.stands _ List.mem_cons_self
  simp only at isLast level stands
  have short : task.location.length + lead < plan.steps.length := by omega
  have assignable : step.isAssignable = true := by
    apply sets.regular.assignable step
    rw [List.getLast?_eq_getElem?, ← isLast, Nat.add_sub_cancel, here]
    exact rfl
  rcases assigns.layers.exists_now short stands with ⟨same, isSame, -, sameSegments⟩
  rcases Option.some.inj (isNow.symm.trans isSame)
  have areSegments := pick_eq_ok (sets.regular.unfiltered step (List.mem_of_getElem? here)) picked
  have sameSegments := sameSegments step (by rw [level, here])
  have isAhead : plan.ahead start (task, node) = segments.map fun segment => task.location ++ [segment] := by
    rw [ahead_last (sets.regular.plain_at (by omega) here) here isLast, areSegments, sameSegments]
  have layers := @Layers.changeAll _ plan lead value start base progress gaps done task.location sets wellFormed segments
    assigns.layers (by omega) (by
      intro segment isIn
      apply (assigns.layers.admitsAt_iff short).1
      rw [areSegments] at isIn
      exact ⟨now, isNow, Step.admits_of_mem_segments assignable isIn⟩) (by
      intro isWildcard segment isIn
      rcases stands with ⟨found, -⟩ | ⟨isGap, -⟩
      · rw [level, here] at isWildcard
        rcases Option.some.inj isWildcard
        rw [areSegments, sameSegments] at isIn
        rw [Value.at?_concat, found, Option.bind_some]
        exact Value.mem_segments.1 isIn
      · exact absurd isWildcard (assigns.layers.not_wildcard isGap))
  rw [← isAhead] at layers
  refine ⟨layers, fun pair isIn => assigns.isLast pair (List.mem_cons_of_mem _ isIn), assigns.inner,
    fun pair isIn => assigns.level pair (List.mem_cons_of_mem _ isIn),
    fun pair isIn => assigns.stands pair (List.mem_cons_of_mem _ isIn), ?_, ?_, ?_⟩
  · rw [assigns.inOrder, List.cons_append, List.flatMap_cons, List.append_assoc]
  · rintro gap ⟨vacant, segment, isDone⟩
    rcases List.mem_append.1 isDone with before | isNew
    · exact assigns.filled gap ⟨vacant, segment, before⟩
    · rw [isAhead, areSegments, sameSegments] at isNew
      rcases List.mem_map.1 isNew with ⟨other, isIn, same⟩
      rcases List.append_inj_left' same rfl
      exact gaps_of_vacant stands vacant isIn
  · intro gap isGap
    have used : start.HoldsOneOf done gap → start.HoldsOneOf (done ++ plan.ahead start (task, node)) gap := by
      rintro ⟨vacant, segment, isDone⟩
      exact ⟨vacant, segment, List.mem_append_left _ isDone⟩
    rcases assigns.inUse gap isGap with before | ⟨isEnd, isGap', all, picked, pair, isPair, isHere⟩
    · exact .inl (used before)
    · rcases List.mem_cons.1 isPair with rfl | isLater
      · -- The container of this task is put to use.
        left
        subst isHere
        rcases List.exists_mem_of_ne_nil _ (segments_ne_nil isGap here isLast stands) with ⟨segment, isIn⟩
        refine ⟨isGap'.2.2, segment, List.mem_append_right _ ?_⟩
        rw [isAhead, areSegments, sameSegments]
        exact List.mem_map.2 ⟨segment, isIn, rfl⟩
      · exact .inr ⟨isEnd, isGap', all, fun other isOther => picked other (List.mem_cons_of_mem _ isOther),
          pair, isLater, isHere⟩

end Assigns

/-! ## The steps before -/

section Onward

variable {task : Task}

/-- The tasks that come of a task, each with what stands at its location. -/
def onward (plan : Plan Memory) (task : Task) (step : Step) (node : Value) : List (Task × Value) :=
  (step.entries (plan.fillerAt task.index step) node).map fun entry =>
    (⟨task.location ++ [entry.1], task.index + 1⟩, entry.2)

theorem mem_onward {pair : Task × Value} :
    pair ∈ onward plan task step node ↔ ∃ segment child, segment ∈ step.segments node ∧
      node.enter (plan.fillerAt task.index step) segment = some child ∧
      pair = (⟨task.location ++ [segment], task.index + 1⟩, child) := by
  simp only [onward, List.mem_map, Prod.exists, Step.mem_entries]
  constructor
  · rintro ⟨segment, child, ⟨isIn, entered⟩, rfl⟩
    exact ⟨segment, child, isIn, entered, rfl⟩
  · rintro ⟨segment, child, isIn, entered, rfl⟩
    exact ⟨segment, child, ⟨isIn, entered⟩, rfl⟩

/-- A task and those that come of it have the same targets in the same order. -/
theorem ahead_eq_flatMap (plain : step.isAnchor = false) (here : plan.steps[task.index]? = some step)
    (inner : task.index + 1 < plan.steps.length) :
    plan.ahead start (task, node) = (onward plan task step node).flatMap (plan.ahead start) := by
  rcases List.getElem?_eq_some_iff.2 ⟨inner, rfl⟩ with next
  have isEmpty : (plan.steps.drop (task.index + 1 + 1)).isEmpty = decide (task.index + 2 = plan.steps.length) := by
    rw [Bool.eq_iff_iff, List.isEmpty_iff, List.drop_eq_nil_iff, decide_eq_true_iff]
    omega
  have isFiller : (if step.isNaming && (plan.steps.drop (task.index + 1 + 1)).isEmpty then plan.filler else none) =
      plan.fillerAt task.index step := by
    rw [isEmpty]
    rfl
  rw [ahead, drop_eq_cons here, drop_eq_cons next, targetsFrom_cons plain, isFiller, onward, List.flatMap_map]
  simp only [ahead, drop_eq_cons next]

end Onward

/-- A task is about to be replaced by those for the children to which its step, which is not the last, goes on. -/
structure Follows (plan : Plan Memory) (lead : Nat) (value start : Value) (progress : Progress Memory) (base : Value)
    (gaps : Location → Prop) (done : List Location) (task : Task) (step : Step) (node now : Value)
    (ways : List (Segment × Option Value)) : Prop where
  sets : plan.SetsAll lead value
  layers : plan.Layers lead value start progress base gaps done
  level : task.location.length + lead = task.index
  inner : task.index + 1 < plan.steps.length
  here : plan.steps[task.index]? = some step
  found : start.at? task.location = some node
  isNow : progress.document.at? task.location = some now
  same : step.segments now = step.segments node
  approached : plan.approachAll task.index step now (step.segments now) = .ok ways

namespace Follows

variable {task : Task} {ways : List (Segment × Option Value)} {segment : Segment}

theorem strict (follows : plan.Follows lead value start progress base gaps done task step node now ways) :
    plan.isStrict task.index = true :=
  Resolves.isStrict_of_level follows.sets.level (Nat.lt_of_succ_lt follows.inner)

/-- The tasks are those for the children that can be gone into in the node as it was. -/
theorem tasks_eq (follows : plan.Follows lead value start progress base gaps done task step node now ways) :
    (ways.map fun way => (⟨task.location ++ [way.1], task.index + 1⟩ : Task)) =
      (onward plan task step node).map Prod.fst := by
  rcases follows with ⟨sets, layers, level, inner, here, found, isNow, same, approached⟩
  have alike : ∀ segment ∈ step.segments now, IsAlike (plan.fillerAt task.index step) now node segment := by
    intro segment _
    rw [← level] at here inner ⊢
    exact layers.isAlike inner here found isNow
  have strict := @Resolves.isStrict_of_level _ plan sets.level task.index (by omega)
  have firsts := map_fst_approachAll strict sets.isSet alike approached
  rw [same] at firsts
  have asFirsts : (ways.map fun way => (⟨task.location ++ [way.1], task.index + 1⟩ : Task)) =
      (ways.map Prod.fst).map fun segment => ⟨task.location ++ [segment], task.index + 1⟩ := by
    rw [List.map_map]
    rfl
  rw [asFirsts, firsts, onward, Step.entries, List.map_map, List.map_map]
  rfl

theorem fillable (follows : plan.Follows lead value start progress base gaps done task step node now ways)
    {gap : Location} (isGap : Resolves.Filled gaps task.location ways gap) : plan.Fillable lead start gap := by
  rcases follows with ⟨-, layers, level, -, here, -, isNow, -, approached⟩
  rw [← level] at here approached
  exact layers.fillable_of_filled here isNow approached isGap

/-- A gap that can be gone into is filled. -/
theorem filled (follows : plan.Follows lead value start progress base gaps done task step node now ways)
    (isIn : segment ∈ step.segments node) (vacant : (node.child? segment).all Value.isNull = true) {container : Value}
    (fills : plan.fillerAt task.index step = some container) :
    Resolves.Filled gaps task.location ways (task.location ++ [segment]) := by
  have strict := follows.strict
  rcases follows with ⟨sets, layers, level, -, here, found, isNow, same, approached⟩
  rw [← same] at isIn
  rw [← level] at approached strict fills
  apply layers.filled_of_vacant strict sets.isSet isNow approached isIn _ fills
  rwa [Value.IsVacant, Value.at?_concat, found]

/-- A container is in the document before there is a task for its children. -/
theorem stands (follows : plan.Follows lead value start progress base gaps done task step node now ways) :
    ∀ pair ∈ onward plan task step node,
      plan.Stands start (Resolves.Filled gaps task.location ways) pair.1.location pair.2 := by
  intro pair isPair
  rcases mem_onward.1 isPair with ⟨segment, child, isIn, entered, rfl⟩
  rcases Value.enter_cases entered with ⟨isChild, container⟩ | ⟨vacant, filled⟩
  · left
    have isThere : start.at? (task.location ++ [segment]) = some child := by
      rw [Value.at?_concat, follows.found, Option.bind_some, isChild]
    refine ⟨isThere, ?_⟩
    intro isGap
    have vacant := (follows.fillable isGap).vacant
    rw [Value.IsVacant, isThere, Option.all_some, isNull_of_isContainer container] at vacant
    cases vacant
  · exact .inr ⟨follows.filled isIn vacant filled, (fillerAt_eq_some.1 filled).2.2⟩

/-- There is a task for each container that is created. -/
theorem exists_onward (follows : plan.Follows lead value start progress base gaps done task step node now ways)
    {container : Value} (isCreated : (segment, some container) ∈ ways) :
    ∃ pair ∈ onward plan task step node, pair.1.location = task.location ++ [segment] := by
  have isTask : (⟨task.location ++ [segment], task.index + 1⟩ : Task) ∈ (onward plan task step node).map Prod.fst := by
    rw [← follows.tasks_eq]
    exact List.mem_map.2 ⟨_, isCreated, rfl⟩
  rcases List.mem_map.1 isTask with ⟨pair, isPair, isHere⟩
  exact ⟨pair, isPair, by rw [isHere]⟩

/-- Containers that are created are awaited by the tasks that come. -/
theorem isPending (follows : plan.Follows lead value start progress base gaps done task step node now ways)
    {container : Value} (isCreated : (segment, some container) ∈ ways) :
    task.index + 2 = plan.steps.length ∧
      plan.IsPending start (Resolves.Filled gaps task.location ways) (onward plan task step node)
        (task.location ++ [segment]) := by
  rcases (mem_approachAll follows.approached).1 isCreated with ⟨isIn, isWay⟩
  rcases Resolves.way_created isWay with ⟨isFiller, isEnd, naming, -⟩
  have fills := fillerAt_eq_some.2 ⟨naming, isEnd, isFiller⟩
  have vacant := (follows.fillable (.inr ⟨segment, container, isCreated, rfl⟩)).vacant
  rcases Step.exists_segment_of_filler? (filler?_of_filler isFiller) with ⟨last, -, isLast, -⟩
  rw [follows.same] at isIn
  refine ⟨isEnd, suffix_of_here follows.here isEnd isLast,
    ⟨naming, ⟨node, segment, follows.found, isIn, rfl⟩, vacant⟩, ?_, ?_, follows.exists_onward isCreated⟩
  · rintro _ ⟨-, ⟨other, segment, isSame, isIn, rfl⟩, vacant⟩
    rcases Option.some.inj (follows.found.symm.trans isSame)
    rw [Value.IsVacant, Value.at?_concat, follows.found] at vacant
    exact follows.filled isIn vacant fills
  · intro pair isPair
    rcases mem_onward.1 isPair with ⟨segment, child, isIn, -, rfl⟩
    exact ⟨node, segment, follows.found, isIn, rfl⟩

end Follows

namespace Assigns

variable {fresh older : List (Task × Value)} {task : Task} {ways : List (Segment × Option Value)}

/-- Going on to children leaves the targets to be those that are done and those that the tasks are still to set. -/
theorem follow (assigns : plan.Assigns lead value start progress base gaps done [] ((task, node) :: older))
    (follows : plan.Follows lead value start progress base gaps done task step node now ways) :
    ∃ base' gaps' fresh' older', fresh' ++ older' = onward plan task step node ++ older ∧
      plan.Assigns lead value start { progress with document := create progress.document task.location ways } base' gaps'
        done fresh' older' := by
  have created : ∃ base', plan.Layers lead value start
      { progress with document := create progress.document task.location ways } base'
      (Resolves.Filled gaps task.location ways) done := by
    rcases follows with ⟨-, layers, level, inner, here, -, isNow, -, approached⟩
    rw [← level] at inner here approached
    exact layers.create inner here isNow approached
  rcases created with ⟨base', layers⟩
  have level : ∀ pair ∈ onward plan task step node ++ older, pair.1.location.length + lead = pair.1.index := by
    intro pair isPair
    rcases List.mem_append.1 isPair with isNew | isOld
    · rcases mem_onward.1 isNew with ⟨segment, child, -, -, rfl⟩
      have := follows.level
      simp only [List.length_append, List.length_singleton]
      omega
    · exact assigns.level pair (List.mem_cons_of_mem _ isOld)
  have stands : ∀ pair ∈ onward plan task step node ++ older,
      plan.Stands start (Resolves.Filled gaps task.location ways) pair.1.location pair.2 := by
    intro pair isPair
    rcases List.mem_append.1 isPair with isNew | isOld
    · exact follows.stands pair isNew
    · -- What is created is deeper than where the tasks before stand.
      have level := assigns.level pair (List.mem_cons_of_mem _ isOld)
      have inner := assigns.inner pair (List.mem_cons_of_mem _ isOld)
      rcases assigns.stands pair (List.mem_cons_of_mem _ isOld) with ⟨found, -⟩ | ⟨isGap, isFiller⟩
      · refine .inl ⟨found, ?_⟩
        intro isGap
        have := (follows.fillable isGap).deep
        omega
      · exact .inr ⟨.inl isGap, isFiller⟩
  have inOrder : targetsFrom start plan.filler (plan.steps.drop lead) [] start =
      done ++ (onward plan task step node ++ older).flatMap (plan.ahead start) := by
    have plain := follows.sets.regular.plain_at (by have := follows.level; omega) follows.here
    rw [assigns.inOrder, List.nil_append, List.flatMap_cons, ahead_eq_flatMap plain follows.here follows.inner,
      List.flatMap_append]
  have filled : ∀ gap, start.HoldsOneOf done gap → Resolves.Filled gaps task.location ways gap :=
    fun gap holds => .inl (assigns.filled gap holds)
  have inUse : ∀ gap, gaps gap → start.HoldsOneOf done gap := by
    intro gap isGap
    rcases assigns.inUse gap isGap with holds | ⟨_, _, _, _, pair, isPair, -⟩
    · exact holds
    · cases isPair
  by_cases isEnd : task.index + 2 = plan.steps.length
  · refine ⟨base', _, onward plan task step node, older, rfl, layers, ?_, ?_, level, stands, inOrder, filled, ?_⟩
    · intro pair isPair
      rcases mem_onward.1 isPair with ⟨segment, child, -, -, rfl⟩
      exact isEnd
    · exact fun pair isPair => assigns.inner pair (List.mem_cons_of_mem _ isPair)
    · rintro gap (isGap | ⟨segment, container, isCreated, rfl⟩)
      · exact .inl (inUse gap isGap)
      · exact .inr (follows.isPending isCreated).2
  · refine ⟨base', _, [], onward plan task step node ++ older, rfl, layers, List.forall_mem_nil _, ?_, level, stands,
      inOrder, filled, ?_⟩
    · intro pair isPair
      rcases List.mem_append.1 isPair with isNew | isOld
      · rcases mem_onward.1 isNew with ⟨segment, child, -, -, rfl⟩
        have := follows.inner
        simp only
        omega
      · exact assigns.inner pair (List.mem_cons_of_mem _ isOld)
    · rintro gap (isGap | ⟨segment, container, isCreated, rfl⟩)
      · exact .inl (inUse gap isGap)
      · exact absurd (follows.isPending isCreated).1 isEnd

/-- The first task, with what stands there, is one for the last step, or all such tasks are done. -/
theorem head_cases (assigns : plan.Assigns lead value start progress base gaps done fresh older)
    {tasks : List Task} (areTasks : task :: tasks = (fresh ++ older).map Prod.fst) :
    ∃ node, task.location.length + lead = task.index ∧ plan.Stands start gaps task.location node ∧
      ((task.index + 1 = plan.steps.length ∧ ∃ others, fresh = (task, node) :: others ∧
          tasks = (others ++ older).map Prod.fst) ∨
        (task.index + 1 < plan.steps.length ∧ fresh = [] ∧ ∃ others, older = (task, node) :: others ∧
          tasks = others.map Prod.fst)) := by
  rcases List.map_eq_cons_iff.1 areTasks.symm with ⟨⟨task, node⟩, others, areBoth, rfl, areOthers⟩
  have isHead : (task, node) ∈ fresh ++ older := by
    rw [areBoth]
    exact List.mem_cons_self
  refine ⟨node, assigns.level _ isHead, assigns.stands _ isHead, ?_⟩
  cases fresh with
  | nil =>
      right
      rw [List.nil_append] at areBoth isHead
      exact ⟨assigns.inner _ isHead, rfl, others, areBoth, areOthers.symm⟩
  | cons pair fresh =>
      left
      rcases List.cons.inj areBoth with ⟨rfl, rfl⟩
      exact ⟨assigns.isLast _ List.mem_cons_self, fresh, rfl, areOthers.symm⟩

/-- Working off a task leaves the targets to be those that are done and those that the tasks are still to set. -/
theorem perform (sets : plan.SetsAll lead value) (wellFormed : start.WellFormed) {tasks more : List Task}
    (assigns : plan.Assigns lead value start progress base gaps done fresh older)
    (areTasks : task :: tasks = (fresh ++ older).map Prod.fst)
    (performed : plan.perform progress task = .ok (later, more)) :
    ∃ base' gaps' done' fresh' older', more ++ tasks = (fresh' ++ older').map Prod.fst ∧
      plan.Assigns lead value start later base' gaps' done' fresh' older' := by
  rcases assigns.head_cases areTasks with ⟨node, level, stands, turn⟩
  have short : task.location.length + lead < plan.steps.length := by
    rcases turn with ⟨isLast, -⟩ | ⟨inner, -⟩ <;> omega
  rcases assigns.layers.exists_now short stands with ⟨now, isNow, -, same⟩
  rw [level] at same
  have inside : lead ≤ task.index := by omega
  cases turn_of_perform performed with
  | beyond here =>
      have := List.getElem?_eq_none_iff.1 here
      omega
  | root here => cases sets.regular.plain_at inside here
  | current here => cases sets.regular.plain_at inside here
  | descent here =>
      have walks := isDescent_eq_false sets.level .descent (by rw [drop_eq_cons here]; exact List.mem_cons_self)
      cases walks
  | absent here nothing =>
      rw [isNow] at nothing
      cases nothing
  | finish here plain walks isLast isNode picked =>
      rcases turn with ⟨-, others, rfl, rfl⟩ | ⟨inner, -⟩
      · exact ⟨base, gaps, _, others, older, rfl, assigns.finish sets wellFormed here isNode picked⟩
      · omega
  | @follow step _ segments ways here plain walks inner isNode picked approached =>
      rcases Option.some.inj (isNow.symm.trans isNode)
      rcases turn with ⟨isLast, -⟩ | ⟨-, rfl, others, rfl, rfl⟩
      · omega
      · have areSegments := pick_eq_ok (sets.regular.unfiltered step (List.mem_of_getElem? here)) picked
        rw [areSegments] at approached
        have found : start.at? task.location = some node := by
          rcases stands with ⟨found, -⟩ | ⟨isGap, -⟩
          · exact found
          · have := (assigns.layers.fillable _ isGap).deep
            omega
        have follows : plan.Follows lead value start progress base gaps done task step node now ways :=
          ⟨sets, assigns.layers, level, inner, here, found, isNow, same step here, approached⟩
        rcases assigns.follow follows with ⟨base', gaps', fresh', older', areBoth, assigns⟩
        refine ⟨base', gaps', done, fresh', older', ?_, assigns⟩
        rw [areBoth, List.map_append, follows.tasks_eq]

/-- Setting a value begins with one task, the targets of which are all there are. -/
theorem begin (inside : lead < plan.steps.length) (memory : Memory) :
    ∃ fresh older, [(⟨[], lead⟩ : Task)] = (fresh ++ older).map Prod.fst ∧
      plan.Assigns lead value start (.start start memory) start (fun _ => False) [] fresh older := by
  have layers : plan.Layers lead value start (.start start memory) start (fun _ => False) [] := by
    refine ⟨rfl, .refl start _, (Overlay.refl start _).congr (fun _ impossible => impossible.elim) ?_,
      fun _ impossible => impossible.elim, List.forall_mem_nil _, fun _ _ => rfl⟩
    rintro place ⟨impossible, -⟩
    cases impossible
  have level : ∀ pair ∈ [((⟨[], lead⟩ : Task), start)], pair.1.location.length + lead = pair.1.index := by
    simp
  have stands : ∀ pair ∈ [((⟨[], lead⟩ : Task), start)],
      plan.Stands start (fun _ => False) pair.1.location pair.2 := by
    intro pair isPair
    rw [List.mem_singleton.1 isPair]
    exact .inl ⟨rfl, not_false⟩
  have inOrder : targetsFrom start plan.filler (plan.steps.drop lead) [] start =
      [] ++ [((⟨[], lead⟩ : Task), start)].flatMap (plan.ahead start) := by
    rw [List.nil_append, List.flatMap_singleton]
    rfl
  have filled : ∀ gap, start.HoldsOneOf [] gap → False := by
    rintro gap ⟨-, segment, impossible⟩
    cases impossible
  by_cases isLast : lead + 1 = plan.steps.length
  · refine ⟨[(⟨[], lead⟩, start)], [], rfl, layers, ?_, List.forall_mem_nil _, level, stands, inOrder, filled,
      fun _ impossible => impossible.elim⟩
    simpa using isLast
  · refine ⟨[], [(⟨[], lead⟩, start)], rfl, layers, List.forall_mem_nil _, ?_, level, stands, inOrder, filled,
      fun _ impossible => impossible.elim⟩
    intro pair isPair
    rw [List.mem_singleton.1 isPair]
    simp only
    omega

theorem inUse_of_nil (assigns : plan.Assigns lead value start progress base gaps done [] older) :
    ∀ gap, gaps gap ↔ start.HoldsOneOf done gap := by
  intro gap
  refine ⟨?_, assigns.filled gap⟩
  intro isGap
  rcases assigns.inUse gap isGap with holds | ⟨_, _, _, _, pair, isPair, -⟩
  · exact holds
  · cases isPair

end Assigns

/-! ## Obstacles -/

theorem eq_nth_of_filler? {steps : List Step} {container : Value} {last : Step} {i : Int64}
    (filled : filler? steps = some container) (isLast : steps.getLast? = some last)
    (listed : Selector.index i ∈ last.selectors) : last = .nth i := by
  rw [filler?, isLast] at filled
  split at filled
  · cases filled
  · cases last with
    | nth j =>
        rcases List.mem_singleton.1 listed with ⟨⟩
        rfl
    | child name => simp [Fragment.selectors] at listed
    | _ => cases filled

/-- The last step fails only at an array in which an index that it names is out of bounds. -/
theorem perform_last_eq_error {task : Task} {obstacle : Obstacle} (isLast : task.index + 1 = plan.steps.length)
    (isNow : progress.document.at? task.location = some now) (failed : plan.perform progress task = .error obstacle) :
    ∃ step, plan.steps[task.index]? = some step ∧ obstacle = .outOfBounds plan.steps.length ∧
      ∃ i items, Selector.index i ∈ step.selectors ∧ now = .array items ∧ resolveIndex i items.length = none := by
  cases stop_of_perform failed with
  | pick here found failed =>
      rcases Option.some.inj (isNow.symm.trans found)
      rcases pick_eq_error.1 failed with ⟨-, -, isObstacle, outside⟩
      rw [isLast] at isObstacle
      exact ⟨_, here, isObstacle, outside⟩
  | approach here inner found picked failed => omega

theorem Assigns.blocked {fresh older : List (Task × Value)} {task : Task} {tasks : List Task} {obstacle : Obstacle}
    (assigns : plan.Assigns lead value start progress base gaps done fresh older)
    (areTasks : task :: tasks = (fresh ++ older).map Prod.fst)
    (failed : plan.perform progress task = .error obstacle) :
    (∀ gap, gaps gap ↔ start.HoldsOneOf done gap) ∨
      (obstacle = .outOfBounds plan.steps.length ∧ ∃ selectors i place, LeavesGaps plan.steps start gaps done selectors i place) := by
  rcases assigns.head_cases areTasks with ⟨node, level, stands, ⟨isLast, others, rfl, -⟩ | ⟨-, rfl, -⟩⟩
  · by_cases inUse : ∀ gap, gaps gap → start.HoldsOneOf done gap
    · exact .inl fun gap => ⟨inUse gap, assigns.filled gap⟩
    · right
      simp only [not_forall] at inUse
      rcases inUse with ⟨gap, isGap, unused⟩
      rcases (assigns.inUse gap isGap).resolve_left unused with
        @⟨step, last, place, isEnd, wasGap, all, picked, -⟩
      rcases Option.isSome_iff_exists.1 (assigns.layers.fillable gap isGap).fills with ⟨container, filled⟩
      rcases assigns.layers.exists_now (by omega) stands with ⟨now, isNow, faces, -⟩
      rcases perform_last_eq_error isLast isNow failed with ⟨other, here, isObstacle, i, items, listed, rfl, outside⟩
      have lastHere : plan.steps.getLast? = some other := by
        rw [List.getLast?_eq_getElem?, ← isLast, Nat.add_sub_cancel, here]
      have isNth := eq_nth_of_filler? (filler?_of_filler filled) lastHere listed
      rcases stands with ⟨found, notGap⟩ | ⟨-, isFiller⟩
      · rcases Value.exists_array_of_face_eq faces.symm with ⟨olds, rfl, sameLength⟩
        have same : last = .nth i := by
          rcases isEnd with ⟨before, split⟩
          rw [← split, List.getLast?_append_of_ne_nil _ (List.cons_ne_nil _ _)] at lastHere
          exact (Option.some.inj lastHere).trans isNth
        -- Another fragment would name only this child, which was no gap.
        have isUnion : ∃ selectors, step = .union selectors := by
          apply Classical.byContradiction
          intro notUnion
          apply notGap
          rw [← Value.Picks.unique wasGap.1 (fun selectors isUnion => notUnion ⟨selectors, isUnion⟩)
            (picked _ List.mem_cons_self) wasGap.2.1]
          exact isGap
        rcases isUnion with ⟨selectors, rfl⟩
        rw [same] at isEnd all
        refine ⟨isObstacle, selectors, i, place, isEnd, ?_, ?_⟩
        · rcases picked _ List.mem_cons_self with ⟨parent, segment, isParent, isIn, isHere⟩
          rw [isHere] at found
          exact ⟨segment, olds, ⟨parent, segment, isParent, isIn, rfl⟩, found, by rw [sameLength, outside]⟩
        · intro gap
          constructor
          · intro isGap
            rcases assigns.inUse gap isGap with holds | ⟨-, -, -, -, pair, isPair, isHere⟩
            · exact .inl holds
            · refine .inr ⟨rfl, ?_, (assigns.layers.fillable gap isGap).vacant⟩
              rw [← isHere]
              exact picked pair isPair
          · rintro (holds | isGap)
            · exact assigns.filled gap holds
            · exact all gap isGap
      · -- The container that fills a gap has room for the index.
        rw [Option.some.inj (filled.symm.trans isFiller)] at filled
        exact absurd outside (resolveIndex_of_filler? (filler?_of_filler filled) lastHere listed faces.symm)
  · exact .inl assigns.inUse_of_nil

/-- A run sets the value at an initial run of the targets. -/
theorem run_leaves (sets : plan.SetsAll lead value) (wellFormed : start.WellFormed) (inside : lead < plan.steps.length)
    (memory : Memory) :
    ∃ base gaps done, done <+: targetsFrom start plan.filler (plan.steps.drop lead) [] start ∧
      Overlay start base gaps (fun _ => plan.filler) ∧
      Overlay base (plan.run (.start start memory) [⟨[], lead⟩]).1.document (· ∈ done) (fun _ => some value) ∧
      ((∀ gap, gaps gap ↔ start.HoldsOneOf done gap) ∨
        (plan.run (.start start memory) [⟨[], lead⟩]).2 = some (.outOfBounds plan.steps.length) ∧
          ∃ selectors i place, LeavesGaps plan.steps start gaps done selectors i place) ∧
      ((plan.run (.start start memory) [⟨[], lead⟩]).2 = none →
        done = targetsFrom start plan.filler (plan.steps.drop lead) [] start) := by
  rcases @Assigns.begin _ plan lead value start inside memory with ⟨fresh, older, areTasks, assigns⟩
  rcases @exists_halts _ plan (.start start memory) [⟨[], lead⟩]
    (fun progress tasks => ∃ base gaps done fresh older, tasks = (fresh ++ older).map Prod.fst ∧
      plan.Assigns lead value start progress base gaps done fresh older)
    (by
      rintro progress task tasks wrote ⟨base, gaps, done, fresh, older, -, assigns⟩
      rw [Progress.wrote, assigns.layers.unwritten] at wrote
      cases wrote)
    (by
      rintro progress task tasks later more - - performed ⟨base, gaps, done, fresh, older, areTasks, assigns⟩
      exact assigns.perform sets wellFormed areTasks performed)
    ⟨start, _, [], fresh, older, areTasks, assigns⟩ with ⟨left, ⟨base, gaps, done, fresh, older, areTasks, assigns⟩, halts⟩
  refine ⟨base, gaps, done, ⟨_, assigns.inOrder.symm⟩, assigns.layers.filled, assigns.layers.edited, ?_⟩
  generalize (plan.run (.start start memory) [⟨[], lead⟩]).2 = ending at halts
  cases halts with
  | enough isDone =>
      rw [Plan.isDone, sets.regular.unlimited] at isDone
      cases isDone
  | exhausted =>
      rcases List.append_eq_nil_iff.1 (List.map_eq_nil_iff.1 areTasks.symm) with ⟨rfl, rfl⟩
      refine ⟨.inl assigns.inUse_of_nil, fun _ => ?_⟩
      rw [assigns.inOrder]
      simp
  | blocked unwritten failed =>
      refine ⟨?_, fun impossible => by cases impossible⟩
      rcases assigns.blocked areTasks failed with inUse | ⟨rfl, leaves⟩
      · exact .inl inUse
      · exact .inr ⟨rfl, leaves⟩

end Plan

namespace Path

section InitialRuns

variable [RegexSyntax] {path : Path}

theorem take_length (path : Path) : path.take path.steps.length = path := by
  cases path with
  | mk fragments => exact congrArg mk (by rw [length_steps]; exact List.take_length)

/-- There may be an anchor at the head of the path, which makes no difference. -/
theorem exists_setsAll (path_wellFormed : path.WellFormed) (assignable : path.isAssignable? = some true)
    (unfiltered : ∀ fragment ∈ path.fragments, fragment.isFilter = false)
    (level : ∀ fragment ∈ path.fragments, fragment.isDescent = false) (document value : Value) :
    ∃ lead, (path.plan (.set value : Action Unit) none).SetsAll lead value ∧ lead < path.steps.length ∧
      (path.plan (.set value : Action Unit) none).run (.start document ()) [⟨[], 0⟩] =
        (path.plan (.set value) none).run (.start document ()) [⟨[], lead⟩] ∧
      path.targets document = targetsFrom document (filler? path.steps) (path.steps.drop lead) [] document := by
  have nonempty : path.steps ≠ [] := by
    intro nothing
    rw [steps, stepsOf_eq_map, List.map_eq_nil_iff] at nothing
    rw [isAssignable?, nothing] at assignable
    cases assignable
  have assignable := assignable_last assignable
  have editable := editable_steps path_wellFormed assignable
  have regular : (path.plan (.set value : Action Unit) none).Regular 1 :=
    regular_plan path_wellFormed unfiltered rfl assignable
  have noDescent : (path.plan (.set value : Action Unit) none).descends = false := descends_plan_eq_false level
  rcases anchored_or_plain (editable.plain_drop 0) with ⟨head, here, anchor⟩ | plain
  · refine ⟨1, ⟨regular, rfl, noDescent⟩, ?_, Plan.run_anchor rfl here anchor, ?_⟩
    · have more := editable.drop_one_ne_nil here anchor
      rw [Ne, List.drop_eq_nil_iff] at more
      omega
    · have split : path.steps = head :: path.steps.drop 1 :=
        @Plan.drop_eq_cons _ (path.plan (.set value : Action Unit) none) 0 head here
      conv => lhs; rw [targets, split, targetsFrom_anchor anchor, ← split]
  · exact ⟨0, ⟨{ regular with plain := plain }, rfl, noDescent⟩, List.length_pos_iff.2 nonempty, rfl, rfl⟩

/--
Setting a value along a path that was read and has no filters and no descents. The value is assigned to the targets of
the path in order: to all of them if all goes well, and otherwise to those before the obstacle. Nothing else is changed,
but gaps are filled. These are the ones in which the value stands then. Only if it was the last index that was out of
bounds in an array, gaps that a union names beside that array may be filled for nothing.
-/
theorem set_assigns_initial_run {text : String} (parsed : Path.parse text = .ok path)
    (unfiltered : ∀ fragment ∈ path.fragments, fragment.isFilter = false)
    (level : ∀ fragment ∈ path.fragments, fragment.isDescent = false) {document : Value}
    (wellFormed : document.WellFormed) (value : Value) :
    ∃ prepared gaps done, done <+: path.targets document ∧
      Overlay document prepared gaps (fun _ => filler? path.steps) ∧
      Overlay prepared (path.set value document).document (· ∈ done) (fun _ => some value) ∧
      ((∀ gap, gaps gap ↔ document.HoldsOneOf done gap) ∨
        (path.set value document).outcome = .error (.outOfBounds path.text) ∧
          ∃ selectors i place, LeavesGaps path.steps document gaps done selectors i place) ∧
      ∀ count, (path.set value document).outcome = .ok count → done = path.targets document := by
  have simple : (Action.set value : Action Unit).isModify = false := rfl
  rcases path.edit_cases simple none () document with ⟨assignable, runs⟩ | ⟨error, fails⟩
  · rcases exists_setsAll (wellFormed_of_parse parsed) assignable unfiltered level document value with
      ⟨lead, sets, inside, anchored, areTargets⟩
    have run := Plan.run_leaves sets wellFormed inside ()
    rw [set, runs, runEdit, anchored, areTargets]
    generalize (path.plan (.set value : Action Unit) none).run (.start document ()) [⟨[], lead⟩] = ran at run ⊢
    rcases run with ⟨prepared, gaps, done, isRun, filled, edited, left, all⟩
    rcases ran with ⟨later, _ | obstacle⟩
    · refine ⟨prepared, gaps, done, isRun, filled, edited, .inl ?_, fun count _ => all rfl⟩
      exact left.resolve_right fun impossible => by cases impossible.1
    · refine ⟨prepared, gaps, done, isRun, filled, edited, ?_, fun count impossible => by cases impossible⟩
      rcases left with inUse | ⟨isObstacle, leaves⟩
      · exact .inl inUse
      · rcases Option.some.inj isObstacle
        refine .inr ⟨?_, leaves⟩
        show Except.error (EditError.outOfBounds (path.take path.steps.length).text) = _
        rw [take_length]
  · rw [set, fails]
    refine ⟨document, fun _ => False, [], List.nil_prefix, .refl document _, ?_, .inl ?_, ?_⟩
    · apply (Overlay.refl document _).congr (fun _ impossible => impossible.elim)
      rintro place ⟨impossible, -⟩
      cases impossible
    · intro gap
      refine ⟨fun impossible => impossible.elim, ?_⟩
      rintro ⟨-, segment, impossible⟩
      cases impossible
    · intro count impossible
      cases impossible

end InitialRuns

/-- The path to the members `b` of the members `a` of the first two items. -/
def membersOfTwoItems : Path where
  fragments := [.root, .union [.index 0, .index 1], .child "a", .child "b"]

/-- A document in which the second of the items has no room for a member. -/
def objectAndScalar : Value :=
  .array [.object [("a", .object [])], .object [("a", .integer 5)]]

theorem set_assigns_initial_run_membersOfTwoItems :
    Path.parse membersOfTwoItems.text = .ok membersOfTwoItems ∧
      (∀ fragment ∈ membersOfTwoItems.fragments, fragment.isFilter = false) ∧
      (∀ fragment ∈ membersOfTwoItems.fragments, fragment.isDescent = false) ∧ objectAndScalar.WellFormed ∧
      (membersOfTwoItems.set (.integer 1) objectAndScalar).outcome =
        .error (.cannotFollow .integer "$[0,1].a") ∧
      membersOfTwoItems.targets objectAndScalar = [[.index 0, .field "a", .field "b"]] ∧
      ∃ prepared gaps done, done <+: membersOfTwoItems.targets objectAndScalar ∧
        Overlay objectAndScalar prepared gaps (fun _ => filler? membersOfTwoItems.steps) ∧
        Overlay prepared (membersOfTwoItems.set (.integer 1) objectAndScalar).document (· ∈ done)
          (fun _ => some (.integer 1)) ∧
        ∀ gap, gaps gap ↔ objectAndScalar.HoldsOneOf done gap := by
  have parsed : Path.parse membersOfTwoItems.text = .ok membersOfTwoItems :=
    parse_text_of_wellFormed ⟨by simp [membersOfTwoItems, Fragment.WellFormed], by simp [membersOfTwoItems, Fragment.isAnchor]⟩
  have unfiltered : ∀ fragment ∈ membersOfTwoItems.fragments, fragment.isFilter = false := by
    simp [membersOfTwoItems, Fragment.isFilter]
  have level : ∀ fragment ∈ membersOfTwoItems.fragments, fragment.isDescent = false := by
    simp [membersOfTwoItems, Fragment.isDescent]
  have wellFormed : objectAndScalar.WellFormed := by
    simp [objectAndScalar, Value.WellFormed, Value.WellFormedItems, Value.WellFormedMembers, Members.Ordered]
  have stops : ((membersOfTwoItems.plan (.set (.integer 1)) none).run (.start objectAndScalar ()) [⟨[], 0⟩]).2 =
      some (.scalar .integer 3) := by cbv
  have runs : membersOfTwoItems.set (.integer 1) objectAndScalar =
      membersOfTwoItems.runEdit (.set (.integer 1)) none () objectAndScalar := edit_of_isAssignable rfl _ _ _
  have fails : (membersOfTwoItems.set (.integer 1) objectAndScalar).outcome =
      .error (.cannotFollow .integer "$[0,1].a") := by
    simp only [runs, runEdit, stops]
    rfl
  have areTargets : membersOfTwoItems.targets objectAndScalar = [[.index 0, .field "a", .field "b"]] := by rfl
  rcases set_assigns_initial_run parsed unfiltered level wellFormed (.integer 1) with
    ⟨prepared, gaps, done, isRun, filled, edited, inUse | ⟨different, -⟩, -⟩
  · exact ⟨parsed, unfiltered, level, wellFormed, fails, areTargets, prepared, gaps, done, isRun, filled, edited, inUse⟩
  · rw [fails] at different
    cases different

/-- The path to the sixth items of the members `a` and `b`. -/
def sixthItemsOfBoth : Path where
  fragments := [.root, .union [.key "a", .key "b"], .nth 5]

/-- The container for the second member was created before the index was out of bounds in the first one. -/
theorem set_sixthItemsOfBoth :
    Path.parse "$['a','b'][5]" = .ok sixthItemsOfBoth ∧
      sixthItemsOfBoth.set (.integer 9) (.object [("a", .array [.integer 1])]) =
        ⟨.object [("a", .array [.integer 1]), ("b", .array [.null, .null, .null, .null, .null, .null])], (),
          .error (.outOfBounds "$['a','b'][5]")⟩ ∧
      ¬ ∃ done, done <+: sixthItemsOfBoth.targets (.object [("a", .array [.integer 1])]) ∧
        (∀ target ∈ done, (sixthItemsOfBoth.set (.integer 9) (.object [("a", .array [.integer 1])])).document.at? target =
          some (.integer 9)) ∧
        ∀ location, (∀ target ∈ done, ¬ target <+: location ∧ ¬ location <+: target) →
          (sixthItemsOfBoth.set (.integer 9) (.object [("a", .array [.integer 1])])).document.at? location =
            (Value.object [("a", .array [.integer 1])]).at? location := by
  have parsed : Path.parse sixthItemsOfBoth.text = .ok sixthItemsOfBoth :=
    parse_text_of_wellFormed ⟨by simp [sixthItemsOfBoth, Fragment.WellFormed], by simp [sixthItemsOfBoth, Fragment.isAnchor]⟩
  have isText : sixthItemsOfBoth.text = "$['a','b'][5]" := by decide
  have stops : (sixthItemsOfBoth.plan (.set (.integer 9)) none).run (.start (.object [("a", .array [.integer 1])]) ())
      [⟨[], 0⟩] =
        (⟨.object [("a", .array [.integer 1]), ("b", .array [.null, .null, .null, .null, .null, .null])], [], 0, ()⟩,
          some (.outOfBounds 3)) := by cbv
  have runs : sixthItemsOfBoth.set (.integer 9) (.object [("a", .array [.integer 1])]) =
      sixthItemsOfBoth.runEdit (.set (.integer 9)) none () (.object [("a", .array [.integer 1])]) :=
    edit_of_isAssignable rfl _ _ _
  have isSet : sixthItemsOfBoth.set (.integer 9) (.object [("a", .array [.integer 1])]) =
      ⟨.object [("a", .array [.integer 1]), ("b", .array [.null, .null, .null, .null, .null, .null])], (),
        .error (.outOfBounds "$['a','b'][5]")⟩ := by
    rw [runs, runEdit, stops]
    rfl
  have areTargets : sixthItemsOfBoth.targets (.object [("a", .array [.integer 1])]) = [[.field "b", .index 5]] := by rfl
  refine ⟨isText ▸ parsed, isSet, ?_⟩
  rw [isSet, areTargets]
  rintro ⟨done, isRun, assigned, others⟩
  cases done with
  | nil =>
      have same := others [.field "b"] (List.forall_mem_nil _)
      cases same
  | cons target done =>
      rcases (List.cons_prefix_cons.1 isRun).1
      have stands := assigned _ List.mem_cons_self
      cases stands

end Path

end TreePath

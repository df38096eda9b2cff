import TreePath.Proofs.Edit.Calls
import TreePath.Proofs.Edit.Choices
import TreePath.Proofs.Edit.Obstacles
import TreePath.Regex.Standard

/-!
# What a modification has written is not asked about again

A modification along a path with a descent is never called on a value below one that it has replaced, since tasks
within written locations are dropped. With a single descent it is not called on the replaced value itself either: tasks
cover disjoint parts of the document, `Covers`, and what was written lies in none of them. With two descents it may be.
-/

namespace TreePath

namespace Plan

variable {Memory : Type} {plan : Plan Memory} {answer : Memory → Value → Memory × Option Value}
  {progress later : Progress Memory} {task : Task} {tasks more : List Task} {location : Location}

/-! ## What is noted of calls -/

theorem written_change (segment : Segment) :
    (plan.change progress location segment).written = progress.written ∨
      (plan.change progress location segment).written = (location ++ [segment]) :: progress.written := by
  generalize changed : plan.change progress location segment = later
  cases change_of_eq changed with
  | store memory value =>
      simp only [store, record]
      split
      · exact .inr rfl
      · exact .inl rfl
  | remove => exact .inl rfl
  | memory memory => exact .inl rfl

theorem written_changeAll (segments : List Segment) :
    progress.written ⊆ (plan.changeAll progress location segments).written := by
  refine changeAll_induction (motive := fun later => progress.written ⊆ later.written) (fun _ => id) ?_
  intro segment _ middle before place isPlace
  rcases @written_change _ plan middle location segment with same | noted
  · rw [same]
    exact before isPlace
  · rw [noted]
    exact List.mem_cons_of_mem _ (before isPlace)

theorem mem_written_changeAll {segments : List Segment} {place : Location}
    (isPlace : place ∈ (plan.changeAll progress location segments).written) :
    place ∈ progress.written ∨ ∃ segment ∈ segments, place = location ++ [segment] := by
  revert isPlace
  refine changeAll_induction (motive := fun later => place ∈ later.written →
    place ∈ progress.written ∨ ∃ segment ∈ segments, place = location ++ [segment]) .inl ?_
  intro segment isPicked middle before isPlace
  rcases @written_change _ plan middle location segment with same | noted
  · exact before (same ▸ isPlace)
  · rw [noted] at isPlace
    rcases List.mem_cons.1 isPlace with isHere | isOld
    · exact .inr ⟨segment, isPicked, isHere⟩
    · exact before isOld

theorem location_of_mem_callAll {segments : List Segment} :
    ∀ call ∈ plan.callAll progress location segments, ∃ segment ∈ segments, call.location = location ++ [segment] := by
  induction segments generalizing progress with
  | nil =>
      intro call isCall
      cases isCall
  | cons segment segments ih =>
      intro call isCall
      rw [callAll] at isCall
      split at isCall
      · cases isCall
      · rcases List.mem_append.1 isCall with isFirst | isLater
        · rcases Option.map_eq_some_iff.1 (Option.mem_toList.1 isFirst) with ⟨old, -, rfl⟩
          exact ⟨segment, List.mem_cons_self, rfl⟩
        · rcases ih call isLater with ⟨other, isOther, isHere⟩
          exact ⟨other, List.mem_cons_of_mem _ isOther, isHere⟩

theorem pairwise_callAll {segments : List Segment} (distinct : segments.Nodup) :
    (plan.callAll progress location segments).Pairwise fun call other => ¬ call.location <+: other.location := by
  induction segments generalizing progress with
  | nil => exact List.Pairwise.nil
  | cons segment segments ih =>
      rcases List.nodup_cons.1 distinct with ⟨different, distinct⟩
      rw [callAll]
      split
      · exact List.Pairwise.nil
      · apply List.pairwise_append.2
        refine ⟨?_, ih distinct, ?_⟩
        · rw [call?]
          cases progress.document.at? (location ++ [segment]) with
          | none => exact List.Pairwise.nil
          | some old => exact List.pairwise_singleton _ _
        · intro call isFirst other isOther above
          rcases Option.map_eq_some_iff.1 (Option.mem_toList.1 isFirst) with ⟨old, -, rfl⟩
          rcases location_of_mem_callAll other isOther with ⟨another, isAnother, isThere⟩
          rw [isThere] at above
          have same := List.append_cancel_left (above.eq_of_length (by simp))
          rw [List.singleton_inj.1 same] at different
          exact different isAnother

theorem noted_of_mem_callAll (modifies : plan.action = .modify answer) (descends : plan.descends = true)
    {segments : List Segment} :
    ∀ call ∈ plan.callAll progress location segments, call.reply.isSome = true →
      call.location ∈ (plan.changeAll progress location segments).written := by
  induction segments generalizing progress with
  | nil =>
      intro call isCall
      cases isCall
  | cons segment segments ih =>
      intro call isCall answered
      rw [callAll] at isCall
      rw [changeAll]
      split at isCall
      · cases isCall
      · rename_i unfinished
        rw [if_neg unfinished]
        rcases List.mem_append.1 isCall with isFirst | isLater
        · apply written_changeAll
          rcases Option.map_eq_some_iff.1 (Option.mem_toList.1 isFirst) with ⟨old, found, rfl⟩
          simp only [modifies, Action.reply] at answered
          rcases Option.isSome_iff_exists.1 answered with ⟨new, isReply⟩
          rcases replied : answer progress.memory old with ⟨memory, reply⟩
          rw [replied] at isReply
          subst isReply
          simp only [change, modifies, found, replied, store, record, descends, if_true]
          exact List.mem_cons_self
        · exact ih call isLater answered

theorem noted_of_mem_taskCalls (modifies : plan.action = .modify answer) (descends : plan.descends = true)
    (performed : plan.perform progress task = .ok (later, more)) :
    ∀ call ∈ plan.taskCalls progress task, call.reply.isSome = true → call.location ∈ later.written := by
  rcases taskCalls_cases performed with ⟨noCalls, -⟩ | ⟨step, node, segments, -, -, -, -, -, areCalls, rfl, -⟩
  · rw [noCalls]
    intro call isCall
    cases isCall
  · rw [areCalls]
    exact noted_of_mem_callAll modifies descends

theorem written_perform (performed : plan.perform progress task = .ok (later, more)) :
    progress.written ⊆ later.written := by
  rcases taskCalls_cases performed with ⟨-, document, rfl⟩ | ⟨step, node, segments, -, -, -, -, -, -, rfl, -⟩
  · exact fun _ => id
  · exact written_changeAll segments

/--
Locations of calls are apart from those before at which there was an answer, if this can be said of the calls of one
task and of all that is noted. What is known of progress and tasks is kept along the run.
-/
theorem calls_pairwise {apart : Location → Location → Prop} {holds : Progress Memory → List Task → Prop}
    (modifies : plan.action = .modify answer) (descends : plan.descends = true)
    (drop : ∀ progress task tasks, holds progress (task :: tasks) → holds progress tasks)
    (perform : ∀ progress task tasks later more, progress.wrote task.location = false →
      plan.perform progress task = .ok (later, more) → holds progress (task :: tasks) →
      holds later (more ++ tasks) ∧
        (plan.taskCalls progress task).Pairwise (fun call other => apart call.location other.location) ∧
        ∀ call ∈ plan.taskCalls progress task, ∀ place ∈ progress.written, apart place call.location)
    (begins : holds progress tasks) :
    (plan.calls progress tasks).Pairwise
        (fun call other => call.reply.isSome = true → apart call.location other.location) ∧
      ∀ call ∈ plan.calls progress tasks, ∀ place ∈ progress.written, apart place call.location := by
  -- A call and a later one are compared through the note of the first: the later one is apart from all that is noted.
  induction progress, tasks using Plan.run.induct plan with
  | case1 progress tasks isDone =>
      rw [calls_of_isDone isDone]
      simp
  | case2 progress _ =>
      rw [calls_nil]
      simp
  | case3 progress unfinished task tasks wrote ih =>
      rw [calls_of_wrote (Bool.eq_false_iff.2 unfinished) wrote]
      exact ih (drop progress task tasks begins)
  | case4 progress unfinished task tasks unwritten obstacle performed =>
      rw [calls_of_error (Bool.eq_false_iff.2 unfinished) (Bool.eq_false_iff.2 unwritten) performed]
      simp
  | case5 progress unfinished task tasks unwritten later more performed ih =>
      have unwritten := Bool.eq_false_iff.2 unwritten
      rw [calls_of_ok (Bool.eq_false_iff.2 unfinished) unwritten performed]
      rcases perform progress task tasks later more unwritten performed begins with ⟨continues, among, fresh⟩
      rcases ih continues with ⟨others, freshOthers⟩
      have noted := noted_of_mem_taskCalls modifies descends performed
      constructor
      · apply List.pairwise_append.2
        refine ⟨?_, others, ?_⟩
        · apply among.imp
          intro call other isApart _
          exact isApart
        · intro call isCall other isOther answered
          exact freshOthers other isOther _ (noted call isCall answered)
      · intro call isCall place isPlace
        rcases List.mem_append.1 isCall with isHere | isLater
        · exact fresh call isHere place isPlace
        · exact freshOthers call isLater place (written_perform performed isPlace)

theorem location_of_mem_taskCalls {call : Call} (isCall : call ∈ plan.taskCalls progress task) :
    ∃ segment, call.location = task.location ++ [segment] := by
  rw [taskCalls] at isCall
  split at isCall
  · split at isCall
    · split at isCall
      · rcases location_of_mem_callAll call isCall with ⟨segment, -, isHere⟩
        exact ⟨segment, isHere⟩
      · cases isCall
    · cases isCall
  · cases isCall

/-- What is noted and lies above a child of a location that is not within what is noted, is that child. -/
theorem eq_of_above_child (unwritten : progress.wrote location = false) {place : Location} {segment : Segment}
    (isPlace : place ∈ progress.written) (above : place <+: location ++ [segment]) :
    place = location ++ [segment] := by
  rcases List.prefix_concat_iff.1 above with same | above
  · exact same
  · rw [Progress.wrote, List.any_eq_false] at unwritten
    exact absurd (List.isPrefixOf_iff_prefix.2 above) (unwritten place isPlace)

/-- A modification along steps with a descent is never called on a value strictly within one that it replaced. -/
theorem calls_not_inside (modifies : plan.action = .modify answer) (descends : plan.descends = true) :
    (plan.calls progress tasks).Pairwise fun call other => call.reply.isSome = true →
      call.location <+: other.location → call.location = other.location := by
  refine (@calls_pairwise _ _ _ _ _ (fun place location => place <+: location → place = location) (fun _ _ => True)
    modifies descends (fun _ _ _ _ => trivial) ?_ trivial).1
  intro progress task tasks later more unwritten performed _
  refine ⟨trivial, ?_, ?_⟩
  · apply List.pairwise_of_forall_mem_list
    intro call isCall other isOther above
    rcases location_of_mem_taskCalls isCall with ⟨segment, isHere⟩
    rcases location_of_mem_taskCalls isOther with ⟨another, isThere⟩
    apply above.eq_of_length
    rw [isHere, isThere]
    simp
  · intro call isCall place isPlace above
    rcases location_of_mem_taskCalls isCall with ⟨segment, isHere⟩
    rw [isHere] at above ⊢
    exact eq_of_above_child unwritten isPlace above

/-! ## A single descent -/

/-- What a single descent needs for that no child is reached twice: no union names one child of a node twice. -/
structure Separates (plan : Plan Memory) (lead : Nat) (start : Value) : Prop where
  wellFormed : start.WellFormed
  plain : ∀ step ∈ plan.steps.drop lead, step.isAnchor = false
  single : ∀ index, plan.steps[index]? = some .descent → index = plan.strictCount
  unions : ∀ selectors, .union selectors ∈ plan.steps → ∀ location node, start.at? location = some node →
    (selectors.flatMap (Selector.segments node)).Nodup

/-- Where a task may come to: as far below its location as there are steps left, or further if there is a descent. -/
def Covers (plan : Plan Memory) (task : Task) (place : Location) : Prop :=
  task.location <+: place ∧
    (task.index ≤ plan.strictCount →
      task.location.length + plan.steps.length ≤ place.length + task.index + 1) ∧
    (plan.strictCount < task.index → task.location.length + plan.steps.length = place.length + task.index)

/-- Two tasks come to different places. -/
def Apart (plan : Plan Memory) (task other : Task) : Prop :=
  ∀ place, plan.Covers task place → ¬ plan.Covers other place

/-- Where nothing was written, a document has the outlines that it had. -/
def Outlined (start : Value) (progress : Progress Memory) : Prop :=
  ∀ location, progress.wrote location = false →
    (progress.document.at? location).map Value.outline = (start.at? location).map Value.outline

/-- What holds between the tasks of a modification with a single descent. -/
structure Spreads (plan : Plan Memory) (lead : Nat) (start : Value) (progress : Progress Memory)
    (tasks : List Task) : Prop where
  inside : ∀ task ∈ tasks, lead ≤ task.index
  apart : tasks.Pairwise plan.Apart
  fresh : ∀ task ∈ tasks, ∀ place ∈ progress.written, ¬ plan.Covers task place
  outlined : Outlined start progress

variable {lead index : Nat} {start node : Value} {step : Step}

theorem Separates.plain_at (separates : plan.Separates lead start) (inside : lead ≤ index)
    (here : plan.steps[index]? = some step) : step.isAnchor = false := by
  apply separates.plain step
  apply List.drop_subset_drop_left plan.steps inside
  rw [drop_eq_cons here]
  exact List.mem_cons_self

theorem covers_child {segment : Segment} {place : Location}
    (covers : plan.Covers ⟨location ++ [segment], index + 1⟩ place) : plan.Covers ⟨location, index⟩ place := by
  rcases covers with ⟨below, strict, beyond⟩
  simp only [List.length_append, List.length_singleton] at strict beyond
  refine ⟨(List.prefix_append _ _).trans below, ?_, ?_⟩
  · simp only
    omega
  · simp only
    omega

theorem covers_descent {segment : Segment} {place : Location}
    (covers : plan.Covers ⟨location ++ [segment], plan.strictCount⟩ place) :
    plan.Covers ⟨location, plan.strictCount⟩ place := by
  rcases covers with ⟨below, strict, -⟩
  simp only [List.length_append, List.length_singleton] at strict
  refine ⟨(List.prefix_append _ _).trans below, ?_, ?_⟩
  · simp only
    omega
  · simp

theorem apart_children {segment other : Segment} (different : segment ≠ other) (index another : Nat) :
    plan.Apart ⟨location ++ [segment], index⟩ ⟨location ++ [other], another⟩ := by
  rintro place ⟨below, -⟩ ⟨belowOther, -⟩
  have same := (List.prefix_of_prefix_length_le below belowOther (by simp)).eq_of_length (by simp)
  exact different (List.singleton_inj.1 (List.append_cancel_left same))

theorem pairwise_descendTasks {document : Value} (ordered : ∀ node ∈ document.at? location, node.IsOrdered) :
    (descendTasks document ⟨location, plan.strictCount⟩).Pairwise plan.Apart := by
  rw [descendTasks]
  apply List.pairwise_cons.2
  constructor
  · intro below isBelow place covers coversBelow
    split at isBelow
    · cases isBelow
    · rcases List.mem_filterMap.1 isBelow with ⟨⟨segment, child⟩, -, chosen⟩
      simp only [Option.ite_none_right_eq_some, Option.some.injEq] at chosen
      rw [← chosen.2] at coversBelow
      have deeper := coversBelow.2.1 (Nat.le_refl _)
      have here := covers.2.2 (Nat.lt_succ_self _)
      simp only [List.length_append, List.length_singleton] at deeper here
      omega
  · split
    · exact List.Pairwise.nil
    · rename_i node found
      have first : (node.segments.zip node.children).map Prod.fst = node.segments :=
        List.map_fst_zip (Nat.le_of_eq node.length_segments)
      have distinct : (node.segments.zip node.children).Pairwise (fun pair other => pair.1 ≠ other.1) := by
        rw [← List.pairwise_map, first]
        exact (ordered node found).nodup_segments
      apply distinct.filterMap
      rintro ⟨segment, child⟩ ⟨other, sibling⟩ different task isTask another isOther
      simp only [Option.ite_none_right_eq_some, Option.some.injEq] at isTask isOther
      rw [← isTask.2, ← isOther.2]
      exact apart_children different _ _

theorem Outlined.ordered (separates : plan.Separates lead start) (outlined : Outlined start progress)
    (unwritten : progress.wrote location = false) (found : progress.document.at? location = some node) :
    ∃ old, start.at? location = some old ∧ node.outline = old.outline ∧ node.IsOrdered := by
  have same := outlined location unwritten
  rw [found] at same
  rcases Option.map_eq_some_iff.1 same.symm with ⟨old, isOld, sameOutline⟩
  have ordered := (separates.wellFormed.at? isOld).isOrdered
  exact ⟨old, isOld, sameOutline.symm, ordered.of_outline sameOutline.symm⟩

theorem Outlined.nodup_choices (separates : plan.Separates lead start) (outlined : Outlined start progress)
    (unwritten : progress.wrote location = false) (found : progress.document.at? location = some node)
    (here : plan.steps[index]? = some step) (root : Value) : (step.choices root node).Nodup := by
  rcases outlined.ordered separates unwritten found with ⟨old, isOld, sameOutline, ordered⟩
  apply Step.nodup_choices ordered
  rintro selectors rfl
  have naming : (Fragment.union selectors : Step).isNaming = true := rfl
  have faces : node.face = old.face := congrArg Prod.fst sameOutline
  have same : Step.segments node (.union selectors) = Step.segments old (.union selectors) := by
    rw [← Step.segments_face naming, faces, Step.segments_face naming]
  simp only [Step.segments] at same
  rw [same]
  exact separates.unions selectors (List.mem_of_getElem? here) location old isOld

theorem Outlined.change (separates : plan.Separates lead start) (modifies : plan.action = .modify answer)
    (descends : plan.descends = true) (outlined : Outlined start progress)
    (unwritten : progress.wrote location = false) (segment : Segment) :
    Outlined start (plan.change progress location segment) ∧
      (plan.change progress location segment).wrote location = false := by
  cases found : progress.document.at? (location ++ [segment]) with
  | none =>
      simp only [Plan.change, modifies, found]
      exact ⟨outlined, unwritten⟩
  | some old =>
      rcases replied : answer progress.memory old with ⟨memory, _ | new⟩
      · simp only [Plan.change, modifies, found, replied]
        exact ⟨outlined, unwritten⟩
      · simp only [Plan.change, modifies, found, replied]
        rw [Value.at?_concat] at found
        rcases Option.bind_eq_some_iff.1 found with ⟨node, stands, isChild⟩
        rcases outlined.ordered separates unwritten stands with ⟨_, -, -, ordered⟩
        have written : (plan.store { progress with memory := memory } location segment new).written =
            (location ++ [segment]) :: progress.written := by
          simp [store, record, descends]
        constructor
        · intro place notWritten
          rw [Progress.wrote, written, List.any_cons, Bool.or_eq_false_iff] at notWritten
          rw [← outlined place notWritten.2]
          apply Value.outline_at?_place stands ordered isChild
          intro above
          rw [List.isPrefixOf_iff_prefix.2 above] at notWritten
          cases notWritten.1
        · rw [Progress.wrote, written, List.any_cons, Bool.or_eq_false_iff]
          refine ⟨?_, unwritten⟩
          apply Bool.eq_false_iff.2
          intro above
          have := (List.isPrefixOf_iff_prefix.1 above).length_le
          simp only [List.length_append, List.length_singleton] at this
          omega

theorem Outlined.changeAll (separates : plan.Separates lead start) (modifies : plan.action = .modify answer)
    (descends : plan.descends = true) (outlined : Outlined start progress)
    (unwritten : progress.wrote location = false) (segments : List Segment) :
    Outlined start (plan.changeAll progress location segments) :=
  And.left <| changeAll_induction (motive := fun later => Outlined start later ∧ later.wrote location = false)
    ⟨outlined, unwritten⟩ fun segment _ _ before =>
      before.1.change separates modifies descends before.2 segment

/-! ## Tasks that come to different places -/

/-- Tasks that come to no other places than one before them, and to different ones each, may stand for it. -/
theorem Spreads.replace (spreads : plan.Spreads lead start progress (task :: tasks))
    (inside : ∀ next ∈ more, lead ≤ next.index)
    (covered : ∀ next ∈ more, ∀ place, plan.Covers next place → plan.Covers task place)
    (among : more.Pairwise plan.Apart) : plan.Spreads lead start progress (more ++ tasks) where
  inside := by
    intro next member
    rcases List.mem_append.1 member with isNew | isOld
    · exact inside next isNew
    · exact spreads.inside next (List.mem_cons_of_mem _ isOld)
  apart := by
    rcases List.pairwise_cons.1 spreads.apart with ⟨fromOthers, others⟩
    apply List.pairwise_append.2
    refine ⟨among, others, ?_⟩
    intro next isNew other isOther place covers
    exact fromOthers other isOther place (covered next isNew place covers)
  fresh := by
    intro next member place isPlace covers
    rcases List.mem_append.1 member with isNew | isOld
    · exact spreads.fresh task List.mem_cons_self place isPlace (covered next isNew place covers)
    · exact spreads.fresh next (List.mem_cons_of_mem _ isOld) place isPlace covers
  outlined := spreads.outlined

theorem Spreads.drop (spreads : plan.Spreads lead start progress (task :: tasks)) :
    plan.Spreads lead start progress tasks :=
  spreads.replace (List.forall_mem_nil _) (List.forall_mem_nil _) List.Pairwise.nil

theorem covers_last (descends : plan.descends = true) (here : plan.steps[index]? = some step)
    (isLast : index + 1 = plan.steps.length) (walks : step.isDescent = false) (segment : Segment) :
    plan.Covers ⟨location, index⟩ (location ++ [segment]) := by
  -- The last step is behind the first descent, as it is not a descent itself.
  have beyond : plan.strictCount < index := by
    have within : plan.strictCount < plan.steps.length := List.findIdx_lt_length_of_exists (List.any_eq_true.1 descends)
    have isDescent : plan.steps[plan.strictCount].isDescent = true := List.findIdx_getElem
    rcases Nat.lt_or_eq_of_le (Nat.le_of_lt_succ (isLast ▸ within)) with before | same
    · exact before
    · simp only [same, (List.getElem?_eq_some_iff.1 here).2, walks] at isDescent
      cases isDescent
  refine ⟨List.prefix_append _ _, ?_, ?_⟩
  · intro notBeyond
    exact absurd beyond (Nat.not_lt.2 notBeyond)
  · intro _
    simp only [List.length_append, List.length_singleton]
    omega

theorem Spreads.descend (separates : plan.Separates lead start) (unwritten : progress.wrote location = false)
    (spreads : plan.Spreads lead start progress (⟨location, plan.strictCount⟩ :: tasks)) :
    plan.Spreads lead start progress (descendTasks progress.document ⟨location, plan.strictCount⟩ ++ tasks) := by
  have inside : lead ≤ plan.strictCount := spreads.inside _ List.mem_cons_self
  apply spreads.replace
  · intro next member
    rcases mem_descendTasks member with rfl | ⟨segment, rfl⟩
    · exact Nat.le_succ_of_le inside
    · exact inside
  · intro next member place covers
    rcases mem_descendTasks member with rfl | ⟨segment, rfl⟩
    · rcases covers with ⟨below, -, beyond⟩
      have beyond := beyond (Nat.lt_succ_self _)
      simp only at beyond
      refine ⟨below, ?_, fun before => absurd before (Nat.lt_irrefl _)⟩
      intro _
      simp only
      omega
    · exact covers_descent covers
  · apply pairwise_descendTasks
    intro node found
    rcases spreads.outlined.ordered separates unwritten found with ⟨_, -, -, ordered⟩
    exact ordered

/-- Working off a task leaves tasks that come to different places, none of which has been written. -/
theorem Spreads.perform (separates : plan.Separates lead start) (modifies : plan.action = .modify answer)
    (descends : plan.descends = true) (unwritten : progress.wrote task.location = false)
    (performed : plan.perform progress task = .ok (later, more))
    (spreads : plan.Spreads lead start progress (task :: tasks)) :
    plan.Spreads lead start later (more ++ tasks) := by
  have inside : lead ≤ task.index := spreads.inside _ List.mem_cons_self
  cases turn_of_perform performed with
  | beyond here => exact spreads.drop
  | absent here nothing => exact spreads.drop
  | root here => cases separates.plain_at inside here
  | current here => cases separates.plain_at inside here
  | descent here =>
      rcases task with ⟨location, index⟩
      rcases separates.single index here
      exact spreads.descend separates unwritten
  | @finish step node segments here plain walks isLast found picked =>
      have others := spreads.drop
      refine ⟨others.inside, others.apart, ?_, others.outlined.changeAll separates modifies descends unwritten _⟩
      intro other isOther place isPlace
      rcases mem_written_changeAll isPlace with before | ⟨segment, -, rfl⟩
      · exact others.fresh other isOther place before
      · exact (List.pairwise_cons.1 spreads.apart).1 other isOther _
          (covers_last descends here isLast walks segment)
  | follow here plain walks inner found picked approached =>
      have keeps : plan.action.isSet = false := by
        rw [modifies]
        rfl
      rcases follow_of_keeps keeps picked approached with ⟨unchanged, areTasks⟩
      rw [unchanged, areTasks]
      apply spreads.replace
      · intro next member
        rcases List.mem_map.1 member with ⟨segment, -, rfl⟩
        exact Nat.le_succ_of_le inside
      · intro next member place covers
        rcases List.mem_map.1 member with ⟨segment, -, rfl⟩
        exact covers_child covers
      · have distinct := spreads.outlined.nodup_choices separates unwritten found here progress.document
        apply List.Pairwise.map _ _ (distinct.filter _)
        intro segment other different
        exact apart_children different _ _

theorem Spreads.calls_fresh (descends : plan.descends = true) (unwritten : progress.wrote task.location = false)
    (performed : plan.perform progress task = .ok (later, more))
    (spreads : plan.Spreads lead start progress (task :: tasks)) :
    ∀ call ∈ plan.taskCalls progress task, ∀ place ∈ progress.written, ¬ place <+: call.location := by
  intro call isCall place isPlace above
  rcases taskCalls_cases performed with ⟨noCalls, -⟩ |
    ⟨step, node, segments, here, isLast, walks, -, -, areCalls, -, -⟩
  · rw [noCalls] at isCall
    cases isCall
  · rw [areCalls] at isCall
    rcases location_of_mem_callAll call isCall with ⟨segment, -, isHere⟩
    rw [isHere] at above
    rw [eq_of_above_child unwritten isPlace above] at isPlace
    exact spreads.fresh task List.mem_cons_self _ isPlace (covers_last descends here isLast walks segment)

theorem Spreads.calls_apart (separates : plan.Separates lead start)
    (unwritten : progress.wrote task.location = false)
    (performed : plan.perform progress task = .ok (later, more))
    (spreads : plan.Spreads lead start progress (task :: tasks)) :
    (plan.taskCalls progress task).Pairwise fun call other => ¬ call.location <+: other.location := by
  rcases taskCalls_cases performed with ⟨noCalls, -⟩ |
    ⟨step, node, segments, here, -, -, found, picked, areCalls, -, -⟩
  · rw [noCalls]
    exact List.Pairwise.nil
  · rw [areCalls]
    apply pairwise_callAll
    rw [pick_eq_choices picked]
    exact spreads.outlined.nodup_choices separates unwritten found here _

/-- With a single descent, no call is about a value within one that was replaced, nor about that one again. -/
theorem calls_once (separates : plan.Separates lead start) (modifies : plan.action = .modify answer)
    (descends : plan.descends = true) (spreads : plan.Spreads lead start progress tasks) :
    (plan.calls progress tasks).Pairwise fun call other => call.reply.isSome = true →
      ¬ call.location <+: other.location := by
  refine (@calls_pairwise _ _ _ _ _ (fun place location => ¬ place <+: location) (plan.Spreads lead start)
    modifies descends (fun _ _ _ => Spreads.drop) ?_ spreads).1
  intro progress task tasks later more unwritten performed spreads
  exact ⟨spreads.perform separates modifies descends unwritten performed,
    spreads.calls_apart separates unwritten performed, spreads.calls_fresh descends unwritten performed⟩

theorem calls_anchor {document : Value} {memory : Memory} {head : Step} (here : plan.steps[0]? = some head)
    (anchor : head.isAnchor = true) :
    plan.calls (.start document memory) [⟨[], 0⟩] = plan.calls (.start document memory) [⟨[], 1⟩] := by
  by_cases isDone : plan.isDone (Progress.start document memory).count = true
  · rw [calls_of_isDone isDone, calls_of_isDone isDone]
  · have performed : plan.perform (.start document memory) ⟨[], 0⟩ = .ok (.start document memory, [⟨[], 1⟩]) :=
      perform_anchor here anchor
    rw [calls_of_ok (Bool.eq_false_iff.2 isDone) rfl performed]
    rcases taskCalls_cases performed with ⟨noCalls, -⟩ | ⟨_, _, _, -, -, -, -, -, -, -, noTasks⟩
    · rw [noCalls]
      rfl
    · cases noTasks

end Plan

/-! ## Paths -/

theorem eq_findIdx_of_countP {α : Type} {p : α → Bool} {xs : List α} (once : xs.countP p = 1) {index : Nat} {x : α}
    (here : xs[index]? = some x) (holds : p x = true) : index = xs.findIdx p := by
  induction xs generalizing index with
  | nil => cases here
  | cons head xs ih =>
      rw [List.countP_cons] at once
      rw [List.findIdx_cons]
      cases index with
      | zero =>
          rcases Option.some.inj here with rfl
          rw [holds, cond_true]
      | succ index =>
          rw [List.getElem?_cons_succ] at here
          have positive : 0 < xs.countP p := List.countP_pos_iff.2 ⟨x, List.mem_of_getElem? here, holds⟩
          by_cases isFirst : p head = true
          · rw [if_pos isFirst] at once
            omega
          · rw [if_neg isFirst] at once
            rw [Bool.eq_false_iff.2 isFirst, cond_false, ← ih once here]

namespace Path

section Calling

variable [RegexSyntax] {Memory : Type} {path : Path} {document : Value}

theorem exists_lead (editable : Editable path.steps) (answer : Memory → Value → Memory × Option Value)
    (limit : Option Nat) (memory : Memory) :
    ∃ lead, (∀ step ∈ path.steps.drop lead, step.isAnchor = false) ∧
      path.calls limit answer memory document =
        (path.plan (.modify answer) limit).calls (.start document memory) [⟨[], lead⟩] := by
  have plain := editable.plain_drop 0
  rcases anchored_or_plain plain with ⟨head, here, anchor⟩ | plain
  · exact ⟨1, plain, @Plan.calls_anchor _ (path.plan (.modify answer) limit) document memory head here anchor⟩
  · exact ⟨0, plain, rfl⟩

/--
The calls of a modification along a path with a descent. None is about a value strictly within one that was
replaced. If there is one descent only, and no union names a child of a node of the document twice, none is about the
replaced value itself either.
-/
theorem calls_beside_replaced {text : String} {path : Path} (parsed : Path.parse text = .ok path)
    (assignable : path.isAssignable? = some true) {document : Value} (wellFormed : document.WellFormed)
    (descends : path.fragments.any Fragment.isDescent = true) (limit : Option Nat)
    (answer : Memory → Value → Memory × Option Value) (memory : Memory) :
    Answered answer memory (path.calls limit answer memory document)
      (path.edit (.modify answer) limit memory document).memory ∧
    (path.calls limit answer memory document).Pairwise (fun call later => call.reply.isSome = true →
      call.location <+: later.location → call.location = later.location) ∧
    (path.fragments.countP Fragment.isDescent = 1 →
      (∀ selectors, .union selectors ∈ path.fragments → ∀ location node, document.at? location = some node →
        (selectors.flatMap (Selector.segments node)).Nodup) →
      (path.calls limit answer memory document).Pairwise fun call later => call.reply.isSome = true →
        ¬ call.location <+: later.location) := by
  have plan_descends : (path.plan (.modify answer) limit).descends = true := descends_plan.trans descends
  refine ⟨path.calls_answered limit answer memory document assignable,
    Plan.calls_not_inside rfl plan_descends, ?_⟩
  intro once unions
  rcases exists_lead (editable_steps (wellFormed_of_parse parsed) (assignable_last assignable)) answer limit memory with
    ⟨lead, plain, areCalls⟩
  rw [areCalls]
  have separates : (path.plan (.modify answer) limit).Separates lead document := by
    refine ⟨wellFormed, plain, ?_, ?_⟩
    · intro index here
      have once : (path.plan (.modify answer) limit).steps.countP Fragment.isDescent = 1 :=
        countP_isDescent_steps.trans once
      exact eq_findIdx_of_countP once here rfl
    · intro selectors isStep
      rcases mem_steps.1 isStep with ⟨fragment, isFragment, isUnion⟩
      cases fragment with
      | union others =>
          rcases Fragment.union.inj isUnion with rfl
          exact unions others isFragment
      | _ => cases isUnion
  refine Plan.calls_once separates rfl plan_descends ⟨?_, List.pairwise_singleton _ _, ?_, fun _ _ => rfl⟩
  · intro task isTask
    rw [List.mem_singleton.1 isTask]
  · intro task _ place isPlace
    cases isPlace

end Calling

/-- The path to all members `a`. -/
def allMembers : Path where
  fragments := [.root, .descent, .child "a"]

def membersWithin : Value :=
  .object [("a", .object [("a", .integer 1)]), ("b", .object [("a", .integer 2)])]

/-- An object around a value, with the value as its member `a`. -/
def wrapping (asked : Nat) (value : Value) : Nat × Option Value :=
  (asked + 1, some (.object [("a", value)]))

theorem calls_beside_replaced_allMembers :
    Path.parse "$..a" = .ok allMembers ∧ allMembers.isAssignable? = some true ∧ membersWithin.WellFormed ∧
      allMembers.fragments.any Fragment.isDescent = true ∧ allMembers.fragments.countP Fragment.isDescent = 1 ∧
      (allMembers.calls none wrapping 0 membersWithin).map Call.location = [[.field "a"], [.field "b", .field "a"]] ∧
      Answered wrapping 0 (allMembers.calls none wrapping 0 membersWithin)
        (allMembers.edit (.modify wrapping) none 0 membersWithin).memory ∧
      (allMembers.calls none wrapping 0 membersWithin).Pairwise (fun call later => call.reply.isSome = true →
        call.location <+: later.location → call.location = later.location) ∧
      (allMembers.calls none wrapping 0 membersWithin).Pairwise fun call later => call.reply.isSome = true →
        ¬ call.location <+: later.location := by
  have parsed : Path.parse "$..a" = .ok allMembers := by rfl
  have wellFormed : membersWithin.WellFormed := by
    simp only [membersWithin, Value.WellFormed, Value.WellFormedMembers, Members.Ordered, and_true]
    decide
  rcases calls_beside_replaced parsed rfl wellFormed rfl none wrapping 0 with ⟨answered, notInside, notAgain⟩
  refine ⟨parsed, rfl, wellFormed, rfl, rfl, by cbv, answered, notInside, notAgain rfl ?_⟩
  intro selectors isIn
  simp [allMembers] at isIn

/-- The path to all members `a`, with one descent after the other. -/
def allMembersTwice : Path where
  fragments := [.root, .descent, .descent, .child "a"]

def memberWithin : Value :=
  .object [("b", .object [("a", .integer 1)])]

/-- Ten times an integer. -/
def timesTen (_memory : Unit) : Value → Unit × Option Value
  | .integer n => ((), some (.integer (n * 10)))
  | _ => ((), none)

/-- With two descents a value that was replaced is replaced again. -/
theorem calls_of_allMembersTwice :
    Path.parse "$....a" = .ok allMembersTwice ∧ allMembersTwice.isAssignable? = some true ∧
      memberWithin.WellFormed ∧ (∀ selectors, .union selectors ∉ allMembersTwice.fragments) ∧
      (allMembersTwice.calls none timesTen () memberWithin).map (fun call => (call.location, call.value, call.reply)) =
        [([.field "b", .field "a"], .integer 1, some (.integer 10)),
          ([.field "b", .field "a"], .integer 10, some (.integer 100))] ∧
      ¬ (allMembersTwice.calls none timesTen () memberWithin).Pairwise fun call later =>
        call.reply.isSome = true → ¬ call.location <+: later.location := by
  have areCalls : (allMembersTwice.calls none timesTen () memberWithin).map
      (fun call => (call.location, call.value, call.reply)) =
        [([.field "b", .field "a"], .integer 1, some (.integer 10)),
          ([.field "b", .field "a"], .integer 10, some (.integer 100))] := by cbv
  refine ⟨by rfl, rfl, ?_, ?_, areCalls, ?_⟩
  · simp [memberWithin, Value.WellFormed, Value.WellFormedMembers, Members.Ordered]
  · intro selectors isIn
    simp [allMembersTwice] at isIn
  · intro once
    have again := List.Pairwise.map (fun call : Call => (call.location, call.value, call.reply))
      (S := fun call later => call.2.2.isSome = true → ¬ call.1 <+: later.1) (fun _ _ apart => apart) once
    rw [areCalls] at again
    simp at again

end Path

end TreePath

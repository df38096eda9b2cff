import TreePath.Proofs.Edit.Resolution

/-!
# Going on to children keeps an edit resolved

A step before the last one may create containers. It does so only right before the last step and only in
gaps of the unchanged document, and no changed place is near.
-/

namespace TreePath

namespace Plan

variable {Memory : Type} {plan : Plan Memory} {lead : Nat} {start : Value}

namespace Resolves

variable {progress later : Progress Memory} {task : Task} {tasks more : List Task} {base : Value}
  {gaps changed : Location → Prop} {step : Step} {node : Value} {segment : Segment}

/-- When a container is created, the plan fills gaps, and the step is the last but one and names the child. -/
theorem way_created {index : Nat} {container : Value}
    (isWay : plan.IsWay index step node segment (some container)) :
    plan.filler = some container ∧ index + 2 = plan.steps.length ∧ step.isNaming = true ∧
      (node.child? segment).all Value.isNull = true := by
  rcases isWay with ⟨isNone, -⟩ | ⟨other, same, isNull, named, deduced⟩
  · cases isNone
  · rcases Option.some.inj same with rfl
    simp only [Bool.and_eq_true] at named
    rcases named with ⟨⟨naming, strict⟩, isSet⟩
    have level := descends_eq_false_of_deduce strict deduced
    rcases deduce_eq_ok level deduced with ⟨isEnd, filled⟩
    refine ⟨?_, isEnd, naming, isNull⟩
    rw [filler, isSet, if_pos rfl, filled]

/-- No changed place is above, at or below a vacant child that the last step but one picks. -/
theorem beside_of_isNull (regular : plan.Regular lead)
    (resolves : plan.Resolves lead start progress tasks base gaps changed) (member : task ∈ tasks)
    (filled : plan.filler.isSome = true) (isEnd : task.index + 2 = plan.steps.length)
    (found : progress.document.at? task.location = some node) (isNull : (node.child? segment).all Value.isNull = true) :
    Beside changed (task.location ++ [segment]) := by
  have level := descends_of_filler filled
  have isSet := isSet_of_filler filled
  have length := resolves.level level task member
  have long (place : Location) (isChanged : changed place) := (resolves.isDue place isChanged).1.length_eq regular level
  apply beside_of_isVacant
  · rw [Value.IsVacant, Value.at?_concat, found]
    exact isNull
  · intro place isChanged
    have := long place isChanged
    simp only [List.length_append, List.length_singleton]
    omega
  · intro place isChanged
    rw [resolves.edited.stored place]
    · exact Action.isSome_result isSet place
    · refine ⟨isChanged, ?_⟩
      intro above isAbove isPrefix
      apply isPrefix.eq_of_length
      have := long place isChanged
      have := long above isAbove
      omega

theorem not_gaps_child (regular : plan.Regular lead)
    (resolves : plan.Resolves lead start progress tasks base gaps changed) (member : task ∈ tasks)
    (inner : task.index + 1 < plan.steps.length) : ¬ Within gaps task.location := by
  apply resolves.not_within_gaps regular
  intro level
  have := resolves.level level task member
  omega

theorem exists_old (regular : plan.Regular lead)
    (resolves : plan.Resolves lead start progress tasks base gaps changed) (member : task ∈ tasks)
    (inner : task.index + 1 < plan.steps.length) (live : ¬ Within changed task.location)
    (found : progress.document.at? task.location = some node) :
    ∃ old, start.at? task.location = some old ∧ old.face = node.face := by
  have faces := resolves.face_eq live (resolves.not_gaps_child regular member inner)
  rw [found] at faces
  exact Value.exists_of_face_eq faces

theorem within_child (regular : plan.Regular lead)
    (resolves : plan.Resolves lead start progress tasks base gaps changed) (member : task ∈ tasks)
    (inner : task.index + 1 < plan.steps.length) (within : Within gaps (task.location ++ [segment])) :
    gaps (task.location ++ [segment]) := by
  apply resolves.gaps_of_within regular _ within
  intro level
  have := resolves.level level task member
  simp only [List.length_append, List.length_singleton]
  omega

/-- A container is created in a gap of the unchanged document. -/
theorem isGap_of_way (regular : plan.Regular lead)
    (resolves : plan.Resolves lead start progress tasks base gaps changed) (member : task ∈ tasks)
    (here : plan.steps[task.index]? = some step) (live : ¬ Within changed task.location)
    (found : progress.document.at? task.location = some node) (isIn : segment ∈ step.segments node)
    {container : Value} (isWay : plan.IsWay task.index step node segment (some container)) :
    start.IsGap (plan.steps.drop lead) [] (task.location ++ [segment]) := by
  rcases way_created isWay with ⟨filled, isEnd, naming, isNull⟩
  have inner : task.index + 1 < plan.steps.length := by omega
  have isSome : plan.filler.isSome = true := by rw [filled]; rfl
  by_cases before : gaps (task.location ++ [segment])
  · exact (resolves.isGap _ before).2
  · have beside : Beside changed (task.location ++ [segment]) :=
      resolves.beside_of_isNull regular member isSome isEnd found isNull
    have liveChild : ¬ Within changed (task.location ++ [segment]) := by
      rintro ⟨place, isChanged, above⟩
      exact (beside place isChanged).1 above
    have unfilled : ¬ Within gaps (task.location ++ [segment]) :=
      fun within => before (resolves.within_child regular member inner within)
    -- The child was vacant from the beginning.
    have vacant : start.IsVacant (task.location ++ [segment]) := by
      have faces := resolves.face_eq liveChild unfilled
      rw [Value.at?_concat, found, Option.bind_some] at faces
      rw [Value.IsVacant, ← Value.all_isNull_face, ← faces, Value.all_isNull_face]
      exact isNull
    rcases resolves.exists_old regular member inner live found with ⟨old, isOld, sameFace⟩
    have picks : start.Picks step task.location (task.location ++ [segment]) := by
      refine ⟨old, segment, isOld, ?_, rfl⟩
      rwa [← Step.segments_face naming, sameFace, Step.segments_face naming]
    -- What the last step picks in the container is aimed at, and so the child is a gap.
    rw [filler, isSet_of_filler isSome, if_pos rfl] at filled
    rcases Step.exists_segment_of_filler? filled with ⟨last, inside, isLast, -, isInside⟩
    have lastHere : plan.steps[task.index + 1]? = some last := by
      have isEnd : plan.steps.length - 1 = task.index + 1 := by omega
      rwa [List.getLast?_eq_getElem?, isEnd] at isLast
    have steps : plan.steps.drop task.index = [step, last] := by
      rw [drop_eq_cons here, drop_eq_cons lastHere, isEnd, List.drop_length]
    have filled : plan.filler = some container := by rw [filler, isSet_of_filler isSome, if_pos rfl, filled]
    have awaits : plan.Awaits start gaps task (task.location ++ [segment] ++ [inside]) := by
      left
      rw [steps, Value.isTarget_cons]
      exact .inr ⟨container, _, inside, filled, rfl, naming, picks, vacant, isInside, rfl⟩
    rcases resolves.aims_of_awaits member live awaits with picked | ⟨_, _, gap, _, _, _, isGap, _, same⟩
    · have holds := picked.isContainerAt
      rw [vacant.isContainerAt_eq_false] at holds
      cases holds
    · rwa [List.append_inj_left' same rfl]

/-- The gaps of an edit after containers were created on the way from a location. -/
def Filled (gaps : Location → Prop) (location : Location) (ways : List (Segment × Option Value))
    (gap : Location) : Prop :=
  gaps gap ∨ ∃ segment container, (segment, some container) ∈ ways ∧ gap = location ++ [segment]

/-- The containers that are missing are created in both layers. -/
theorem overlays_create (regular : plan.Regular lead)
    (resolves : plan.Resolves lead start progress tasks base gaps changed) (member : task ∈ tasks)
    (live : ¬ Within changed task.location)
    (found : progress.document.at? task.location = some node) {ways : List (Segment × Option Value)}
    (approached : plan.approachAll task.index step node (step.segments node) = .ok ways) :
    ∃ base', Overlay start base' (Filled gaps task.location ways) (fun _ => plan.filler) ∧
      Overlay base' (create progress.document task.location ways) changed plan.action.result := by
  by_cases creates : ∃ segment container, (segment, some container) ∈ ways
  · have created {segment : Segment} {container : Value} (isIn : (segment, some container) ∈ ways) :=
      way_created ((mem_approachAll approached).1 isIn).2
    rcases creates with ⟨_, filler, isIn⟩
    rcases created isIn with ⟨filled, isEnd, -, -⟩
    have isSome : plan.filler.isSome = true := by rw [filled]; rfl
    have layer := resolves.filled
    rw [filled] at layer ⊢
    refine ⟨_, overlay_create layer resolves.edited ?_ ?_⟩
    · intro gap isGap
      have length := resolves.level (descends_of_filler isSome) task member
      have := (resolves.length_gap regular isGap).2
      omega
    · intro segment container isIn
      have isNamed := created isIn
      have admitted : progress.document.AdmitsAt task.location segment := by
        refine ⟨node, found, Step.admits_of_mem_segments ?_ ((mem_approachAll approached).1 isIn).1⟩
        exact Fragment.isAssignable_of_isNaming isNamed.2.2.1
      refine ⟨?_, (resolves.edited.admitsAt_iff live).1 admitted, admitted,
        resolves.beside_of_isNull regular member isSome isEnd found isNamed.2.2.2⟩
      rw [isNamed.1] at filled
      exact Option.some.inj filled
  · have none_created : ∀ segment container, (segment, some container) ∉ ways :=
      fun segment container isIn => creates ⟨segment, container, isIn⟩
    refine ⟨base, resolves.filled.congr (fun _ => .inl) ?_, ?_⟩
    · rintro gap ⟨isGap | ⟨segment, container, isIn, -⟩, -⟩
      · exact isGap
      · exact absurd isIn (none_created segment container)
    · rw [create_eq_self none_created]
      exact resolves.edited

/-- Creating containers on the way to children leaves an edit resolved. -/
theorem fill (regular : plan.Regular lead)
    (resolves : plan.Resolves lead start progress tasks base gaps changed) (member : task ∈ tasks)
    (here : plan.steps[task.index]? = some step) (live : ¬ Within changed task.location)
    (found : progress.document.at? task.location = some node) {ways : List (Segment × Option Value)}
    (approached : plan.approachAll task.index step node (step.segments node) = .ok ways) :
    ∃ base', plan.Resolves lead start
      { progress with document := create progress.document task.location ways } tasks base'
      (Filled gaps task.location ways) changed := by
  rcases resolves.overlays_create regular member live found approached with ⟨base', filled, edited⟩
  refine ⟨base', { resolves with filled := filled, edited := edited, isGap := ?_, complete := ?_ }⟩
  · rintro gap (isGap | ⟨segment, container, isWay, rfl⟩)
    · exact resolves.isGap gap isGap
    · rcases (mem_approachAll approached).1 isWay with ⟨isIn, isWay⟩
      refine ⟨?_, resolves.isGap_of_way regular member here live found isIn isWay⟩
      rw [(way_created isWay).1]
      rfl
  · intro target outermost
    rcases resolves.complete target outermost with isChanged | ⟨next, isNext, isTarget | inFiller⟩
    · exact .inl isChanged
    · exact .inr ⟨next, isNext, .inl isTarget⟩
    · rcases inFiller with ⟨container, last, segment, filled, isLast, isGap, isIn, same⟩
      exact .inr ⟨next, isNext, .inr ⟨container, last, segment, filled, isLast, .inl isGap, isIn, same⟩⟩

/-- A child that a step picks now was picked in the unchanged document too, if it was a container there. -/
theorem picks_of_isContainerAt (regular : plan.Regular lead)
    (resolves : plan.Resolves lead start progress tasks base gaps changed) (member : task ∈ tasks)
    (inner : task.index + 1 < plan.steps.length) (live : ¬ Within changed (task.location ++ [segment]))
    (found : progress.document.at? task.location = some node)
    (container : start.isContainerAt (task.location ++ [segment]) = true) :
    (node.child? segment).any Value.isContainer = true ∧ ∃ old, start.at? task.location = some old ∧
      (segment ∈ step.segments node ↔ segment ∈ step.segments old) := by
  have liveParent : ¬ Within changed task.location := fun within => live (within.trans (List.prefix_append _ _))
  have unfilled : ¬ Within gaps (task.location ++ [segment]) := by
    intro within
    have isGap := (resolves.isGap _ (resolves.within_child regular member inner within)).2
    rw [isGap.isVacant.isContainerAt_eq_false] at container
    cases container
  have now := resolves.isContainerAt_eq live unfilled
  have exist := resolves.isSome_eq live unfilled
  rcases resolves.exists_old regular member inner liveParent found with ⟨old, isOld, sameFace⟩
  rw [container, Value.isContainerAt, Value.at?_concat, found, Option.bind_some] at now
  rw [Value.at?_concat, Value.at?_concat, found, isOld, Option.bind_some, Option.bind_some] at exist
  exact ⟨now, old, isOld, Step.mem_segments_congr sameFace.symm exist⟩

/-- What is awaited below a child that a step picks now was awaited below its node. -/
theorem sound_child (regular : plan.Regular lead)
    (resolves : plan.Resolves lead start progress tasks base gaps changed) (member : task ∈ tasks)
    (here : plan.steps[task.index]? = some step) (walks : step.isDescent = false)
    (inner : task.index + 1 < plan.steps.length) (live : ¬ Within changed (task.location ++ [segment]))
    (found : progress.document.at? task.location = some node) (isIn : segment ∈ step.segments node)
    {target : Location}
    (isTarget : start.IsTarget plan.filler (plan.steps.drop (task.index + 1)) (task.location ++ [segment]) target) :
    plan.Aims lead start target := by
  have inside := resolves.inside task member
  have plain := regular.plain_at inside here
  have container := (isTarget.below (regular.plain_drop (by omega))).1
  rcases resolves.picks_of_isContainerAt regular member inner live found container with ⟨-, old, isOld, congr⟩
  have isThere : (start.at? (task.location ++ [segment])).isSome = true := by
    rw [Value.isContainerAt] at container
    exact Option.isSome_of_any container
  have leads : start.Leads step task.location (task.location ++ [segment]) :=
    (Value.leads_iff plain walks).2 ⟨isThere, old, segment, isOld, congr.1 isIn, rfl⟩
  apply (resolves.sound task member).resolve_left (fun within => live (within.trans (List.prefix_append _ _)))
  rcases List.getElem?_eq_some_iff.2 ⟨inner, rfl⟩ with next
  rw [drop_eq_cons here]
  rw [drop_eq_cons next] at isTarget ⊢
  exact Value.isTarget_cons.2 (.inl ⟨_, leads, isTarget⟩)

theorem isStrict_of_level (level : plan.descends = false) {index : Nat} (before : index < plan.steps.length) :
    plan.isStrict index = true := by
  have noDescent : plan.steps.findIdx Fragment.isDescent = plan.steps.length := by
    apply List.findIdx_eq_length.2
    intro step member
    rw [descends, List.any_eq_false] at level
    simpa using level step member
  rw [isStrict, noDescent]
  simpa using before

/-- What is due and outermost and lies in a gap below a node is awaited by the task for that gap. -/
theorem complete_gap (regular : plan.Regular lead)
    (resolves : plan.Resolves lead start progress tasks base gaps changed) (member : task ∈ tasks)
    (inner : task.index + 1 < plan.steps.length) (live : ¬ Within changed (task.location ++ [segment]))
    (found : progress.document.at? task.location = some node) {ways : List (Segment × Option Value)}
    (approached : plan.approachAll task.index step node (step.segments node) = .ok ways) {container : Value}
    {last : Step} {inside : Segment} (filled : plan.filler = some container)
    (isEnd : plan.steps.drop (task.index + 1) = [last]) (naming : step.isNaming = true)
    (picks : start.Picks step task.location (task.location ++ [segment]))
    (vacant : start.IsVacant (task.location ++ [segment])) (isInside : inside ∈ last.segments container) :
    ∃ created, (segment, created) ∈ ways ∧
      plan.Awaits start (Filled gaps task.location ways) ⟨task.location ++ [segment], task.index + 1⟩
        (task.location ++ [segment] ++ [inside]) := by
  have liveParent : ¬ Within changed task.location := fun within => live (within.trans (List.prefix_append _ _))
  have isIn : segment ∈ step.segments node := by
    rcases picks with ⟨old, picked, isOld, isIn, same⟩
    rcases List.append_inj_right' same rfl with ⟨⟩
    rcases resolves.exists_old regular member inner liveParent found with ⟨old', isOld', sameFace⟩
    rw [isOld] at isOld'
    rcases Option.some.inj isOld' with rfl
    rwa [← Step.segments_face naming, sameFace, Step.segments_face naming] at isIn
  by_cases isGap : gaps (task.location ++ [segment])
  · have faces := resolves.face_gap regular isGap live
    rw [Value.at?_concat, found, Option.bind_some, filled] at faces
    have isContainer : (node.child? segment).any Value.isContainer = true := by
      rw [← Value.any_isContainer_face, faces, Value.any_isContainer_face, Option.any_some]
      exact Step.isContainer_of_mem_segments isInside
    exact ⟨none, (mem_approachAll approached).2 ⟨isIn, .inl ⟨rfl, isContainer⟩⟩,
      .inr ⟨container, _, inside, filled, isEnd, .inl isGap, isInside, rfl⟩⟩
  · have unfilled : ¬ Within gaps (task.location ++ [segment]) :=
      fun within => isGap (resolves.within_child regular member inner within)
    have isNull : (node.child? segment).all Value.isNull = true := by
      have faces := resolves.face_eq live unfilled
      rw [Value.at?_concat, found, Option.bind_some] at faces
      rw [← Value.all_isNull_face, faces, Value.all_isNull_face]
      exact vacant
    have isSome : plan.filler.isSome = true := by rw [filled]; rfl
    have strict := isStrict_of_level (descends_of_filler isSome) (Nat.lt_of_succ_lt inner)
    have named : (step.isNaming && plan.isStrict task.index && plan.action.isSet) = true := by
      rw [naming, strict, isSet_of_filler isSome]
      rfl
    rcases exists_deduced approached isIn isNull named with ⟨created, deduced⟩
    have isWay := (mem_approachAll approached).2 ⟨isIn, .inr ⟨created, rfl, isNull, named, deduced⟩⟩
    exact ⟨some created, isWay,
      .inr ⟨container, _, inside, filled, isEnd, .inr ⟨segment, created, isWay, rfl⟩, isInside, rfl⟩⟩

/-- What is due and outermost and is picked from a node is awaited by one of the tasks for its children. -/
theorem complete_child (regular : plan.Regular lead)
    (resolves : plan.Resolves lead start progress tasks base gaps changed) (member : task ∈ tasks)
    (here : plan.steps[task.index]? = some step) (walks : step.isDescent = false)
    (inner : task.index + 1 < plan.steps.length)
    (found : progress.document.at? task.location = some node) {ways : List (Segment × Option Value)}
    (approached : plan.approachAll task.index step node (step.segments node) = .ok ways) {target : Location}
    (outermost : Outermost (plan.Due lead start) target)
    (isTarget : start.IsTarget plan.filler (plan.steps.drop task.index) task.location target) :
    ∃ segment created, (segment, created) ∈ ways ∧
      plan.Awaits start (Filled gaps task.location ways) ⟨task.location ++ [segment], task.index + 1⟩ target := by
  have inside := resolves.inside task member
  rcases List.getElem?_eq_some_iff.2 ⟨inner, rfl⟩ with next
  have rest := drop_eq_cons next
  rw [drop_eq_cons here, rest, Value.isTarget_cons] at isTarget
  rcases isTarget with ⟨_, leads, isTarget⟩ |
    ⟨container, _, last, filled, isEnd, naming, picks, vacant, isInside, rfl⟩
  · rcases (Value.leads_iff (regular.plain_at inside here) walks).1 leads with
      ⟨-, old, segment, isOld, isIn, rfl⟩
    rw [← rest] at isTarget
    have below := isTarget.below (regular.plain_drop (by omega))
    have live := resolves.not_within outermost below.2.1 below.2.2
    rcases resolves.picks_of_isContainerAt regular member inner live found below.1 with
      ⟨container, old', isOld', congr⟩
    rw [isOld] at isOld'
    rcases Option.some.inj isOld' with rfl
    refine ⟨segment, none, (mem_approachAll approached).2 ?_, .inl isTarget⟩
    exact ⟨congr.2 isIn, .inl ⟨rfl, container⟩⟩
  · rcases picks with ⟨old, segment, isOld, isIn, rfl⟩
    rw [isEnd] at rest
    have live : ¬ Within changed (task.location ++ [segment]) := by
      apply resolves.not_within outermost (List.prefix_append _ _)
      simp
    rcases resolves.complete_gap regular member inner live found approached filled rest naming
      ⟨old, segment, isOld, isIn, rfl⟩ vacant isInside with ⟨created, isWay, awaits⟩
    exact ⟨segment, created, isWay, awaits⟩

theorem follow (regular : plan.Regular lead)
    (resolves : plan.Resolves lead start progress (task :: tasks) base gaps changed)
    (unwritten : progress.wrote task.location = false) (here : plan.steps[task.index]? = some step)
    (walks : step.isDescent = false) (inner : task.index + 1 < plan.steps.length)
    (found : progress.document.at? task.location = some node) {segments : List Segment}
    (picked : plan.pick task.index progress.document node step = .ok segments) {ways : List (Segment × Option Value)}
    (approached : plan.approachAll task.index step node segments = .ok ways) :
    ∃ base' gaps', plan.Resolves lead start { progress with document := create progress.document task.location ways }
      (ways.map (fun way => ⟨task.location ++ [way.1], task.index + 1⟩) ++ tasks) base' gaps' changed := by
  have before : task.index < plan.steps.length := by omega
  have inside : lead ≤ task.index := resolves.inside task List.mem_cons_self
  rw [pick_eq_ok (regular.unfiltered step (List.mem_of_getElem? here)) picked] at approached
  by_cases within : Within changed task.location
  · have closed := resolves.isContainerAt_eq_false regular List.mem_cons_self unwritten before within
    rw [segments_eq_nil closed found] at approached
    rcases Except.ok.inj approached with rfl
    exact ⟨base, gaps, resolves.drop_of_closed regular before closed⟩
  · rcases resolves.fill regular List.mem_cons_self here within found approached with ⟨base', filled⟩
    refine ⟨base', _, filled.replace ?_ ?_ ?_ ?_⟩
    · intro next member
      rcases List.mem_map.1 member with ⟨way, -, rfl⟩
      exact Nat.le_succ_of_le inside
    · intro level next member
      rcases List.mem_map.1 member with ⟨way, -, rfl⟩
      have := resolves.level level task List.mem_cons_self
      simp only [List.length_append, List.length_singleton]
      omega
    · intro next member
      rcases List.mem_map.1 member with ⟨⟨segment, created⟩, isWay, rfl⟩
      by_cases withinChild : Within changed (task.location ++ [segment])
      · exact .inl withinChild
      · right
        intro target isTarget
        exact resolves.sound_child regular List.mem_cons_self here walks inner withinChild found
          ((mem_approachAll approached).1 isWay).1 isTarget
    · intro target outermost awaits
      right
      rcases awaits with isTarget | ⟨_, _, _, _, isLast, _⟩
      · rcases resolves.complete_child regular List.mem_cons_self here walks inner found approached
          outermost isTarget with ⟨segment, created, isWay, awaits⟩
        exact ⟨_, List.mem_map.2 ⟨_, isWay, rfl⟩, awaits⟩
      · have short := congrArg List.length isLast
        rw [List.length_drop, List.length_singleton] at short
        omega

end Resolves

end Plan

end TreePath

import TreePath.Proofs.Edit.First
import TreePath.Regex.Standard

/-!
# Setting one value

Setting one value stops as soon as it is set. The containers for it are created before that, and at once in all gaps
that the last step but one names in a node. So there are two states before the value is set, which `Undecided`
describes: either nothing has been changed, or the next tasks are those for the children of that node, and one of
them is for a gap. Such a task sets the value.
-/

namespace TreePath

/-- A container was created in every gap that the last but one of some steps names in a node, and nothing else done. -/
structure Prepared (steps : List Step) (step last : Step) (place : Location) (earlier later : Value) : Prop where
  isEnd : [step, last] <:+ steps
  filled : ∃ container, filler? steps = some container ∧
    Overlay earlier later (earlier.IsGap [step, last] place) fun _ => some container

theorem Step.eq_of_mem_segments {step : Step} {node : Value} {segment other : Segment} (naming : step.isNaming = true)
    (single : ∀ selectors, step ≠ .union selectors) (isIn : segment ∈ step.segments node)
    (isOther : other ∈ step.segments node) : other = segment := by
  have selected {selector : Selector} (isIn : segment ∈ selector.segments node)
      (isOther : other ∈ selector.segments node) : other = segment := by
    cases selector with
    | key name =>
        cases node with
        | object members => rw [List.mem_singleton.1 isIn, List.mem_singleton.1 isOther]
        | _ => cases isIn
    | index i =>
        cases node with
        | array items =>
            simp only [Selector.segments, List.mem_map, Option.mem_toList] at isIn isOther
            rcases isIn with ⟨position, resolved, rfl⟩
            rcases isOther with ⟨another, resolvedToo, rfl⟩
            rw [Option.some.inj (resolved.symm.trans resolvedToo)]
        | _ => cases isIn
  cases step with
  | child name => exact @selected (.key name) isIn isOther
  | nth i => exact @selected (.index i) isIn isOther
  | union selectors => exact absurd rfl (single selectors)
  | _ => cases naming

namespace Value

theorem Picks.unique {document : Value} {step : Step} {place child other : Location} (naming : step.isNaming = true)
    (single : ∀ selectors, step ≠ .union selectors) (picks : document.Picks step place child)
    (picksOther : document.Picks step place other) : other = child := by
  rcases picks with ⟨node, segment, found, isIn, rfl⟩
  rcases picksOther with ⟨same, segment', foundToo, isInToo, rfl⟩
  rcases Option.some.inj (found.symm.trans foundToo)
  rw [Step.eq_of_mem_segments naming single isIn isInToo]

end Value

namespace Plan

/-- A plan to set one value at a place that the last step picks. -/
structure SetsOne {Memory : Type} (plan : Plan Memory) (value : Value) : Prop where
  sets : plan.action = .set value
  limited : plan.limit = some 1
  assignable : ∀ last ∈ plan.steps.getLast?, last.isAssignable = true

/-- Nothing has been set or noted. -/
def Unset {Memory : Type} (progress : Progress Memory) : Prop :=
  progress.count = 0 ∧ progress.written = []

/-- What holds between the tasks as long as the value has not been set. -/
inductive Undecided (steps : List Step) (start document : Value) : List Task → Prop
  | unchanged {tasks : List Task} (same : document = start) : Undecided steps start document tasks
  | prepared {step last : Step} {place : Location} {fresh tasks : List Task}
      (prepared : Prepared steps step last place start document)
      (picked : ∀ task ∈ fresh, task.index + 1 = steps.length ∧ start.Picks step place task.location)
      (isGap : ∃ task ∈ fresh, start.IsGap [step, last] place task.location) :
      Undecided steps start document (fresh ++ tasks)

/-- The value has been set at one location, in the document as it was or with containers created for it. -/
inductive Decided (steps : List Step) (start document value : Value) : Prop
  | alone {target : Location} (set : Overlay start document (· = target) fun _ => some value)
  | beside {step last : Step} {place : Location} {segment inside : Segment} {between : Value}
      (prepared : Prepared steps step last place start between)
      (picks : start.Picks step place (place ++ [segment]))
      (set : Overlay between document (· = place ++ [segment, inside]) fun _ => some value)

variable {Memory : Type} {plan : Plan Memory} {value start : Value} {progress later : Progress Memory} {task : Task}
  {tasks more : List Task}

/-! ## The last step -/

theorem SetsOne.changeAll_cons (sets : plan.SetsOne value) (isFirst : progress.count = 0) (location : Location)
    (segment : Segment) (segments : List Segment) :
    plan.changeAll progress location (segment :: segments) = plan.store progress location segment value := by
  have stops : plan.isDone (plan.store progress location segment value).count = true := by
    simp only [isDone, sets.limited, store, record, isFirst]
    rfl
  have starts : plan.isDone progress.count = false := by
    simp only [isDone, sets.limited, isFirst]
    rfl
  rw [changeAll, starts, change, sets.sets]
  cases segments with
  | nil => rfl
  | cons other segments =>
      simp only [changeAll, stops, if_true]
      rfl

theorem SetsOne.assignable_at (sets : plan.SetsOne value) {step : Step} (here : plan.steps[task.index]? = some step)
    (isLast : task.index + 1 = plan.steps.length) : step.isAssignable = true := by
  apply sets.assignable step
  rw [List.getLast?_eq_getElem?, ← isLast, Nat.add_sub_cancel, here]
  exact rfl

/-- The last step sets the value at the first child that it picks, if it picks any. -/
theorem SetsOne.finish (sets : plan.SetsOne value) (isFirst : progress.count = 0) {step : Step} {node : Value}
    {segments : List Segment} (here : plan.steps[task.index]? = some step)
    (isLast : task.index + 1 = plan.steps.length) (found : progress.document.at? task.location = some node)
    (picked : plan.pick task.index progress.document node step = .ok segments) :
    (step.segments node = [] ∧ plan.changeAll progress task.location segments = progress) ∨
      ((plan.changeAll progress task.location segments).count = 1 ∧ ∃ segment,
        Overlay progress.document (plan.changeAll progress task.location segments).document
          (· = task.location ++ [segment]) fun _ => some value) := by
  have assignable := sets.assignable_at here isLast
  have areSegments : segments = step.segments node := by
    apply pick_eq_ok _ picked
    cases step <;> first | rfl | cases assignable
  cases segments with
  | nil => exact .inl ⟨areSegments.symm, rfl⟩
  | cons segment segments =>
      right
      rw [sets.changeAll_cons isFirst]
      refine ⟨by simp only [store, record, isFirst], segment, ?_⟩
      refine overlay_place ⟨node, found, Step.admits_of_mem_segments assignable ?_⟩ rfl
      rw [← areSegments]
      exact List.mem_cons_self

/-! ## Containers that are created -/

theorem suffix_of_here {step last : Step} {index : Nat} (here : plan.steps[index]? = some step)
    (isEnd : index + 2 = plan.steps.length) (isLast : plan.steps.getLast? = some last) :
    [step, last] <:+ plan.steps := by
  have next : plan.steps[index + 1]? = some last := by
    have same : plan.steps.length - 1 = index + 1 := by omega
    rwa [List.getLast?_eq_getElem?, same] at isLast
  have split : plan.steps.drop index = [step, last] := by
    rw [drop_eq_cons here, drop_eq_cons next, isEnd, List.drop_length]
  rw [← split]
  exact List.drop_suffix index plan.steps

/-- Whatever is created is created in a gap, and no gap is left out. -/
theorem isGap_iff_created {step last : Step} {node : Value} {location : Location} {index : Nat}
    {ways : List (Segment × Option Value)} (found : start.at? location = some node)
    (approached : plan.approachAll index step node (step.segments node) = .ok ways)
    (fills : plan.filler.isSome = true) (inner : index < plan.steps.length) {gap : Location} :
    start.IsGap [step, last] location gap ↔
      ∃ segment container, (segment, some container) ∈ ways ∧ gap = location ++ [segment] := by
  constructor
  · rintro ⟨naming, ⟨same, segment, isSame, isIn, rfl⟩, vacant⟩
    rcases Option.some.inj (found.symm.trans isSame)
    rw [Value.IsVacant, Value.at?_concat, found, Option.bind_some] at vacant
    have named : (step.isNaming && plan.isStrict index && plan.action.isSet) = true := by
      rw [naming, Resolves.isStrict_of_level (descends_of_filler fills) inner, isSet_of_filler fills]
      rfl
    rcases exists_deduced approached isIn vacant named with ⟨container, deduced⟩
    have isWay : plan.IsWay index step node segment (some container) := .inr ⟨container, rfl, vacant, named, deduced⟩
    exact ⟨segment, container, (mem_approachAll approached).2 ⟨isIn, isWay⟩, rfl⟩
  · rintro ⟨segment, container, isCreated, rfl⟩
    rcases (mem_approachAll approached).1 isCreated with ⟨isIn, isWay⟩
    rcases Resolves.way_created isWay with ⟨-, -, naming, vacant⟩
    refine ⟨naming, ⟨node, segment, found, isIn, rfl⟩, ?_⟩
    rwa [Value.IsVacant, Value.at?_concat, found]

theorem prepared_create {step : Step} {node container : Value} {segment : Segment}
    {ways : List (Segment × Option Value)} (here : plan.steps[task.index]? = some step)
    (found : start.at? task.location = some node)
    (approached : plan.approachAll task.index step node (step.segments node) = .ok ways)
    (isCreated : (segment, some container) ∈ ways) :
    ∃ last, Prepared plan.steps step last task.location start (create start task.location ways) ∧
      start.IsGap [step, last] task.location (task.location ++ [segment]) := by
  rcases Resolves.way_created ((mem_approachAll approached).1 isCreated).2 with ⟨filled, isEnd, naming, -⟩
  have fills : plan.filler.isSome = true := by rw [filled]; rfl
  have isFiller : filler? plan.steps = some container := by
    rwa [filler, if_pos (isSet_of_filler fills)] at filled
  rcases Step.exists_segment_of_filler? isFiller with ⟨last, _, isLast, -⟩
  have isGap_iff (gap : Location) := @isGap_iff_created _ plan start step last node task.location task.index ways found
    approached fills (by omega) gap
  have nothingFilled : Overlay start start (fun _ => False) fun _ => some container := .refl start _
  have nothingSet : Overlay start start (fun _ => False) fun _ => none := .refl start _
  have layers := overlay_create nothingFilled nothingSet (fun _ isGap => isGap.elim) (by
    intro segment other isCreated
    rcases (mem_approachAll approached).1 isCreated with ⟨isIn, isWay⟩
    have admitted : start.AdmitsAt task.location segment :=
      ⟨node, found, Step.admits_of_mem_segments (Fragment.isAssignable_of_isNaming naming) isIn⟩
    have same := (Resolves.way_created isWay).1
    rw [filled] at same
    exact ⟨(Option.some.inj same).symm, admitted, admitted, fun _ isPlace => isPlace.elim⟩)
  refine ⟨last, ⟨suffix_of_here here isEnd isLast, container, isFiller, layers.1.congr ?_ ?_⟩, ?_⟩
  · rintro gap (impossible | isCreated)
    · exact impossible.elim
    · exact (isGap_iff gap).2 isCreated
  · intro gap outermost
    exact .inr ((isGap_iff gap).1 outermost.1)
  · exact (isGap_iff _).2 ⟨segment, container, isCreated, rfl⟩

/-- Going on to children either changes nothing or creates containers in all gaps among them. -/
theorem follow_undecided {step : Step} {node : Value} {segments : List Segment} {ways : List (Segment × Option Value)}
    (here : plan.steps[task.index]? = some step) (found : start.at? task.location = some node)
    (picked : plan.pick task.index start node step = .ok segments)
    (approached : plan.approachAll task.index step node segments = .ok ways) :
    Undecided plan.steps start (create start task.location ways)
      ((ways.map fun way => ⟨task.location ++ [way.1], task.index + 1⟩) ++ tasks) := by
  by_cases creates : ∃ segment container, (segment, some container) ∈ ways
  · rcases creates with ⟨segment, container, isCreated⟩
    rcases Resolves.way_created ((mem_approachAll approached).1 isCreated).2 with ⟨-, isEnd, naming, -⟩
    have areSegments : segments = step.segments node := by
      apply pick_eq_ok _ picked
      cases step <;> first | rfl | cases naming
    rw [areSegments] at approached
    rcases prepared_create here found approached isCreated with ⟨last, prepared, isGap⟩
    refine .prepared prepared ?_ ⟨_, List.mem_map.2 ⟨_, isCreated, rfl⟩, isGap⟩
    intro next isNext
    rcases List.mem_map.1 isNext with ⟨⟨segment, created⟩, isWay, rfl⟩
    exact ⟨isEnd, node, segment, found, ((mem_approachAll approached).1 isWay).1, rfl⟩
  · apply Undecided.unchanged
    apply create_eq_self
    exact fun segment container isWay => creates ⟨segment, container, isWay⟩

theorem outermost_of_isGap {step last : Step} {place gap : Location} (isGap : start.IsGap [step, last] place gap) :
    Outermost (start.IsGap [step, last] place) gap := by
  refine ⟨isGap, ?_⟩
  intro other isOther above
  apply above.eq_of_length
  rw [isGap.2.1.length_eq, isOther.2.1.length_eq]

/-- In a gap that was filled the last step has a child to pick. -/
theorem exists_node_of_isGap {steps : List Step} {step last : Step} {place gap : Location} {document : Value}
    (prepared : Prepared steps step last place start document) (isGap : start.IsGap [step, last] place gap) :
    ∃ node, document.at? gap = some node ∧ last.segments node ≠ [] := by
  rcases prepared with ⟨⟨before, split⟩, container, isFiller, filled⟩
  refine ⟨container, filled.stored gap (outermost_of_isGap isGap), ?_⟩
  rcases Step.exists_segment_of_filler? isFiller with ⟨other, segment, isLast, -, isIn⟩
  rw [← split, List.getLast?_append_of_ne_nil _ (List.cons_ne_nil _ _)] at isLast
  rcases Option.some.inj isLast
  exact List.ne_nil_of_mem isIn

/-! ## One task -/

theorem SetsOne.perform_unchanged (sets : plan.SetsOne value) (unset : Unset progress)
    (same : progress.document = start) (performed : plan.perform progress task = .ok (later, more)) :
    (Unset later ∧ Undecided plan.steps start later.document (more ++ tasks)) ∨
      (later.count = 1 ∧ Decided plan.steps start later.document value) := by
  cases turn_of_perform performed with
  | finish here plain walks isLast found picked =>
      rcases sets.finish unset.1 here isLast found picked with ⟨-, nothing⟩ | ⟨isCount, segment, overlay⟩
      · rw [nothing]
        exact .inl ⟨unset, .unchanged same⟩
      · rw [same] at overlay
        exact .inr ⟨isCount, .alone overlay⟩
  | follow here plain walks inner found picked approached =>
      rw [same] at found picked ⊢
      exact .inl ⟨unset, follow_undecided here found picked approached⟩
  | _ => exact .inl ⟨unset, .unchanged same⟩

/-- A task for a child of the node for which containers were created sets the value, unless it picks nothing. -/
theorem SetsOne.perform_prepared (sets : plan.SetsOne value) (unset : Unset progress) {step last : Step}
    {place : Location} (prepared : Prepared plan.steps step last place start progress.document)
    (isLast : task.index + 1 = plan.steps.length) (picks : start.Picks step place task.location)
    (performed : plan.perform progress task = .ok (later, more)) :
    (more = [] ∧ later = progress ∧ ¬ start.IsGap [step, last] place task.location) ∨
      (later.count = 1 ∧ Decided plan.steps start later.document value) := by
  have lastHere : plan.steps[task.index]? = some last := by
    rcases prepared.isEnd with ⟨before, split⟩
    have index : task.index = before.length + 1 := by
      have := congrArg List.length split
      simp only [List.length_append, List.length_cons, List.length_nil] at this
      omega
    rw [← split, index, List.getElem?_append_right (Nat.le_succ _)]
    simp
  have assignable := sets.assignable_at lastHere isLast
  have notHere {other : Step} (here : plan.steps[task.index]? = some other) : other = last :=
    Option.some.inj (here.symm.trans lastHere)
  cases turn_of_perform performed with
  | beyond here =>
      rw [here] at lastHere
      cases lastHere
  | root here =>
      rw [← notHere here] at assignable
      cases assignable
  | current here =>
      rw [← notHere here] at assignable
      cases assignable
  | descent here =>
      rw [← notHere here] at assignable
      cases assignable
  | absent here nothing =>
      refine .inl ⟨rfl, rfl, ?_⟩
      intro isGap
      rcases exists_node_of_isGap prepared isGap with ⟨node, found, -⟩
      rw [nothing] at found
      cases found
  | follow here plain walks inner found picked approached => omega
  | finish here plain walks _ found picked =>
      rcases sets.finish unset.1 here isLast found picked with ⟨noSegments, nothing⟩ | ⟨isCount, inside, overlay⟩
      · refine .inl ⟨rfl, nothing, ?_⟩
        intro isGap
        rcases exists_node_of_isGap prepared isGap with ⟨node, isNode, some⟩
        rcases Option.some.inj (found.symm.trans isNode)
        rw [notHere here] at noSegments
        exact some noSegments
      · refine .inr ⟨isCount, ?_⟩
        rcases picks with ⟨node, segment, isNode, isIn, isChild⟩
        have isTarget : task.location ++ [inside] = place ++ [segment, inside] := by
          rw [isChild, List.append_assoc]
          rfl
        rw [isTarget] at overlay
        exact .beside prepared ⟨node, segment, isNode, isIn, rfl⟩ overlay

theorem SetsOne.perform (sets : plan.SetsOne value) (unset : Unset progress)
    (undecided : Undecided plan.steps start progress.document (task :: tasks))
    (performed : plan.perform progress task = .ok (later, more)) :
    (Unset later ∧ Undecided plan.steps start later.document (more ++ tasks)) ∨
      (later.count = 1 ∧ Decided plan.steps start later.document value) := by
  generalize isStack : task :: tasks = stack at undecided
  cases undecided with
  | unchanged same => exact sets.perform_unchanged unset same performed
  | @prepared step last place fresh others prepared picked isGap =>
      cases fresh with
      | nil =>
          rcases isGap with ⟨_, impossible, -⟩
          cases impossible
      | cons head fresh =>
          rcases List.cons.inj isStack with ⟨rfl, rfl⟩
          rcases picked task List.mem_cons_self with ⟨isLast, picks⟩
          rcases sets.perform_prepared unset prepared isLast picks performed with
            ⟨noTasks, same, notHere⟩ | decided
          · rw [noTasks, same]
            refine .inl ⟨unset, ?_⟩
            show Undecided plan.steps start progress.document (fresh ++ others)
            refine .prepared prepared ?_ ?_
            · intro next isNext
              exact picked next (List.mem_cons_of_mem _ isNext)
            · rcases isGap with ⟨next, isNext, isGap⟩
              rcases List.mem_cons.1 isNext with rfl | later
              · exact absurd isGap notHere
              · exact ⟨next, later, isGap⟩
          · exact .inr decided

/-- A run that meets no obstacle leaves the document as it was, or with the value set at one location. -/
theorem SetsOne.run (sets : plan.SetsOne value) {memory : Memory} {tasks : List Task}
    (succeeds : (plan.run (.start start memory) tasks).2 = none) :
    ((plan.run (.start start memory) tasks).1.count = 0 ∧ (plan.run (.start start memory) tasks).1.document = start) ∨
      ((plan.run (.start start memory) tasks).1.count = 1 ∧
        Decided plan.steps start (plan.run (.start start memory) tasks).1.document value) := by
  rcases @exists_halts _ plan (.start start memory) tasks
    (fun progress tasks => Unset progress ∧ Undecided plan.steps start progress.document tasks ∨
      progress.count = 1 ∧ Decided plan.steps start progress.document value)
    (by
      rintro progress task tasks wrote (⟨⟨-, unwritten⟩, -⟩ | decided)
      · rw [Progress.wrote, unwritten] at wrote
        cases wrote
      · exact .inr decided)
    (by
      rintro progress task tasks later more - unfinished performed (⟨unset, undecided⟩ | ⟨isCount, -⟩)
      · exact sets.perform unset undecided performed
      · rw [isDone, sets.limited, isCount] at unfinished
        cases unfinished)
    (.inl ⟨⟨rfl, rfl⟩, .unchanged rfl⟩) with ⟨left, ⟨unset, undecided⟩ | decided, halts⟩
  · left
    refine ⟨unset.1, ?_⟩
    rw [succeeds] at halts
    cases halts with
    | enough isDone =>
        rw [Plan.isDone, sets.limited, unset.1] at isDone
        cases isDone
    | exhausted =>
        generalize isStack : ([] : List Task) = stack at undecided
        cases undecided with
        | unchanged same => exact same
        | prepared prepared picked isGap =>
            rcases isGap with ⟨next, isNext, -⟩
            rw [(List.nil_eq_append_iff.1 isStack).1] at isNext
            cases isNext
  · exact .inr decided

end Plan

namespace Path

/--
Setting one value. If all goes well, either the document is as it was or the value stands at one location. Nothing else
is changed, except that there may be a new container in each gap that the last fragment but one names in the node two
levels above that location. If this fragment is no union, the only such gap is on the way to the location.
-/
theorem setOne_changes_one_location [RegexSyntax] (path : Path) (document value : Value) {count : Nat}
    (succeeds : (path.setOne value document).outcome = .ok count) :
    (count = 0 ∧ (path.setOne value document).document = document) ∨
      (count = 1 ∧ ∃ target,
        Overlay document (path.setOne value document).document (· = target) fun _ => some value) ∨
      (count = 1 ∧ ∃ step last place segment inside prepared,
        Prepared path.steps step last place document prepared ∧
        document.Picks step place (place ++ [segment]) ∧
        Overlay prepared (path.setOne value document).document (· = place ++ [segment, inside])
          (fun _ => some value) ∧
        ((∀ selectors, step ≠ .union selectors) →
          ∀ gap, document.IsGap [step, last] place gap → gap = place ++ [segment])) := by
  have simple : (Action.set value : Action Unit).isModify = false := rfl
  rcases path.edit_cases simple (some 1) () document with ⟨assignable, runs⟩ | ⟨error, fails⟩
  · have sets : (path.plan (.set value : Action Unit) (some 1)).SetsOne value :=
      ⟨rfl, rfl, assignable_steps (assignable_last assignable)⟩
    rw [setOne, runs, runEdit] at succeeds ⊢
    rcases ran : (path.plan (.set value : Action Unit) (some 1)).run (.start document ()) [⟨[], 0⟩] with
      ⟨later, _ | obstacle⟩
    · have decides := @sets.run _ _ value document () [⟨[], 0⟩] (by rw [ran])
      rw [ran] at succeeds decides
      rcases Except.ok.inj succeeds with rfl
      rcases decides with unchanged | ⟨isCount, decided⟩
      · exact .inl unchanged
      · cases decided with
        | alone set => exact .inr (.inl ⟨isCount, _, set⟩)
        | beside prepared picks set =>
            refine .inr (.inr ⟨isCount, _, _, _, _, _, _, prepared, picks, set, ?_⟩)
            intro single gap isGap
            exact Value.Picks.unique isGap.1 single picks isGap.2.1
    · rw [ran] at succeeds
      cases succeeds
  · rw [setOne, fails] at succeeds
    cases succeeds

/-- The path to the member `x` of the member `a`. -/
def memberOfMember : Path where
  fragments := [.root, .child "a", .child "x"]

theorem setOne_changes_one_location_memberOfMember :
    (memberOfMember.setOne (.integer 1) (.object [])).outcome = .ok 1 ∧
      ((∃ target, Overlay (.object []) (memberOfMember.setOne (.integer 1) (.object [])).document (· = target)
          fun _ => some (.integer 1)) ∨
        ∃ step last place segment inside prepared,
          Prepared memberOfMember.steps step last place (.object []) prepared ∧
          (Value.object []).Picks step place (place ++ [segment]) ∧
          Overlay prepared (memberOfMember.setOne (.integer 1) (.object [])).document
            (· = place ++ [segment, inside]) (fun _ => some (.integer 1)) ∧
          ((∀ selectors, step ≠ .union selectors) →
            ∀ gap, (Value.object []).IsGap [step, last] place gap → gap = place ++ [segment])) := by
  have isSet : (memberOfMember.setOne (.integer 1) (.object [])).outcome = .ok 1 := by cbv
  rcases setOne_changes_one_location memberOfMember (.object []) (.integer 1) isSet with
    ⟨different, -⟩ | ⟨-, alone⟩ | ⟨-, beside⟩
  · cases different
  · exact ⟨isSet, .inl alone⟩
  · exact ⟨isSet, .inr beside⟩

/-- The path to the members `x` of the members `a` and `b`. -/
def membersOfBoth : Path where
  fragments := [.root, .union [.key "a", .key "b"], .child "x"]

/-- The container for the second member was created before the first was set, and stays behind empty. -/
theorem setOne_membersOfBoth :
    Path.parse "$['a','b'].x" = .ok membersOfBoth ∧
      membersOfBoth.setOne (.integer 1) (.object []) =
        ⟨.object [("a", .object [("x", .integer 1)]), ("b", .object [])], (), .ok 1⟩ ∧
      ¬ ((membersOfBoth.setOne (.integer 1) (.object [])).document = .object [] ∨
        ∃ target, (membersOfBoth.setOne (.integer 1) (.object [])).document.at? target = some (.integer 1) ∧
          ∀ location, ¬ target <+: location → ¬ location <+: target →
            (membersOfBoth.setOne (.integer 1) (.object [])).document.at? location =
              (Value.object []).at? location) := by
  have parsed : Path.parse membersOfBoth.text = .ok membersOfBoth :=
    parse_text_of_wellFormed ⟨by simp [membersOfBoth, Fragment.WellFormed], by simp [membersOfBoth, Fragment.isAnchor]⟩
  have isText : membersOfBoth.text = "$['a','b'].x" := by decide
  have isSet : membersOfBoth.setOne (.integer 1) (.object []) =
      ⟨.object [("a", .object [("x", .integer 1)]), ("b", .object [])], (), .ok 1⟩ := by cbv
  refine ⟨isText ▸ parsed, isSet, ?_⟩
  rw [isSet]
  rintro (same | ⟨target, isThere, others⟩)
  · cases same
  · -- The location is not beside the second member, and at none of the others the value stands.
    have left : (Value.object [("a", .object [("x", .integer 1)]), ("b", .object [])]).at? [.field "b"] =
        some (.object []) := by cbv
    have near : target <+: [.field "b"] ∨ [.field "b"] <+: target := by
      apply Classical.byContradiction
      intro apart
      rw [others [.field "b"] (fun above => apart (.inl above)) (fun below => apart (.inr below))] at left
      cases left
    rcases near with above | ⟨rest, rfl⟩
    · rcases target with _ | ⟨segment, target⟩
      · cases isThere
      · rcases List.cons_prefix_cons.1 above with ⟨rfl, isEmpty⟩
        rcases List.prefix_nil.1 isEmpty with rfl
        cases left.symm.trans isThere
    · rw [Value.at?_append, left, Option.bind_some] at isThere
      rcases rest with _ | ⟨segment, rest⟩
      · cases isThere
      · rw [Value.at?_cons] at isThere
        cases segment <;> cases isThere

end Path

end TreePath

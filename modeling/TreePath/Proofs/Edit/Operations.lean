import TreePath.Edit
import TreePath.Proofs.Edit.Targets
import TreePath.Proofs.Reading.Delimited

/-!
# What one task of an edit does

For each function that works on a task without filters: which children it picks, how it goes on to them, what it
creates on the way, and what it changes.
-/

namespace TreePath

/-- What stands at a location after a value has been set there or deleted. -/
def Action.result {Memory : Type} (action : Action Memory) (location : Location) : Option Value :=
  match action with
  | .set value => some value
  | .delete => location.getLast?.bind Value.leftover
  | .modify _ => none

theorem Action.isSome_result {Memory : Type} {action : Action Memory} (isSet : action.isSet = true)
    (location : Location) : (action.result location).isSome = true := by
  cases action with
  | set value => rfl
  | delete => cases isSet
  | modify answer => cases isSet

namespace Plan

variable {Memory : Type} {plan : Plan Memory} {index : Nat} {step : Step} {node : Value} {segments : List Segment}

/-! ## Choosing children -/

theorem pickIndex_eq_ok {i : Int64} {length : Nat} (picked : plan.pickIndex index i length = .ok segments) :
    segments = (resolveIndex i length).toList.map .index := by
  cases resolved : resolveIndex i length with
  | some position =>
      simp only [pickIndex, resolved] at picked
      exact (Except.ok.inj picked).symm
  | none =>
      simp only [pickIndex, resolved] at picked
      split at picked
      · cases picked
      · exact (Except.ok.inj picked).symm

theorem pickSelector_eq_ok {selector : Selector} (picked : plan.pickSelector index node selector = .ok segments) :
    segments = selector.segments node := by
  cases selector with
  | key name =>
      cases node with
      | object members => exact (Except.ok.inj picked).symm
      | _ => exact (Except.ok.inj picked).symm
  | index i =>
      cases node with
      | array items => exact pickIndex_eq_ok picked
      | _ => exact (Except.ok.inj picked).symm

theorem pickSelectors_eq_ok {selectors : List Selector}
    (picked : plan.pickSelectors index node selectors = .ok segments) :
    segments = selectors.flatMap (·.segments node) := by
  induction selectors generalizing segments with
  | nil => exact (Except.ok.inj picked).symm
  | cons selector selectors ih =>
      rw [pickSelectors] at picked
      rcases bind_eq_ok.1 picked with ⟨first, isFirst, picked⟩
      rcases bind_eq_ok.1 picked with ⟨others, areOthers, picked⟩
      rw [← Except.ok.inj picked, List.flatMap_cons, pickSelector_eq_ok isFirst, ih areOthers]

/-- If nothing stands in its way, a step picks the children that it is to pick. -/
theorem pick_eq_ok {root : Value} (unfiltered : step.isFilter = false)
    (picked : plan.pick index root node step = .ok segments) : segments = step.segments node := by
  cases step with
  | child name =>
      have selected : plan.pickSelector index node (.key name) = .ok segments := picked
      exact pickSelector_eq_ok selected
  | nth i =>
      have selected : plan.pickSelector index node (.index i) = .ok segments := picked
      exact pickSelector_eq_ok selected
  | union selectors => exact pickSelectors_eq_ok picked
  | filter test => cases unfiltered
  | slice start stop step =>
      cases node with
      | array items => exact (Except.ok.inj picked).symm
      | _ => exact (Except.ok.inj picked).symm
  | _ => exact (Except.ok.inj picked).symm

/-! ## Going on to children -/

/-- How an edit goes on to a child: as it is if it is a container, or with a container created in its place. -/
def IsWay (plan : Plan Memory) (index : Nat) (step : Step) (node : Value) (segment : Segment)
    (created : Option Value) : Prop :=
  (created = none ∧ (node.child? segment).any Value.isContainer = true) ∨
    ∃ container, created = some container ∧ (node.child? segment).all Value.isNull = true ∧
      (step.isNaming && plan.isStrict index && plan.action.isSet) = true ∧ plan.deduce index = .ok container

theorem mem_approach {segment other : Segment} {created : Option Value} {ways : List (Segment × Option Value)}
    (approached : plan.approach index step node segment = .ok ways) :
    (other, created) ∈ ways ↔ other = segment ∧ plan.IsWay index step node segment created := by
  -- A vacant child: a container is created if the step names it, and nothing is done otherwise.
  have vacant (isNull : (node.child? segment).all Value.isNull = true)
      (noContainer : (node.child? segment).any Value.isContainer = false)
      (filled : (if step.isNaming && plan.isStrict index && plan.action.isSet then
        (plan.deduce index).map fun created => [(segment, some created)] else .ok []) = .ok ways) :
      (other, created) ∈ ways ↔ other = segment ∧ plan.IsWay index step node segment created := by
    split at filled
    · rename_i named
      rcases map_eq_ok.1 filled with ⟨container, deduced, rfl⟩
      rw [List.mem_singleton, Prod.mk.injEq]
      simp [IsWay, isNull, noContainer, named, deduced, eq_comm]
    · rename_i unnamed
      rcases Except.ok.inj filled with rfl
      simp [IsWay, noContainer, unnamed]
  cases found : node.child? segment with
  | none =>
      rw [found] at vacant
      simp only [approach, found] at approached
      exact vacant rfl rfl approached
  | some child =>
      rw [found] at vacant
      simp only [approach, found] at approached
      by_cases container : child.isContainer = true
      · rw [if_pos container] at approached
        rcases Except.ok.inj approached with rfl
        have notNull : child.isNull = false := by
          cases child with
          | null => cases container
          | _ => rfl
        simp [IsWay, found, container, notNull]
      · rw [if_neg container] at approached
        by_cases isNull : child.isNull = true
        · rw [if_pos isNull] at approached
          apply vacant isNull _ approached
          simpa using container
        · rw [if_neg isNull] at approached
          split at approached
          · cases approached
          · rcases Except.ok.inj approached with rfl
            simp [IsWay, found, container, isNull]

theorem mem_approachAll {segment : Segment} {created : Option Value} {ways : List (Segment × Option Value)}
    (approached : plan.approachAll index step node segments = .ok ways) :
    (segment, created) ∈ ways ↔ segment ∈ segments ∧ plan.IsWay index step node segment created := by
  induction segments generalizing ways with
  | nil =>
      rcases Except.ok.inj approached with rfl
      simp
  | cons head segments ih =>
      rw [approachAll] at approached
      rcases bind_eq_ok.1 approached with ⟨first, isFirst, approached⟩
      rcases bind_eq_ok.1 approached with ⟨others, areOthers, approached⟩
      rcases Except.ok.inj approached with rfl
      rw [List.mem_append, mem_approach isFirst, ih areOthers, List.mem_cons]
      constructor
      · rintro (⟨rfl, isWay⟩ | ⟨member, isWay⟩)
        · exact ⟨.inl rfl, isWay⟩
        · exact ⟨.inr member, isWay⟩
      · rintro ⟨rfl | member, isWay⟩
        · exact .inl ⟨rfl, isWay⟩
        · exact .inr ⟨member, isWay⟩

theorem exists_deduced {segment : Segment} {ways : List (Segment × Option Value)}
    (approached : plan.approachAll index step node segments = .ok ways) (member : segment ∈ segments)
    (isNull : (node.child? segment).all Value.isNull = true)
    (named : (step.isNaming && plan.isStrict index && plan.action.isSet) = true) :
    ∃ container, plan.deduce index = .ok container := by
  induction segments generalizing ways with
  | nil => cases member
  | cons head segments ih =>
      rw [approachAll] at approached
      rcases bind_eq_ok.1 approached with ⟨first, isFirst, approached⟩
      rcases bind_eq_ok.1 approached with ⟨others, areOthers, -⟩
      rcases List.mem_cons.1 member with rfl | later
      · cases found : node.child? segment with
        | none =>
            simp only [approach, found, named, if_true] at isFirst
            rcases map_eq_ok.1 isFirst with ⟨container, deduced, -⟩
            exact ⟨container, deduced⟩
        | some child =>
            rw [found, Option.all_some] at isNull
            cases child with
            | null =>
                simp only [approach, found, named, if_true] at isFirst
                rcases map_eq_ok.1 isFirst with ⟨container, deduced, -⟩
                exact ⟨container, deduced⟩
            | _ => cases isNull
      · exact ih areOthers later

/-- A container is created only in front of the last step, and it is the one that fills gaps. -/
theorem deduce_eq_ok {container : Value} (level : plan.descends = false)
    (deduced : plan.deduce index = .ok container) :
    index + 2 = plan.steps.length ∧ filler? plan.steps = some container := by
  rw [deduce] at deduced
  split at deduced
  · cases deduced
  · rename_i notBefore
    cases found : plan.steps[index + 1]? with
    | none =>
        rw [found] at deduced
        cases deduced
    | some last =>
        have inside : index + 1 < plan.steps.length := (List.getElem?_eq_some_iff.1 found).1
        have isEnd : plan.steps.length - 1 = index + 1 := by omega
        have isLast : plan.steps.getLast? = some last := by rw [List.getLast?_eq_getElem?, isEnd, found]
        refine ⟨by omega, ?_⟩
        rw [descends] at level
        rw [filler?, level, isLast]
        rw [found] at deduced
        cases last with
        | child name => exact congrArg some (Except.ok.inj deduced)
        | nth i =>
            simp only at deduced
            simp only [Bool.false_eq_true, if_false]
            split at deduced
            · cases deduced
            · rename_i notNegative
              rw [if_neg notNegative]
              exact congrArg some (Except.ok.inj deduced)
        | _ => cases deduced

end Plan

/-! ## Changes of a child -/

/-- There is a node at a location that has room for a child. -/
def Value.AdmitsAt (document : Value) (location : Location) (segment : Segment) : Prop :=
  ∃ node, document.at? location = some node ∧ node.admits segment = true

theorem Overlay.admitsAt_iff {earlier later : Value} {places : Location → Prop}
    {result : Location → Option Value} {location : Location} {segment : Segment}
    (overlay : Overlay earlier later places result) (notWithin : ¬ Within places location) :
    later.AdmitsAt location segment ↔ earlier.AdmitsAt location segment := by
  have faces := overlay.kept location notWithin
  constructor
  · rintro ⟨node, found, admitted⟩
    rw [found] at faces
    rcases Value.exists_of_face_eq faces with ⟨old, isOld, sameFace⟩
    refine ⟨old, isOld, ?_⟩
    rwa [← Value.admits_face, sameFace, Value.admits_face]
  · rintro ⟨node, found, admitted⟩
    rw [found] at faces
    rcases Value.exists_of_face_eq faces.symm with ⟨new, isNew, sameFace⟩
    refine ⟨new, isNew, ?_⟩
    rwa [← Value.admits_face, sameFace, Value.admits_face]

/-- What is there and deeper than a vacant location is not below it. -/
theorem beside_of_isVacant {document : Value} {places : Location → Prop} {location : Location}
    (vacant : document.IsVacant location) (deep : ∀ place, places place → location.length < place.length)
    (there : ∀ place, places place → (document.at? place).isSome = true) : Beside places location := by
  intro place isPlace
  constructor
  · intro above
    have := deep place isPlace
    have := above.length_le
    omega
  · rintro ⟨rest, rfl⟩
    cases rest with
    | nil =>
        have := deep _ isPlace
        simp at this
    | cons segment rest =>
        have container := Value.isContainerAt_of_below (there _ isPlace)
        rw [vacant.isContainerAt_eq_false] at container
        cases container

/-- A child is not above the node that holds it. -/
theorem not_within_child (location : Location) (segment : Segment) :
    ¬ Within (· = location ++ [segment]) location := by
  rintro ⟨_, rfl, above⟩
  have := above.length_le
  simp only [List.length_append, List.length_singleton] at this
  omega

section Changes

variable {document : Value} {location : Location} {segment : Segment} {result : Location → Option Value}

theorem overlay_place (admitted : document.AdmitsAt location segment) {stored : Value}
    (isResult : result (location ++ [segment]) = some stored) :
    Overlay document (document.updateAt (Value.place stored · segment) location) (· = location ++ [segment])
      result := by
  rcases admitted with ⟨node, found, admitted⟩
  apply Overlay.of_updateAt found
  · exact Value.face_place stored node segment
  · rw [isResult, Value.child?_place_self admitted]
  · intro other different
    exact Value.child?_place_of_ne stored node different

theorem overlay_remove (admitted : document.AdmitsAt location segment)
    (isResult : result (location ++ [segment]) = Value.leftover segment) :
    Overlay document (document.updateAt (Value.remove · segment) location) (· = location ++ [segment])
      result := by
  rcases admitted with ⟨node, found, admitted⟩
  apply Overlay.of_updateAt found
  · exact Value.face_remove node segment
  · rw [isResult, Value.child?_remove_self admitted]
  · intro other different
    exact Value.child?_remove_of_ne node different

end Changes

namespace Plan

variable {Memory : Type} {plan : Plan Memory} {progress : Progress Memory} {location : Location} {segment : Segment}

/-- A child is changed, unless it is to be deleted and does not exist. -/
theorem change_cases (simple : plan.action.isModify = false)
    (admitted : progress.document.AdmitsAt location segment) :
    ((plan.action.isSet = true ∨ (progress.document.at? (location ++ [segment])).isSome = true) ∧
      Overlay progress.document (plan.change progress location segment).document (· = location ++ [segment])
        plan.action.result ∧
      (plan.change progress location segment).written =
        if plan.action.isSet && plan.descends then (location ++ [segment]) :: progress.written
        else progress.written) ∨
    (plan.action.isSet = false ∧ progress.document.at? (location ++ [segment]) = none ∧
      plan.change progress location segment = progress) := by
  cases acts : plan.action with
  | set value =>
      left
      simp only [change, acts]
      refine ⟨.inl rfl, overlay_place admitted rfl, ?_⟩
      simp [store, record, Action.isSet, Action.operation]
  | delete =>
      simp only [change, acts]
      cases found : progress.document.at? (location ++ [segment]) with
      | none => exact .inr ⟨rfl, rfl, rfl⟩
      | some old =>
          refine .inl ⟨.inr rfl, overlay_remove admitted ?_, rfl⟩
          rw [Action.result, List.getLast?_concat]
          rfl
  | modify answer =>
      rw [acts] at simple
      cases simple

/-- Filling gaps below a node, in a document and in one in which other places were overwritten. -/
theorem overlay_create {start base document filler : Value} {gaps places : Location → Prop}
    {result : Location → Option Value} {ways : List (Segment × Option Value)}
    (filled : Overlay start base gaps fun _ => some filler) (edited : Overlay base document places result)
    (level : ∀ gap, gaps gap → gap.length = location.length + 1)
    (fills : ∀ segment container, (segment, some container) ∈ ways → container = filler ∧
      base.AdmitsAt location segment ∧ document.AdmitsAt location segment ∧
      Beside places (location ++ [segment])) :
    Overlay start (create base location ways)
        (fun gap => gaps gap ∨
          ∃ segment container, (segment, some container) ∈ ways ∧ gap = location ++ [segment])
        (fun _ => some filler) ∧
      Overlay (create base location ways) (create document location ways) places result := by
  induction ways generalizing base document gaps with
  | nil => simpa [create] using ⟨filled, edited⟩
  | cons way ways ih =>
      rcases way with ⟨segment, _ | container⟩
      · simp only [create, List.mem_cons, Prod.mk.injEq, reduceCtorEq, and_false, false_or]
        apply ih filled edited level
        intro other container member
        exact fills other container (List.mem_cons_of_mem _ member)
      · rcases fills segment container List.mem_cons_self with ⟨rfl, baseAdmits, admits, beside⟩
        have first : Overlay base _ _ fun _ => some container := overlay_place baseAdmits rfl
        have second : Overlay document _ _ fun _ => some container := overlay_place admits rfl
        have outer : ∀ gap, gaps gap → gap <+: location ++ [segment] → gap = location ++ [segment] := by
          intro gap isGap above
          apply above.eq_of_length
          simp [level gap isGap]
        have others := ih (filled.cons first outer) (edited.updateAt_both beside first second)
          (by
            rintro gap (rfl | isGap)
            · simp
            · exact level gap isGap)
          (by
            intro other container' member
            rcases fills other container' (List.mem_cons_of_mem _ member) with ⟨same, baseAdmits, admits, beside⟩
            exact ⟨same, (first.admitsAt_iff (not_within_child location segment)).2 baseAdmits,
              (second.admitsAt_iff (not_within_child location segment)).2 admits, beside⟩)
        rw [create, create]
        refine ⟨others.1.congr ?_ ?_, others.2⟩
        · rintro gap ((rfl | isGap) | ⟨other, container', member, rfl⟩)
          · exact .inr ⟨segment, container, List.mem_cons_self, rfl⟩
          · exact .inl isGap
          · exact .inr ⟨other, container', List.mem_cons_of_mem _ member, rfl⟩
        · rintro gap ⟨isGap | ⟨other, container', member, rfl⟩, -⟩
          · exact .inl (.inr isGap)
          · rcases List.mem_cons.1 member with same | later
            · rcases Prod.mk.inj same with ⟨rfl, -⟩
              exact .inl (.inl rfl)
            · exact .inr ⟨other, container', later, rfl⟩

/-! ## Descents -/

theorem segment_child_mem {node child : Value} (found : node.child? segment = some child) :
    (segment, child) ∈ node.segments.zip node.children := by
  cases node with
  | array items =>
      cases segment with
      | index i =>
          rcases List.getElem?_eq_some_iff.1 found with ⟨within, isItem⟩
          apply List.mem_iff_getElem?.2
          refine ⟨i, ?_⟩
          simp [Value.segments, Value.children, within, isItem]
      | field name => cases found
  | object members =>
      cases segment with
      | field name =>
          have zipped : (Value.object members).segments.zip (Value.object members).children =
              members.map fun member => (.field member.1, member.2) := List.zip_map' ..
          rw [zipped, List.mem_map]
          exact ⟨(name, child), Members.mem_of_get? found, rfl⟩
      | index i => cases found
  | _ => cases segment <;> cases found

/-- A descent goes on from the place itself and from some of its children, all containers among them. -/
theorem mem_descendTasks {document : Value} {task next : Task} (member : next ∈ descendTasks document task) :
    next = ⟨task.location, task.index + 1⟩ ∨
      ∃ segment, next = ⟨task.location ++ [segment], task.index⟩ := by
  rw [descendTasks] at member
  rcases List.mem_cons.1 member with isNext | isBelow
  · exact .inl isNext
  · split at isBelow
    · cases isBelow
    · rcases List.mem_filterMap.1 isBelow with ⟨⟨segment, child⟩, -, chosen⟩
      simp only [Option.ite_none_right_eq_some, Option.some.injEq] at chosen
      exact .inr ⟨segment, chosen.2.symm⟩

theorem mem_descendTasks_of_isContainerAt {document : Value} {task : Task}
    (container : document.isContainerAt (task.location ++ [segment]) = true) :
    ⟨task.location ++ [segment], task.index⟩ ∈ descendTasks document task := by
  rw [Value.isContainerAt, Value.at?_concat] at container
  rw [descendTasks]
  apply List.mem_cons_of_mem
  cases found : document.at? task.location with
  | none => simp [found] at container
  | some node =>
      rw [found, Option.bind_some] at container
      cases isChild : node.child? segment with
      | none => simp [isChild] at container
      | some child =>
          rw [isChild, Option.any_some] at container
          apply List.mem_filterMap.2
          exact ⟨(segment, child), segment_child_mem isChild, by simp [container]⟩

end Plan

end TreePath

import TreePath.Edit.Turn

/-!
# Termination of edits

Every edit comes to an end, whatever is written and whatever a modification answers. A task is ranked by the
number of steps that are left and then by the depth that is left for a descent below its location. The depth
counts only containers that are still open, that is, not within a written location. Working off a task opens
no container as long as the plan has a descent (`evolves_perform`), so ranks do not grow while a task
waits, and the tasks that come of a task have lower ranks. Hence the relation `Next` from one state of an
edit to the next is accessible everywhere (`acc_next`).
-/

namespace TreePath

namespace Plan

variable {Memory : Type} {plan : Plan Memory}

/-- Whether there is a container at a location that is not within a written one. -/
def IsOpen (progress : Progress Memory) (location : Location) : Prop :=
  progress.document.isContainerAt location = true ∧ progress.wrote location = false

/-- With a descent in the plan, no container is open later that was not open before. -/
def Evolves (plan : Plan Memory) (earlier later : Progress Memory) : Prop :=
  plan.descends = true → ∀ location, IsOpen later location → IsOpen earlier location

/-- With a descent in the plan, all open containers within a location are less than a depth below it. -/
def Bounded (plan : Plan Memory) (progress : Progress Memory) (location : Location) (depth : Nat) : Prop :=
  plan.descends = true → ∀ below, location <+: below → IsOpen progress below →
    below.length < location.length + depth

theorem Evolves.refl (progress : Progress Memory) : plan.Evolves progress progress :=
  fun _ _ isOpen => isOpen

theorem Evolves.trans {first second third : Progress Memory} (left : plan.Evolves first second)
    (right : plan.Evolves second third) : plan.Evolves first third :=
  fun descends location isOpen => left descends location (right descends location isOpen)

theorem Bounded.mono {earlier later : Progress Memory} {location : Location} {depth : Nat}
    (bounded : plan.Bounded earlier location depth) (evolves : plan.Evolves earlier later) :
    plan.Bounded later location depth :=
  fun descends below within isOpen => bounded descends below within (evolves descends below isOpen)

/-- Every location has a bound: the number of values in the document. -/
theorem bounded_count (progress : Progress Memory) (location : Location) :
    plan.Bounded progress location progress.document.count := by
  intro _ below _ isOpen
  cases found : progress.document.at? below with
  | none => simp [IsOpen, Value.isContainerAt, found] at isOpen
  | some value =>
    have := Value.length_lt_count found
    omega

/-! ## What working off a task leaves open -/

theorem evolves_store (progress : Progress Memory) (location : Location) (segment : Segment) (value : Value) :
    plan.Evolves progress (plan.store progress location segment value) := by
  intro descends below isOpen
  simp only [store, record, descends, if_true] at isOpen
  rcases isOpen with ⟨container, unwritten⟩
  simp only [Progress.wrote, List.any_cons, Bool.or_eq_false_iff] at unwritten
  refine ⟨?_, unwritten.2⟩
  refine Value.isContainerAt_of_updateAt (fun rest => [segment] <+: rest) ?_ location _ below ?_ container
  · intro value rest allowed holds
    cases rest with
    | nil => simpa using holds
    | cons other rest =>
      rw [Value.isContainerAt_cons] at holds ⊢
      rwa [Value.child?_place_of_ne] at holds
      intro same
      exact allowed ⟨rest, by simp [same]⟩
  · rintro rest rfl ⟨more, rfl⟩
    have isWithin : (location ++ [segment]).isPrefixOf (location ++ ([segment] ++ more)) = true := by
      rw [List.isPrefixOf_iff_prefix]
      exact ⟨more, by simp⟩
    rw [isWithin] at unwritten
    exact absurd unwritten.1 (by simp)

theorem evolves_remove (progress : Progress Memory) (location : Location) (segment : Segment) (count : Nat) :
    plan.Evolves progress { progress with
      document := progress.document.updateAt (Value.remove · segment) location, count := count } := by
  intro _ below isOpen
  refine ⟨?_, isOpen.2⟩
  refine Value.isContainerAt_of_updateAt (fun _ => False) ?_ location _ below ?_ isOpen.1
  · intro value rest _ holds
    cases rest with
    | nil => simpa using holds
    | cons other rest =>
      by_cases same : other = segment
      · subst same
        rw [Value.isContainerAt_remove_self] at holds
        exact absurd holds (by simp)
      · rw [Value.isContainerAt_cons] at holds ⊢
        rwa [Value.child?_remove_of_ne _ same] at holds
  · intro _ _ excepted
    exact excepted

theorem evolves_memory (progress : Progress Memory) (memory : Memory) :
    plan.Evolves progress { progress with memory := memory } :=
  fun _ _ isOpen => isOpen

theorem evolves_change (progress : Progress Memory) (location : Location) (segment : Segment) :
    plan.Evolves progress (plan.change progress location segment) := by
  generalize changed : plan.change progress location segment = later
  cases change_of_eq changed with
  | store memory value => exact (evolves_memory progress memory).trans (evolves_store _ _ _ _)
  | remove => exact evolves_remove _ _ _ _
  | memory memory => exact evolves_memory progress memory

theorem evolves_changeAll (segments : List Segment) (progress : Progress Memory) (location : Location) :
    plan.Evolves progress (plan.changeAll progress location segments) :=
  changeAll_induction (.refl _) fun segment _ middle before => before.trans (evolves_change middle location segment)

/-- A container is created only by a plan without a descent. -/
theorem descends_eq_false_of_deduce {index : Nat} {created : Value} (strict : plan.isStrict index = true)
    (deduced : plan.deduce index = .ok created) : plan.descends = false := by
  cases descends : plan.descends with
  | false => rfl
  | true =>
    exfalso
    have before : index < plan.steps.findIdx Fragment.isDescent := by simpa [isStrict] using strict
    rcases List.any_eq_true.1 descends with ⟨step, member, isDescent⟩
    have within : plan.steps.findIdx Fragment.isDescent < plan.steps.length :=
      List.findIdx_lt_length_of_exists ⟨step, member, isDescent⟩
    have found := List.findIdx_getElem (w := within)
    unfold deduce at deduced
    split at deduced
    · simp at deduced
    · rename_i isLast
      have here : plan.steps.findIdx Fragment.isDescent = index + 1 := by omega
      have next : plan.steps[index + 1]? = some plan.steps[index + 1] :=
        List.getElem?_eq_getElem (by omega)
      simp only [here] at found
      rw [next] at deduced
      cases stepHere : plan.steps[index + 1] <;> simp [stepHere, Fragment.isDescent] at found deduced

theorem approach_created {index : Nat} {step : Step} {node : Value} {segment other : Segment} {created : Value}
    {ways : List (Segment × Option Value)} (approached : plan.approach index step node segment = .ok ways)
    (creates : (other, some created) ∈ ways) : plan.descends = false := by
  have created_of {bound : Bool} (h : bound = true → plan.isStrict index = true)
      (approached : (if bound = true then (plan.deduce index).map fun created => [(segment, some created)]
        else .ok []) = .ok ways) : plan.descends = false := by
    split at approached
    · rename_i isBound
      cases deduced : plan.deduce index with
      | error obstacle => simp [deduced, Except.map] at approached
      | ok value => exact descends_eq_false_of_deduce (h isBound) deduced
    · rcases Except.ok.inj approached with rfl
      simp at creates
  have strict_of : (step.isNaming && plan.isStrict index && plan.action.isSet) = true →
      plan.isStrict index = true := by
    intro h
    simp only [Bool.and_eq_true] at h
    exact h.1.2
  simp only [approach] at approached
  split at approached
  · split at approached
    · rcases Except.ok.inj approached with rfl
      simp at creates
    · split at approached
      · exact created_of strict_of approached
      · split at approached
        · simp at approached
        · rcases Except.ok.inj approached with rfl
          simp at creates
  · exact created_of strict_of approached

theorem approachAll_created {index : Nat} {step : Step} {node : Value} {segments : List Segment}
    {other : Segment} {created : Value} {ways : List (Segment × Option Value)}
    (approached : plan.approachAll index step node segments = .ok ways)
    (creates : (other, some created) ∈ ways) : plan.descends = false := by
  induction segments generalizing ways with
  | nil =>
    rcases Except.ok.inj approached with rfl
    simp at creates
  | cons segment segments ih =>
    rw [approachAll] at approached
    cases first : plan.approach index step node segment with
    | error obstacle => simp [first, bind, Except.bind] at approached
    | ok ways₁ =>
      cases others : plan.approachAll index step node segments with
      | error obstacle => simp [first, others, bind, Except.bind] at approached
      | ok ways₂ =>
        simp only [first, others, bind, Except.bind, Except.ok.injEq] at approached
        subst approached
        rcases List.mem_append.1 creates with here | later
        · exact approach_created first here
        · exact ih others later

theorem create_eq_self {document : Value} {location : Location} {ways : List (Segment × Option Value)}
    (none_created : ∀ segment created, (segment, some created) ∉ ways) :
    create document location ways = document := by
  induction ways with
  | nil => rfl
  | cons way ways ih =>
    rcases way with ⟨segment, _ | created⟩
    · exact ih fun segment created member => none_created segment created (List.mem_cons_of_mem _ member)
    · exact absurd List.mem_cons_self (none_created segment created)

/-- Working off a task opens no container, if the plan has a descent. -/
theorem evolves_perform {progress later : Progress Memory} {task : Task} {tasks : List Task}
    (performed : plan.perform progress task = .ok (later, tasks)) : plan.Evolves progress later := by
  cases turn_of_perform performed with
  | beyond here => exact .refl _
  | root here => exact .refl _
  | current here => exact .refl _
  | descent here => exact .refl _
  | absent here nothing => exact .refl _
  | finish here plain walks isLast found picked => exact evolves_changeAll _ _ _
  | follow here plain walks inner found picked approached =>
    intro descends location isOpen
    rw [create_eq_self] at isOpen
    · exact isOpen
    · intro segment created member
      rw [approachAll_created approached member] at descends
      exact absurd descends (by simp)

/-! ## The tasks that come of a task -/

theorem segments_zip_children (value : Value) {segment : Segment} {child : Value}
    (member : (segment, child) ∈ value.segments.zip value.children) : value.isContainer = true := by
  cases value <;> simp_all [Value.segments, Value.children, Value.isContainer]

/-- The tasks of a descent below its location are for an open end of lower depth. -/
theorem exists_lower_of_descendTasks {progress : Progress Memory} {task next : Task} {depth : Nat}
    (here : plan.steps[task.index]? = some .descent) (unwritten : progress.wrote task.location = false)
    (bounded : plan.Bounded progress task.location depth) (member : next ∈ descendTasks progress.document task) :
    next.index = task.index + 1 ∨
      (next.index = task.index ∧ ∃ lower, lower < depth ∧ plan.Bounded progress next.location lower) := by
  have descends : plan.descends = true := List.any_eq_true.2 ⟨.descent, List.mem_of_getElem? here, rfl⟩
  rw [descendTasks] at member
  rcases List.mem_cons.1 member with rfl | isBelow
  · exact .inl rfl
  · right
    cases found : progress.document.at? task.location with
    | none => simp [found] at isBelow
    | some node =>
      simp only [found, List.mem_filterMap] at isBelow
      rcases isBelow with ⟨⟨segment, child⟩, paired, chosen⟩
      simp only at chosen
      split at chosen
      · rcases Option.some.inj chosen with rfl
        have isOpen : IsOpen progress task.location :=
          ⟨by simp [Value.isContainerAt, found, segments_zip_children node paired], unwritten⟩
        have positive := bounded descends task.location (List.prefix_refl _) isOpen
        refine ⟨rfl, depth - 1, by omega, ?_⟩
        intro _ below isWithin isOpen
        have := bounded descends below ((List.prefix_append _ _).trans isWithin) isOpen
        simp only [List.length_append, List.length_cons, List.length_nil]
        omega
      · simp at chosen

/--
The tasks that come of a task that is not within a written location: for the next step, or, of a descent, for
the same step at an open end of lower depth.
-/
theorem next_or_lower_of_perform {progress later : Progress Memory} {task next : Task} {tasks : List Task}
    {depth : Nat} (unwritten : progress.wrote task.location = false)
    (bounded : plan.Bounded progress task.location depth)
    (performed : plan.perform progress task = .ok (later, tasks)) (member : next ∈ tasks) :
    (task.index < plan.steps.length ∧ next.index = task.index + 1) ∨
      (next.index = task.index ∧ ∃ lower, lower < depth ∧ plan.Bounded later next.location lower) := by
  have within {step : Step} (here : plan.steps[task.index]? = some step) : task.index < plan.steps.length :=
    (List.getElem?_eq_some_iff.1 here).1
  cases turn_of_perform performed with
  | beyond here => cases member
  | root here =>
    rcases List.mem_singleton.1 member with rfl
    exact .inl ⟨within here, rfl⟩
  | current here =>
    rcases List.mem_singleton.1 member with rfl
    exact .inl ⟨within here, rfl⟩
  | descent here =>
    exact (exists_lower_of_descendTasks here unwritten bounded member).imp_left fun isNext => ⟨within here, isNext⟩
  | absent here nothing => cases member
  | finish here plain walks isLast found picked => cases member
  | follow here plain walks inner found picked approached =>
    rcases List.mem_map.1 member with ⟨way, _, rfl⟩
    exact .inl ⟨within here, rfl⟩

/-! ## Accessibility -/

/-- What an edit has done and what it has still to do. -/
structure State (Memory : Type) where
  progress : Progress Memory
  tasks : List Task

/-- The state after one task: a task within a written location is dropped, any other is worked off. -/
def next? (plan : Plan Memory) (state : State Memory) : Option (State Memory) :=
  match state.tasks with
  | [] => none
  | task :: tasks =>
    if state.progress.wrote task.location then some ⟨state.progress, tasks⟩
    else match plan.perform state.progress task with
      | .ok (progress, more) => some ⟨progress, more ++ tasks⟩
      | .error _ => none

/-- The relation from a state to the state before it. -/
def Next (plan : Plan Memory) (later earlier : State Memory) : Prop :=
  plan.next? earlier = some later

/-- A list of tasks comes to an end from whatever a progress evolves to. -/
def Ends (plan : Plan Memory) (progress : Progress Memory) (tasks : List Task) : Prop :=
  ∀ later, plan.Evolves progress later → Acc plan.Next ⟨later, tasks⟩

theorem Ends.mono {earlier later : Progress Memory} {tasks : List Task} (ends : plan.Ends earlier tasks)
    (evolves : plan.Evolves earlier later) : plan.Ends later tasks :=
  fun last more => ends last (evolves.trans more)

theorem ends_nil (progress : Progress Memory) : plan.Ends progress [] :=
  fun _ _ => ⟨_, fun _ isNext => by simp [Next, next?] at isNext⟩

/-- A task in front of tasks that come to an end comes to an end, by induction on its rank. -/
theorem ends_cons (left depth : Nat) : ∀ (progress : Progress Memory) (task : Task) (tasks : List Task),
    plan.steps.length - task.index = left → plan.Bounded progress task.location depth →
    plan.Ends progress tasks → plan.Ends progress (task :: tasks) := by
  induction left using Nat.strongRecOn generalizing depth with
  | ind left ihLeft =>
    induction depth using Nat.strongRecOn with
    | ind depth ihDepth =>
      intro progress task tasks isLeft bounded ends later evolves
      have bounded := bounded.mono evolves
      refine ⟨_, fun state isNext => ?_⟩
      simp only [Next, next?] at isNext
      split at isNext
      · rcases Option.some.inj isNext with rfl
        exact ends later evolves
      · rename_i unwritten
        have unwritten : later.wrote task.location = false := by simpa using unwritten
        cases performed : plan.perform later task with
        | error obstacle => simp [performed] at isNext
        | ok result =>
          rcases result with ⟨after, more⟩
          simp only [performed, Option.some.injEq] at isNext
          subst isNext
          have ends : plan.Ends after tasks := ends.mono (evolves.trans (evolves_perform performed))
          have lower : ∀ next ∈ more, ∀ rest, plan.Ends after rest → plan.Ends after (next :: rest) := by
            intro next member rest endsRest
            rcases next_or_lower_of_perform unwritten bounded performed member with
              ⟨inside, isNext⟩ | ⟨isSame, lower, isLower, boundedNext⟩
            · exact ihLeft (plan.steps.length - next.index) (by omega) _ after next rest rfl
                (bounded_count after next.location) endsRest
            · exact ihDepth lower isLower after next rest (by omega) boundedNext endsRest
          have all : ∀ more', (∀ next ∈ more', next ∈ more) → plan.Ends after (more' ++ tasks) := by
            intro more' subset
            induction more' with
            | nil => exact ends
            | cons next more' ih =>
              exact lower next (subset next List.mem_cons_self) _
                (ih fun other member => subset other (List.mem_cons_of_mem _ member))
          exact all more (fun _ member => member) after (.refl after)

theorem ends_of_tasks (progress : Progress Memory) (tasks : List Task) : plan.Ends progress tasks := by
  induction tasks with
  | nil => exact ends_nil progress
  | cons task tasks ih =>
    exact ends_cons _ _ progress task tasks rfl (bounded_count progress task.location) ih

theorem acc_next (plan : Plan Memory) (state : State Memory) : Acc plan.Next state :=
  ends_of_tasks state.progress state.tasks state.progress (.refl _)

theorem wellFounded_next (plan : Plan Memory) : WellFounded plan.Next :=
  ⟨acc_next plan⟩

end Plan

end TreePath

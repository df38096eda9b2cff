import TreePath.Proofs.Edit.First
import TreePath.Proofs.Script.Local
import TreePath.Regex.Standard

/-!
# Edits reach what the query finds

A filter is evaluated when its task has its turn, in the document as it is then. If there is no `$` in the filters of
a path and no descent, this makes no difference: an edit that succeeds has been made at all locations at which the query
found something before. Until it is made at such a location, there is a task that leads to it, and no task before that
one has to do with the same part of the document: `Reaches`.
-/

namespace TreePath

theorem Step.IsLocal.choices_eq {step : Step} (isLocal : step.IsLocal) (root other node : Value) :
    step.choices root node = step.choices other node := by
  cases step with
  | filter test =>
      simp only [choices]
      congr 1
      funext pair
      rw [isLocal pair.2 root other]
  | _ => rfl

namespace Plan

variable {Memory : Type}

/-- A plan to set or delete what steps without a descent pick, the filters among which are about their candidates. -/
structure Confined (plan : Plan Memory) (lead : Nat) : Prop where
  simple : plan.action.isModify = false
  unlimited : plan.limit = none
  level : plan.descends = false
  assignable : ∀ last ∈ plan.steps.getLast?, last.isAssignable = true
  plain : ∀ step ∈ plan.steps.drop lead, step.isAnchor = false ∧ step.IsLocal

/-- The value has been set or deleted at a location. -/
def Made (plan : Plan Memory) (document : Value) (target : Location) : Prop :=
  document.at? target = plan.action.result target

/-- A location at which something is found from the location of a task on. -/
def LeadsTo (plan : Plan Memory) (root document : Value) (task : Task) (target : Location) : Prop :=
  ∃ node, document.at? task.location = some node ∧ node.WellFormed ∧
    ∃ site ∈ findSites root (plan.steps.drop task.index) ⟨task.location, node⟩, site.location = target

/-- What holds for a location at which something was found, between the tasks of an edit. -/
structure Reaches (plan : Plan Memory) (lead : Nat) (root : Value) (progress : Progress Memory) (tasks : List Task)
    (target : Location) : Prop where
  unwritten : progress.written = []
  level : ∀ task ∈ tasks, task.location.length + lead = task.index
  deep : target.length + lead = plan.steps.length
  reached : plan.Made progress.document target ∨ ∃ front task back, tasks = front ++ task :: back ∧
    (∀ other ∈ front, Beside (· = other.location) task.location) ∧ plan.LeadsTo root progress.document task target

variable {plan : Plan Memory} {lead : Nat} {root : Value} {progress later : Progress Memory} {task : Task}
  {tasks more : List Task} {location target : Location} {segment : Segment}

/-! ## What is changed -/

theorem beside_of_length {place : Location} (same : place.length = target.length) (different : target ≠ place) :
    Beside (· = place) target := by
  rintro _ rfl
  exact ⟨fun above => different (above.eq_of_length same).symm, fun below => different (below.eq_of_length same.symm)⟩

theorem beside_below {place below : Location} (beside : Beside (· = place) target) (above : place <+: below) :
    Beside (· = below) target := by
  rintro _ rfl
  constructor
  · exact fun isAbove => (beside place rfl).1 (above.trans isAbove)
  · intro isBelow
    rcases List.prefix_or_prefix_of_prefix isBelow above with isBelow | isAbove
    · exact (beside place rfl).2 isBelow
    · exact (beside place rfl).1 isAbove

/-- A change of a child leaves it set or deleted, and all that is beside it as it was. -/
theorem change_made (simple : plan.action.isModify = false) (level : plan.descends = false)
    (admitted : progress.document.AdmitsAt location segment) :
    (plan.change progress location segment).written = progress.written ∧
      plan.Made (plan.change progress location segment).document (location ++ [segment]) ∧
      ∀ place, Beside (· = location ++ [segment]) place →
        (plan.change progress location segment).document.at? place = progress.document.at? place := by
  rcases change_cases simple admitted with ⟨-, overlay, written⟩ | ⟨keeps, absent, unchanged⟩
  · refine ⟨?_, overlay.stored _ ⟨rfl, fun _ isPlace _ => isPlace⟩, overlay.same⟩
    rw [written, level, Bool.and_false]
    rfl
  · rw [unchanged]
    refine ⟨rfl, ?_, fun _ _ => rfl⟩
    rcases admitted with ⟨node, found, admits⟩
    rw [Made, absent]
    rw [Value.at?_concat, found, Option.bind_some] at absent
    cases acts : plan.action with
    | delete =>
        rw [Action.result, List.getLast?_concat, Option.bind_some]
        cases segment with
        | field name => rfl
        | index i =>
            -- A slot of an array that admits a child has one.
            cases node with
            | array items =>
                rw [Value.child?, List.getElem?_eq_none_iff] at absent
                have within : i < items.length := of_decide_eq_true admits
                omega
            | _ => cases admits
    | set value =>
        rw [acts] at keeps
        cases keeps
    | modify answer =>
        rw [acts] at simple
        cases simple

theorem changeAll_made (simple : plan.action.isModify = false) (unlimited : plan.limit = none)
    (level : plan.descends = false) {segments : List Segment}
    (admitted : ∀ segment ∈ segments, progress.document.AdmitsAt location segment) :
    (plan.changeAll progress location segments).written = progress.written ∧
      (∀ target, target.length = location.length + 1 →
        (plan.Made progress.document target ∨ ∃ segment ∈ segments, target = location ++ [segment]) →
        plan.Made (plan.changeAll progress location segments).document target) ∧
      ∀ place, Beside (· = location) place →
        (plan.changeAll progress location segments).document.at? place = progress.document.at? place := by
  induction segments generalizing progress with
  | nil => exact ⟨rfl, fun target _ made => made.resolve_right (by simp), fun _ _ => rfl⟩
  | cons segment segments ih =>
      have unfinished : plan.isDone progress.count = false := by rw [isDone, unlimited]
      rw [changeAll, unfinished]
      rcases change_made simple level (admitted segment List.mem_cons_self) with ⟨written, made, same⟩
      have stillAdmitted : ∀ other ∈ segments,
          (plan.change progress location segment).document.AdmitsAt location other := by
        intro other isOther
        rcases change_cases simple (admitted segment List.mem_cons_self) with ⟨-, overlay, -⟩ | ⟨-, -, unchanged⟩
        · exact (overlay.admitsAt_iff (not_within_child location segment)).2
            (admitted other (List.mem_cons_of_mem _ isOther))
        · rw [unchanged]
          exact admitted other (List.mem_cons_of_mem _ isOther)
      rcases ih stillAdmitted with ⟨writtenAll, madeAll, sameAll⟩
      refine ⟨writtenAll.trans written, ?_, ?_⟩
      · intro target long isTarget
        apply madeAll target long
        by_cases here : target = location ++ [segment]
        · rw [here]
          exact .inl made
        · rcases isTarget with before | ⟨other, isOther, isTarget⟩
          · left
            rw [Made, same target (beside_of_length (by simp [long]) here)]
            exact before
          · right
            rcases List.mem_cons.1 isOther with rfl | later
            · exact absurd isTarget here
            · exact ⟨other, later, isTarget⟩
      · intro place beside
        exact (sameAll place beside).trans (same place (beside_below beside (List.prefix_append _ _)))

theorem at?_create {document : Value} {ways : List (Segment × Option Value)} {place : Location}
    (admitted : ∀ segment container, (segment, some container) ∈ ways → document.AdmitsAt location segment)
    (beside : ∀ segment container, (segment, some container) ∈ ways → Beside (· = location ++ [segment]) place) :
    (create document location ways).at? place = document.at? place := by
  induction ways generalizing document with
  | nil => rfl
  | cons way ways ih =>
      rcases way with ⟨segment, _ | container⟩
      · apply ih
        · exact fun other container member => admitted other container (List.mem_cons_of_mem _ member)
        · exact fun other container member => beside other container (List.mem_cons_of_mem _ member)
      · have overlay : Overlay document (document.updateAt (Value.place container · segment) location) _
            fun _ => some container := overlay_place (admitted segment container List.mem_cons_self) rfl
        rw [create, ih]
        · exact overlay.same place (beside segment container List.mem_cons_self)
        · intro other created member
          apply (overlay.admitsAt_iff (not_within_child location segment)).2
          exact admitted other created (List.mem_cons_of_mem _ member)
        · exact fun other created member => beside other created (List.mem_cons_of_mem _ member)

/-! ## One task -/

/--
A location stays reached when a task is replaced by others below, if only what is below the task was changed and if
the location is reached by them in case it was by the task.
-/
theorem Reaches.advance (reaches : plan.Reaches lead root progress (task :: tasks) target)
    (written : later.written = progress.written) (levelMore : ∀ next ∈ more, next.location.length + lead = next.index)
    (below : ∀ next ∈ more, task.location <+: next.location)
    (made : plan.Made progress.document target → plan.Made later.document target)
    (same : ∀ place, Beside (· = task.location) place → later.document.at? place = progress.document.at? place)
    (here : plan.LeadsTo root progress.document task target → plan.Made later.document target ∨
      ∃ front next back, more = front ++ next :: back ∧
        (∀ other ∈ front, Beside (· = other.location) next.location) ∧ plan.LeadsTo root later.document next target) :
    plan.Reaches lead root later (more ++ tasks) target := by
  refine ⟨written.trans reaches.unwritten, ?_, reaches.deep, ?_⟩
  · intro next isNext
    rcases List.mem_append.1 isNext with isNew | isOld
    · exact levelMore next isNew
    · exact reaches.level next (List.mem_cons_of_mem _ isOld)
  · rcases reaches.reached with isMade | ⟨front, leading, back, isSplit, aside, leads⟩
    · exact .inl (made isMade)
    · cases front with
      | nil =>
          rcases List.cons.inj isSplit with ⟨rfl, rfl⟩
          rcases here leads with isMade | ⟨front, next, rest, rfl, aside, leads⟩
          · exact .inl isMade
          · exact .inr ⟨front, next, rest ++ tasks, by simp, aside, leads⟩
      | cons first front =>
          rcases List.cons.inj isSplit with ⟨rfl, rfl⟩
          right
          refine ⟨more ++ front, leading, back, by simp, ?_, ?_⟩
          · intro other isOther
            rcases List.mem_append.1 isOther with isNew | isOld
            · exact beside_below (aside task List.mem_cons_self) (below other isNew)
            · exact aside other (List.mem_cons_of_mem _ isOld)
          · rcases leads with ⟨node, found, wellFormed, isSite⟩
            refine ⟨node, ?_, wellFormed, isSite⟩
            rw [same leading.location (aside task List.mem_cons_self), found]

theorem Confined.plain_at (confined : plan.Confined lead) {index : Nat} {step : Step} (inside : lead ≤ index)
    (here : plan.steps[index]? = some step) : step.isAnchor = false ∧ step.isDescent = false ∧ step.IsLocal := by
  have member : step ∈ plan.steps.drop index := by
    rw [drop_eq_cons here]
    exact List.mem_cons_self
  have plain := confined.plain step (List.drop_subset_drop_left plan.steps inside member)
  exact ⟨plain.1, isDescent_eq_false confined.level step member, plain.2⟩

theorem LeadsTo.last (confined : plan.Confined lead) (inside : lead ≤ task.index) {document node : Value} {step : Step}
    (leads : plan.LeadsTo root document task target) (here : plan.steps[task.index]? = some step)
    (isLast : task.index + 1 = plan.steps.length) (found : document.at? task.location = some node) :
    ∃ segment ∈ step.choices root node, target = task.location ++ [segment] := by
  rcases confined.plain_at inside here with ⟨plain, walks, -⟩
  rcases leads with ⟨other, isOther, wellFormed, site, isSite, rfl⟩
  rcases Option.some.inj (found.symm.trans isOther)
  rw [Resolves.drop_eq_singleton here isLast, findSites_last _ _ (ne_descent walks),
    Step.sites_eq_choices wellFormed plain walks] at isSite
  rcases List.mem_filterMap.1 isSite with ⟨segment, isIn, isChild⟩
  exact ⟨segment, isIn, (Site.child?_eq_some.1 isChild).1⟩

theorem LeadsTo.child (confined : plan.Confined lead) (inside : lead ≤ task.index) {document node : Value} {step : Step}
    (leads : plan.LeadsTo root document task target) (here : plan.steps[task.index]? = some step)
    (inner : task.index + 1 < plan.steps.length) (found : document.at? task.location = some node) :
    ∃ segment ∈ step.choices root node, ∃ child, node.child? segment = some child ∧ child.isContainer = true ∧
      child.WellFormed ∧ ∃ site ∈ findSites root (plan.steps.drop (task.index + 1)) ⟨task.location ++ [segment], child⟩,
        site.location = target := by
  rcases confined.plain_at inside here with ⟨plain, walks, -⟩
  rcases leads with ⟨other, isOther, wellFormed, site, isSite, isTarget⟩
  rcases Option.some.inj (found.symm.trans isOther)
  have pending : ¬ plan.steps.length ≤ task.index + 1 := Nat.not_le.2 inner
  rw [drop_eq_cons here, findSites_cons _ _ (ne_descent walks) (by rwa [Ne, List.drop_eq_nil_iff]),
    Step.sites_eq_choices wellFormed plain walks] at isSite
  rcases List.mem_flatMap.1 isSite with ⟨⟨place, child⟩, isBetween, isSite⟩
  rcases List.mem_filterMap.1 isBetween with ⟨segment, isIn, isChild⟩
  rcases Site.child?_eq_some.1 isChild with ⟨rfl, isChild⟩
  refine ⟨segment, isIn, child, isChild, ?_, ?_, site, isSite, isTarget⟩
  · apply Bool.of_not_eq_false
    intro closed
    rw [findSites_eq_nil _ _ closed] at isSite
    · cases isSite
    · intro next isNext
      exact (confined.plain next (List.drop_subset_drop_left plan.steps (by omega) isNext)).1
    · intro last isLast
      rw [List.getLast?_drop, if_neg pending] at isLast
      exact confined.assignable last isLast
  · have isBelow : node.at? [segment] = some child := by
      rw [Value.at?_cons, isChild]
      rfl
    exact wellFormed.at? isBelow

theorem Reaches.finish (confined : plan.Confined lead)
    (reaches : plan.Reaches lead root progress (task :: tasks) target) {step : Step} {node : Value}
    (here : plan.steps[task.index]? = some step) (isLast : task.index + 1 = plan.steps.length)
    (found : progress.document.at? task.location = some node) {segments : List Segment}
    (picked : plan.pick task.index progress.document node step = .ok segments) :
    plan.Reaches lead root (plan.changeAll progress task.location segments) ([] ++ tasks) target := by
  have deep := reaches.deep
  have level := reaches.level task List.mem_cons_self
  have inside : lead ≤ task.index := by omega
  have assignable : step.isAssignable = true := by
    apply confined.assignable step
    rw [List.getLast?_eq_getElem?, ← isLast, Nat.add_sub_cancel, here]
    exact rfl
  have areChoices := pick_eq_choices picked
  rw [(confined.plain_at inside here).2.2.choices_eq _ root] at areChoices
  have admitted : ∀ segment ∈ segments, progress.document.AdmitsAt task.location segment := by
    intro segment isIn
    refine ⟨node, found, Step.admits_of_mem_segments assignable ?_⟩
    rw [areChoices] at isIn
    cases step <;> first | exact isIn | cases assignable
  rcases changeAll_made confined.simple confined.unlimited confined.level admitted with ⟨written, made, same⟩
  refine reaches.advance written (List.forall_mem_nil _) (List.forall_mem_nil _) ?_ same ?_
  · intro isMade
    exact made target (by omega) (.inl isMade)
  · intro leads
    left
    apply made target (by omega)
    right
    rw [areChoices]
    exact leads.last confined inside here isLast found

/-- Where a container is created, nothing has been set, and nothing is found. -/
theorem Reaches.beside_created (reaches : plan.Reaches lead root progress (task :: tasks) target) {step : Step}
    {node : Value} (found : progress.document.at? task.location = some node) {container : Value}
    (isWay : plan.IsWay task.index step node segment (some container)) (isMade : plan.Made progress.document target) :
    Beside (· = task.location ++ [segment]) target := by
  have deep := reaches.deep
  have level := reaches.level task List.mem_cons_self
  rcases Resolves.way_created isWay with ⟨filled, isEnd, -, isNull⟩
  have isSet : plan.action.isSet = true := isSet_of_filler (by rw [filled]; rfl)
  have vacant : progress.document.IsVacant (task.location ++ [segment]) := by
    rw [Value.IsVacant, Value.at?_concat, found]
    exact isNull
  have aside : Beside (· = target) (task.location ++ [segment]) := by
    apply beside_of_isVacant vacant
    · rintro _ rfl
      simp only [List.length_append, List.length_singleton]
      omega
    · rintro _ rfl
      rw [isMade]
      exact Action.isSome_result isSet _
  rintro _ rfl
  exact (aside target rfl).symm

theorem exists_first_task {ways : List (Segment × Option Value)} {created : Option Value} (location : Location)
    (index : Nat) (isWay : (segment, created) ∈ ways) :
    ∃ front back, (ways.map fun way => (⟨location ++ [way.1], index⟩ : Task)) =
        front ++ ⟨location ++ [segment], index⟩ :: back ∧
      ∀ other ∈ front, Beside (· = other.location) (location ++ [segment]) := by
  have isTask : (⟨location ++ [segment], index⟩ : Task) ∈ ways.map fun way => ⟨location ++ [way.1], index⟩ :=
    List.mem_map.2 ⟨_, isWay, rfl⟩
  rcases List.eq_append_cons_of_mem isTask with ⟨front, back, isSplit, isFirst⟩
  refine ⟨front, back, isSplit, ?_⟩
  intro other isOther
  have isNew : other ∈ ways.map fun way => (⟨location ++ [way.1], index⟩ : Task) := by
    rw [isSplit]
    exact List.mem_append_left _ isOther
  rcases List.mem_map.1 isNew with ⟨way, -, rfl⟩
  apply beside_of_length (by simp)
  intro sameLocation
  rcases List.singleton_inj.1 (List.append_cancel_left sameLocation)
  exact isFirst isOther

theorem Reaches.follow (confined : plan.Confined lead)
    (reaches : plan.Reaches lead root progress (task :: tasks) target) {step : Step} {node : Value}
    (here : plan.steps[task.index]? = some step) (inner : task.index + 1 < plan.steps.length)
    (found : progress.document.at? task.location = some node) {segments : List Segment}
    (picked : plan.pick task.index progress.document node step = .ok segments)
    {ways : List (Segment × Option Value)} (approached : plan.approachAll task.index step node segments = .ok ways) :
    plan.Reaches lead root { progress with document := create progress.document task.location ways }
      ((ways.map fun way => ⟨task.location ++ [way.1], task.index + 1⟩) ++ tasks) target := by
  have level := reaches.level task List.mem_cons_self
  have inside : lead ≤ task.index := by omega
  rw [pick_eq_choices picked, (confined.plain_at inside here).2.2.choices_eq _ root] at approached
  have same (place : Location)
      (beside : ∀ segment container, (segment, some container) ∈ ways →
        Beside (· = task.location ++ [segment]) place) :
      (create progress.document task.location ways).at? place = progress.document.at? place := by
    apply at?_create _ beside
    intro segment container isWay
    rcases (mem_approachAll approached).1 isWay with ⟨isIn, isWay⟩
    have naming := (Resolves.way_created isWay).2.2.1
    refine ⟨node, found, Step.admits_of_mem_segments (Fragment.isAssignable_of_isNaming naming) ?_⟩
    cases step <;> first | exact isIn | cases naming
  refine Reaches.advance reaches rfl ?_ ?_ ?_ ?_ ?_
  · intro next isNext
    rcases List.mem_map.1 isNext with ⟨way, -, rfl⟩
    simp only [List.length_append, List.length_singleton]
    omega
  · intro next isNext
    rcases List.mem_map.1 isNext with ⟨way, -, rfl⟩
    exact List.prefix_append _ _
  · intro isMade
    rw [Made, same target]
    · exact isMade
    · intro segment container isWay
      exact reaches.beside_created found ((mem_approachAll approached).1 isWay).2 isMade
  · intro place beside
    apply same place
    intro segment container _
    exact beside_below beside (List.prefix_append _ _)
  · intro leads
    right
    rcases leads.child confined inside here inner found with
      ⟨segment, isIn, child, isChild, container, wellFormed, isSite⟩
    have isWay : (segment, none) ∈ ways := by
      rw [mem_approachAll approached]
      exact ⟨isIn, .inl ⟨rfl, by rw [isChild]; exact container⟩⟩
    rcases exists_first_task task.location (task.index + 1) isWay with ⟨front, back, isSplit, isFirst⟩
    refine ⟨front, _, back, isSplit, isFirst, child, ?_, wellFormed, isSite⟩
    · rw [same, Value.at?_concat, found, Option.bind_some, isChild]
      intro other filler isCreated
      apply beside_of_length (by simp)
      intro sameLocation
      rcases List.singleton_inj.1 (List.append_cancel_left sameLocation)
      have isNull := (Resolves.way_created ((mem_approachAll approached).1 isCreated).2).2.2.2
      rw [isChild, Option.all_some] at isNull
      cases child with
      | null => cases container
      | _ => cases isNull

theorem Reaches.perform (confined : plan.Confined lead)
    (reaches : plan.Reaches lead root progress (task :: tasks) target)
    (performed : plan.perform progress task = .ok (later, more)) :
    plan.Reaches lead root later (more ++ tasks) target := by
  have level := reaches.level task List.mem_cons_self
  have inside : lead ≤ task.index := by omega
  have drop (nothing : ¬ plan.LeadsTo root progress.document task target) :
      plan.Reaches lead root progress ([] ++ tasks) target := by
    refine reaches.advance rfl (List.forall_mem_nil _) (List.forall_mem_nil _) id (fun _ _ => rfl) ?_
    exact fun leads => absurd leads nothing
  cases turn_of_perform performed with
  | beyond here =>
      apply drop
      rintro ⟨node, -, -, site, isSite, -⟩
      rw [List.drop_eq_nil_of_le (List.getElem?_eq_none_iff.1 here)] at isSite
      cases isSite
  | root here => cases (confined.plain_at inside here).1
  | current here => cases (confined.plain_at inside here).1
  | descent here => cases (confined.plain_at inside here).2.1
  | absent here nothing =>
      apply drop
      rintro ⟨node, isNode, -⟩
      rw [nothing] at isNode
      cases isNode
  | finish here plain walks isLast found picked => exact reaches.finish confined here isLast found picked
  | follow here plain walks inner found picked approached =>
      exact reaches.follow confined here inner found picked approached

/-- A run that meets no obstacle makes the edit at all locations that it was to reach. -/
theorem Reaches.run (confined : plan.Confined lead) (reaches : plan.Reaches lead root progress tasks target)
    (succeeds : (plan.run progress tasks).2 = none) : plan.Made (plan.run progress tasks).1.document target := by
  rcases @run_induction _ plan progress tasks (fun progress tasks => plan.Reaches lead root progress tasks target)
    (by
      intro progress task tasks wrote reaches
      rw [Progress.wrote, reaches.unwritten] at wrote
      cases wrote)
    (by
      intro progress task tasks later more _ performed reaches
      exact reaches.perform confined performed)
    reaches with ⟨left, reaches, isEmpty⟩
  rcases isEmpty confined.unlimited succeeds
  -- No task is left to lead to the location.
  apply reaches.reached.resolve_right
  rintro ⟨front, task, back, isSplit, -⟩
  cases front <;> cases isSplit

end Plan

/-! ## Paths -/

theorem Step.exists_segment_of_mem_sites {root : Value} {step : Step} {site found : Site}
    (plain : step.isAnchor = false) (walks : step.isDescent = false) (isFound : found ∈ step.sites root site) :
    ∃ segment, found.location = site.location ++ [segment] := by
  have ofChildren (isChild : found ∈ site.children) : ∃ segment, found.location = site.location ++ [segment] := by
    rcases List.mem_map.1 isChild with ⟨⟨segment, child⟩, -, rfl⟩
    exact ⟨segment, rfl⟩
  have ofSegments (segments : List Segment) (isChild : found ∈ segments.filterMap site.child?) :
      ∃ segment, found.location = site.location ++ [segment] := by
    rcases List.mem_filterMap.1 isChild with ⟨segment, -, isChild⟩
    exact ⟨segment, (Site.child?_eq_some.1 isChild).1⟩
  cases step with
  | root => cases plain
  | current => cases plain
  | descent => cases walks
  | wildcard => exact ofChildren isFound
  | filter test => exact ofChildren (List.mem_filter.1 isFound).1
  | _ => exact ofSegments _ isFound

theorem length_of_mem_findSites {root : Value} {steps : List Step}
    (level : ∀ step ∈ steps, step.isAnchor = false ∧ step.isDescent = false) {site found : Site}
    (isFound : found ∈ findSites root steps site) :
    found.location.length = site.location.length + steps.length := by
  induction steps generalizing site with
  | nil => cases isFound
  | cons step steps ih =>
      rcases level step List.mem_cons_self with ⟨plain, walks⟩
      by_cases more : steps = []
      · subst more
        rw [findSites_last _ _ (ne_descent walks)] at isFound
        rcases Step.exists_segment_of_mem_sites plain walks isFound with ⟨segment, isHere⟩
        rw [isHere, List.length_append]
        rfl
      · rw [findSites_cons _ _ (ne_descent walks) more] at isFound
        rcases List.mem_flatMap.1 isFound with ⟨between, isBetween, isFound⟩
        rcases Step.exists_segment_of_mem_sites plain walks isBetween with ⟨segment, isHere⟩
        have below := ih (fun next member => level next (List.mem_cons_of_mem _ member)) isFound
        rw [below, isHere, List.length_append, List.length_singleton, List.length_cons]
        omega

namespace Path

section Reaching

variable [RegexSyntax] {Memory : Type} {path : Path} {document : Value}

theorem exists_confined {action : Action Memory} (memory : Memory) (wellFormed : path.WellFormed)
    (level : ∀ fragment ∈ path.fragments, fragment.isDescent = false)
    (isLocal : ∀ script, .filter script ∈ path.fragments → script.isLocal = true) (simple : action.isModify = false)
    (assignable : ∀ target ∈ path.fragments.getLast?, target.isAssignable = true) :
    ∃ lead, (path.plan action none).Confined lead ∧
      (path.plan action none).run (.start document memory) [⟨[], 0⟩] =
        (path.plan action none).run (.start document memory) [⟨[], lead⟩] ∧
      path.sites document = findSites document (path.steps.drop lead) document.rootSite := by
  have editable := editable_steps wellFormed assignable
  have stays : ∀ step ∈ path.steps, step.isAnchor = false → step.IsLocal := by
    intro step member plain
    rcases mem_steps.1 member with ⟨fragment, isIn, rfl⟩
    apply isLocal_stepOf
    cases fragment with
    | root => cases plain
    | filter script => exact isLocal script isIn
    | _ => rfl
  have confined (lead : Nat) (plain : ∀ step ∈ path.steps.drop lead, step.isAnchor = false) :
      (path.plan action none).Confined lead := by
    refine ⟨simple, rfl, descends_plan_eq_false level, editable.assignable, ?_⟩
    intro step member
    exact ⟨plain step member, stays step (List.mem_of_mem_drop member) (plain step member)⟩
  have tail := editable.plain_drop 0
  rcases anchored_or_plain tail with ⟨head, here, anchor⟩ | plain
  · have more : path.steps.drop 1 ≠ [] := editable.drop_one_ne_nil here anchor
    exact ⟨1, confined 1 tail, Plan.run_anchor rfl here anchor, findSites_anchor document here anchor more⟩
  · exact ⟨0, confined 0 plain, rfl, rfl⟩

/-- An edit that succeeds has been made at all locations at which the path finds something. -/
theorem made_of_edit {action : Action Memory} {memory : Memory} {count : Nat} (path_wellFormed : path.WellFormed)
    (level : ∀ fragment ∈ path.fragments, fragment.isDescent = false)
    (isLocal : ∀ script, .filter script ∈ path.fragments → script.isLocal = true) (simple : action.isModify = false)
    (wellFormed : document.WellFormed)
    (succeeds : (path.edit action none memory document).outcome = .ok count) :
    ∀ site ∈ path.sites document,
      (path.edit action none memory document).document.at? site.location = action.result site.location := by
  rcases edit_eq_ok simple succeeds with ⟨later, assignable, ran, isDocument⟩
  rcases exists_confined memory path_wellFormed level isLocal simple assignable with ⟨lead, confined, anchored, areSites⟩
  intro site isSite
  rw [isDocument]
  rw [anchored] at ran
  rw [areSites] at isSite
  have reaches : (path.plan action none).Reaches lead document (.start document memory) [⟨[], lead⟩]
      site.location := by
    refine ⟨rfl, ?_, ?_, .inr ⟨[], _, [], rfl, List.forall_mem_nil _, document, rfl, wellFormed, site, isSite, rfl⟩⟩
    · intro task isTask
      rw [List.mem_singleton.1 isTask]
      exact Nat.zero_add lead
    · have levels : ∀ step ∈ path.steps.drop lead, step.isAnchor = false ∧ step.isDescent = false := by
        intro step member
        exact ⟨(confined.plain step member).1, Plan.isDescent_eq_false confined.level step member⟩
      have long := length_of_mem_findSites levels isSite
      have inside : 0 < (path.steps.drop lead).length := by
        apply List.length_pos_iff.2
        intro nothing
        rw [nothing] at isSite
        cases isSite
      have isPlan : (path.plan action none).steps = path.steps := rfl
      have isRoot : document.rootSite.location.length = 0 := rfl
      rw [List.length_drop] at long inside
      rw [isPlan]
      omega
  have isMade := reaches.run confined (by rw [ran])
  rw [ran] at isMade
  exact isMade

/--
Setting and deleting along a path without a descent, the filters of which say nowhere `$`. If all goes well, the value
stands at every location at which the path gets a value from the unchanged document, or that value is gone.
-/
theorem set_and_delete_reach_matches {text : String} {path : Path} (parsed : Path.parse text = .ok path)
    (level : ∀ fragment ∈ path.fragments, fragment.isDescent = false)
    (isLocal : ∀ script, .filter script ∈ path.fragments → script.isLocal = true)
    {document : Value} (wellFormed : document.WellFormed) (value : Value) :
    ((path.sites document).map Site.value = path.get document ∧
      ∀ site ∈ path.sites document, document.at? site.location = some site.value) ∧
    (∀ count, (path.set value document).outcome = .ok count →
      ∀ site ∈ path.sites document, (path.set value document).document.at? site.location = some value) ∧
    (∀ count, (path.delete document).outcome = .ok count →
      ∀ site ∈ path.sites document,
        (path.delete document).document.at? site.location = site.location.getLast?.bind Value.leftover) := by
  have path_wellFormed := wellFormed_of_parse parsed
  refine ⟨⟨path.map_value_sites document,
    findSites_standsIn wellFormed (Site.rootSite_standsIn document)⟩, ?_, ?_⟩
  · intro count succeeds
    exact made_of_edit path_wellFormed level isLocal rfl wellFormed succeeds
  · intro count succeeds
    exact made_of_edit path_wellFormed level isLocal rfl wellFormed succeeds

end Reaching

/-- The path to the members `b` of what passes the filter. -/
def flaggedChildren : Path where
  fragments := [.root, .filter flagged.equation.script, .child "b"]

theorem set_and_delete_reach_matches_flaggedChildren :
    Path.parse flaggedChildren.text = .ok flaggedChildren ∧
      (∀ fragment ∈ flaggedChildren.fragments, fragment.isDescent = false) ∧
      (∀ script, .filter script ∈ flaggedChildren.fragments → script.isLocal = true) ∧ flaggedDocument.WellFormed ∧
      (flaggedChildren.sites flaggedDocument).map Site.location =
        [[.field "x", .field "b"], [.field "y", .field "b"]] ∧
      (flaggedChildren.set .null flaggedDocument).outcome = .ok 2 ∧
      (∀ site ∈ flaggedChildren.sites flaggedDocument,
        (flaggedChildren.set .null flaggedDocument).document.at? site.location = some .null) ∧
      (flaggedChildren.delete flaggedDocument).outcome = .ok 2 ∧
      ∀ site ∈ flaggedChildren.sites flaggedDocument,
        (flaggedChildren.delete flaggedDocument).document.at? site.location =
          site.location.getLast?.bind Value.leftover := by
  have parsed : Path.parse flaggedChildren.text = .ok flaggedChildren :=
    parse_text_of_wellFormed
      ⟨by simpa [flaggedChildren, Fragment.WellFormed] using Fragment.filter_wellFormed flagged_isReadable,
        by simp [flaggedChildren, Fragment.isAnchor]⟩
  have level : ∀ fragment ∈ flaggedChildren.fragments, fragment.isDescent = false := by
    simp [flaggedChildren, Fragment.isDescent]
  have isLocal : ∀ script, .filter script ∈ flaggedChildren.fragments → script.isLocal = true := by
    intro script member
    simp only [flaggedChildren, List.mem_cons, List.not_mem_nil, or_false] at member
    rcases member with isRoot | isFilter | isChild
    · cases isRoot
    · cases isFilter
      rfl
    · cases isChild
  have wellFormed := flaggedDocument_wellFormed
  have isSet : (flaggedChildren.set .null flaggedDocument).outcome = .ok 2 := by cbv
  have isDeleted : (flaggedChildren.delete flaggedDocument).outcome = .ok 2 := by cbv
  rcases set_and_delete_reach_matches parsed level isLocal wellFormed .null with ⟨-, sets, deletes⟩
  exact ⟨parsed, level, isLocal, wellFormed, by rfl, isSet, sets 2 isSet, isDeleted, deletes 2 isDeleted⟩

/-- The script of a filter that everything passes as long as the very first `x` is one. -/
def whileFirst : Formula :=
  .binary .equal (.path [.root, .nth 0, .nth 0, .child "x"]) (.literal (.integer 1))

def membersWhileFirst : Path where
  fragments := [.root, .wildcard, .filter whileFirst.equation.script, .child "x"]

def twins : Value :=
  .array [.array [.object [("x", .integer 1)]], .array [.object [("x", .integer 1)]]]

/-- Setting the very first `x` changes what the filter says of the other one. -/
theorem set_membersWhileFirst :
    Path.parse "$.*[?($[0][0].x == 1)].x" = .ok membersWhileFirst ∧
      (∀ fragment ∈ membersWhileFirst.fragments, fragment.isDescent = false) ∧ twins.WellFormed ∧
      (membersWhileFirst.sites twins).map Site.location =
        [[.index 0, .index 0, .field "x"], [.index 1, .index 0, .field "x"]] ∧
      (membersWhileFirst.set (.integer 2) twins).outcome = .ok 1 ∧
      (membersWhileFirst.set (.integer 2) twins).document.at? [.index 1, .index 0, .field "x"] =
        some (.integer 1) ∧
      ¬ ∀ site ∈ membersWhileFirst.sites twins,
        (membersWhileFirst.set (.integer 2) twins).document.at? site.location = some (.integer 2) := by
  have readable : whileFirst.IsReadable := by
    simp [whileFirst, Formula.IsReadable, areReadable, isReadable, Value.IsLiteral, Operator.arity,
      Operator.compiles, Fragment.isAnchor]
  have parsed : Path.parse membersWhileFirst.text = .ok membersWhileFirst :=
    parse_text_of_wellFormed
      ⟨by simpa [membersWhileFirst, Fragment.WellFormed] using Fragment.filter_wellFormed readable,
        by simp [membersWhileFirst, Fragment.isAnchor]⟩
  have isText : membersWhileFirst.text = "$.*[?($[0][0].x == 1)].x" := by decide
  -- The test of the filter is evaluated by recursion, which the sites and the run can be computed with.
  have steps : membersWhileFirst.steps = meaningOfFragments membersWhileFirst.fragments := stepsOf_eq_meaning _
  have areSites : (membersWhileFirst.sites twins).map Site.location =
      [[.index 0, .index 0, .field "x"], [.index 1, .index 0, .field "x"]] := by
    rw [sites, steps]
    rfl
  have runs : membersWhileFirst.set (.integer 2) twins = membersWhileFirst.runEdit (.set (.integer 2)) none () twins :=
    edit_of_isAssignable rfl _ _ _
  have unchanged : (membersWhileFirst.set (.integer 2) twins).document.at? [.index 1, .index 0, .field "x"] =
      some (.integer 1) := by
    rw [runs, runEdit, plan, steps]
    cbv
  refine ⟨isText ▸ parsed, ?_, ?_, areSites, ?_, unchanged, ?_⟩
  · simp [membersWhileFirst, Fragment.isDescent]
  · simp [twins, Value.WellFormed, Value.WellFormedItems, Value.WellFormedMembers, Members.Ordered]
  · rw [runs, runEdit, plan, steps]
    cbv
  · intro reached
    have isLocation : [.index 1, .index 0, .field "x"] ∈ (membersWhileFirst.sites twins).map Site.location := by
      rw [areSites]
      exact List.mem_cons_of_mem _ List.mem_cons_self
    rcases List.mem_map.1 isLocation with ⟨site, isSite, isHere⟩
    have isSet := reached site isSite
    rw [isHere, unchanged] at isSet
    cases isSet

end Path

end TreePath

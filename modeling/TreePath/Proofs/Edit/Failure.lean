import TreePath.Proofs.Edit.Obstacles

/-!
# Which edits fail

An edit along a path without filters fails just if the path meets an obstacle in the unchanged document. What was
changed before makes no difference: locations that strict steps reach are *shallow*, and nothing is written there, but
for the containers that fill gaps. `Keeps` is what holds all along, and `run_encounters` that a run ends with an
obstacle which its tasks encounter, if there is any.
-/

namespace TreePath

namespace Value

theorem kind_face (value : Value) : value.face.kind = value.kind := by
  cases value <;> rfl

theorem isNull_face (value : Value) : value.face.isNull = value.isNull := by
  cases value <;> rfl

theorem isContainer_of_child? {value child : Value} {segment : Segment} (found : value.child? segment = some child) :
    value.isContainer = true := by
  cases value with
  | array items => rfl
  | object members => rfl
  | _ => cases segment <;> cases found

theorem exists_array_of_face_eq {other : Value} {items : List Value} (faces : other.face = (array items).face) :
    ∃ others, other = array others ∧ others.length = items.length := by
  cases other with
  | array others => exact ⟨others, rfl, by simpa [face] using faces⟩
  | _ => cases faces

theorem face_at?_updateAt {f : Value → Value} (keeps : ∀ node, (f node).face = node.face) (value : Value)
    {place location : Location} (high : location.length ≤ place.length) :
    ((value.updateAt f place).at? location).map face = (value.at? location).map face := by
  by_cases above : location <+: place
  · rcases above with ⟨rest, rfl⟩
    rw [at?_updateAt_above, Option.map_map]
    congr 1
    funext node
    cases rest with
    | nil => exact keeps node
    | cons segment rest => exact face_updateAt_cons f node segment rest
  · have notBelow : ¬ place <+: location := by
      intro below
      rw [below.eq_of_length_le high] at above
      exact above (List.prefix_refl _)
    rw [at?_updateAt_beside f value notBelow above]

end Value

theorem resolveIndex_of_filler? {steps : List Step} {container : Value} {last : Step} {i : Int64}
    {items : List Value} (filled : filler? steps = some container) (isLast : steps.getLast? = some last)
    (listed : Selector.index i ∈ last.selectors) (faces : container.face = (Value.array items).face) :
    resolveIndex i items.length ≠ none := by
  rw [filler?, isLast] at filled
  split at filled
  · cases filled
  · cases last with
    | nth j =>
        rcases List.mem_singleton.1 listed with ⟨⟩
        simp only at filled
        split at filled
        · cases filled
        · rename_i notNegative
          rcases Option.some.inj filled with rfl
          have length : items.length = i.toInt.toNat + 1 := by simpa [Value.face, eq_comm] using faces
          rw [length, resolveIndex_toNat notNegative]
          exact Option.some_ne_none _
    | child name => simp [Fragment.selectors] at listed
    | _ => cases filled

namespace Plan

variable {Memory : Type} {plan : Plan Memory} {lead index : Nat} {step : Step} {start node : Value}
  {obstacle : Obstacle}

/-- A plan to change everything that steps without filters pick. The first steps up to `lead` are left aside. -/
structure Thorough (plan : Plan Memory) (lead : Nat) : Prop where
  unlimited : plan.limit = none
  unfiltered : ∀ step ∈ plan.steps, step.isFilter = false
  assignable : ∀ last ∈ plan.steps.getLast?, last.isAssignable = true
  plain : ∀ step ∈ plan.steps.drop lead, step.isAnchor = false

theorem Thorough.plain_at (thorough : plan.Thorough lead) (inside : lead ≤ index)
    (here : plan.steps[index]? = some step) : step.isAnchor = false := by
  apply thorough.plain step
  rw [List.mem_iff_getElem?]
  exact ⟨index - lead, by rw [List.getElem?_drop, ← here]; congr 1; omega⟩

theorem Thorough.unfiltered_at (thorough : plan.Thorough lead) (here : plan.steps[index]? = some step) :
    step.isFilter = false :=
  thorough.unfiltered step (List.mem_of_getElem? here)

theorem filler?_of_filler {container : Value} (filled : plan.filler = some container) :
    filler? plan.steps = some container := by
  have isSet : plan.action.isSet = true := isSet_of_filler (by rw [filled]; rfl)
  rwa [filler, if_pos isSet] at filled

theorem isContainer_of_filler {container : Value} (filled : plan.filler = some container) :
    container.isContainer = true := by
  rcases Step.exists_segment_of_filler? (filler?_of_filler filled) with ⟨last, segment, -, -, isIn⟩
  exact Step.isContainer_of_mem_segments isIn

/-- One missing container in front of the last step is the one that fills gaps. -/
theorem deduce_of_filler {container : Value} (filled : plan.filler = some container)
    (inner : index + 2 = plan.steps.length) : plan.deduce index = .ok container := by
  have filled := filler?_of_filler filled
  rw [filler?] at filled
  have isLast : plan.steps.getLast? = plan.steps[index + 1]? := by
    rw [List.getLast?_eq_getElem?, ← inner]
    rfl
  rw [deduce, if_neg (by omega), ← isLast]
  split at filled
  · cases filled
  · cases isEnd : plan.steps.getLast? with
    | none =>
        rw [isEnd] at filled
        cases filled
    | some last =>
        rw [isEnd] at filled
        cases last with
        | child name => exact congrArg Except.ok (Option.some.inj filled)
        | nth i =>
            simp only at filled ⊢
            split at filled
            · cases filled
            · rename_i notNegative
              rw [if_neg notNegative]
              exact congrArg Except.ok (Option.some.inj filled)
        | _ => cases filled

/-- A location at which a strict step may stand, or to which one may lead. -/
def IsShallow (plan : Plan Memory) (lead : Nat) (location : Location) : Prop :=
  location.length + lead < plan.steps.length ∧ location.length + lead ≤ plan.strictCount

/-- Strict tasks stand as deep as there are steps before them, and the others at least as deep as strict ones. -/
structure Aligned (plan : Plan Memory) (lead : Nat) (task : Task) : Prop where
  inside : lead ≤ task.index
  level : task.index < plan.strictCount → task.location.length + lead = task.index
  deep : plan.strictCount ≤ task.index → plan.strictCount ≤ task.location.length + lead

/-- There is what was at a location, but for its children, or a container that fills a gap. -/
def Stays (plan : Plan Memory) (lead : Nat) (start document : Value) (location : Location) : Prop :=
  (document.at? location).map Value.face = (start.at? location).map Value.face ∨
    ∃ container, plan.filler = some container ∧ start.IsVacant location ∧
      location.length + lead + 1 = plan.steps.length ∧
      (document.at? location).map Value.face = some container.face

/-- What an edit leaves as it was in the unchanged document. -/
structure Keeps (plan : Plan Memory) (lead : Nat) (start : Value) (progress : Progress Memory) : Prop where
  stays : ∀ location, plan.IsShallow lead location → plan.Stays lead start progress.document location
  written : ∀ place ∈ progress.written, ¬ plan.IsShallow lead place

theorem Stays.face_eq {document : Value} {location : Location} (stays : plan.Stays lead start document location)
    {old : Value} (found : start.at? location = some old) (notNull : old.isNull = false) :
    ∃ now, document.at? location = some now ∧ now.face = old.face := by
  rcases stays with faces | ⟨_, _, vacant, _⟩
  · rw [found] at faces
    exact Value.exists_of_face_eq faces.symm
  · rw [Value.IsVacant, found, Option.all_some, notNull] at vacant
    cases vacant

theorem isNull_of_isContainer {value : Value} (container : value.isContainer = true) : value.isNull = false := by
  cases value with
  | null => cases container
  | _ => rfl

/-! ## The obstacles of one task -/

section Tasks

variable {progress later : Progress Memory} {task : Task} {tasks more : List Task}

theorem Aligned.isShallow (aligned : plan.Aligned lead task) (strict : plan.isStrict task.index = true)
    (here : plan.steps[task.index]? = some step) : plan.IsShallow lead task.location := by
  have before := isStrict_iff.1 strict
  have level := aligned.level before
  have within := (List.getElem?_eq_some_iff.1 here).1
  exact ⟨by omega, by omega⟩

theorem Aligned.isShallow_child (aligned : plan.Aligned lead task) (strict : plan.isStrict task.index = true)
    (inner : task.index + 1 < plan.steps.length) (segment : Segment) :
    plan.IsShallow lead (task.location ++ [segment]) := by
  have before := isStrict_iff.1 strict
  have level := aligned.level before
  simp only [IsShallow, List.length_append, List.length_singleton]
  omega

theorem Aligned.child (aligned : plan.Aligned lead task) (segment : Segment) :
    plan.Aligned lead ⟨task.location ++ [segment], task.index + 1⟩ := by
  rcases aligned with ⟨inside, level, deep⟩
  constructor
  · exact Nat.le_succ_of_le inside
  · simp only [List.length_append, List.length_singleton]
    omega
  · simp only [List.length_append, List.length_singleton]
    omega

theorem Blocks.congr {other : Value} (blocks : plan.Blocks index step node obstacle)
    (faces : other.face = node.face)
    (closed : index + 1 < plan.steps.length → ∀ segment child, node.child? segment = some child →
      child.isContainer = false → child.isNull = false →
      (other.child? segment).map Value.face = some child.face)
    (vacant : index + 1 < plan.steps.length → plan.deduce index = .error obstacle → ∀ segment,
      (node.child? segment).all Value.isNull = true → (other.child? segment).all Value.isNull = true) :
    plan.Blocks index step other obstacle := by
  cases blocks with
  | @scalar segment child inner naming picked isChild notContainer notNull =>
      rcases Option.map_eq_some_iff.1 (closed inner segment child isChild notContainer notNull) with
        ⟨same, isSame, sameFace⟩
      rw [← child.kind_face, ← sameFace, same.kind_face]
      refine .scalar inner naming ?_ isSame ?_ ?_
      · rwa [← Step.segments_face naming, faces, Step.segments_face naming]
      · rw [← same.isContainer_face, sameFace, child.isContainer_face, notContainer]
      · rw [← same.isNull_face, sameFace, child.isNull_face, notNull]
  | @outOfBounds i items requires listed isArray outside =>
      rw [isArray] at faces
      rcases Value.exists_array_of_face_eq faces with ⟨others, rfl, sameLength⟩
      exact .outOfBounds requires listed rfl (by rw [sameLength, outside])
  | @gap segment _ creates inner naming picked isVacant undeduced =>
      refine @Blocks.gap _ _ _ _ _ segment _ creates inner naming ?_ ?_ ?_
      · rwa [← Step.segments_face naming, faces, Step.segments_face naming]
      · exact vacant inner undeduced segment isVacant
      · exact undeduced

/-- An obstacle in the unchanged document is still in the way when the task for it is worked off. -/
theorem Blocks.now (keeps : plan.Keeps lead start progress) (aligned : plan.Aligned lead task)
    (strict : plan.isStrict task.index = true) (here : plan.steps[task.index]? = some step)
    (found : start.at? task.location = some node) (blocks : plan.Blocks task.index step node obstacle) :
    ∃ now, progress.document.at? task.location = some now ∧ plan.Blocks task.index step now obstacle := by
  rcases (keeps.stays _ (aligned.isShallow strict here)).face_eq found (isNull_of_isContainer blocks.isContainer)
    with ⟨now, isNow, faces⟩
  refine ⟨now, isNow, blocks.congr faces ?_ ?_⟩
  · intro inner segment child isChild _ notNull
    have stays := keeps.stays _ (aligned.isShallow_child strict inner segment)
    rcases stays.face_eq (by rw [Value.at?_concat, found, Option.bind_some, isChild]) notNull with
      ⟨other, isOther, sameFace⟩
    rw [Value.at?_concat, isNow, Option.bind_some] at isOther
    rw [isOther, Option.map_some, sameFace]
  · intro inner undeduced segment vacant
    rcases keeps.stays _ (aligned.isShallow_child strict inner segment) with
      sameFace | ⟨container, filled, _, isEnd, _⟩
    · rw [Value.at?_concat, Value.at?_concat, isNow, found, Option.bind_some, Option.bind_some] at sameFace
      rwa [← Value.all_isNull_face, sameFace, Value.all_isNull_face]
    · have level := aligned.level (isStrict_iff.1 strict)
      rw [List.length_append, List.length_singleton] at isEnd
      rw [deduce_of_filler filled (by omega)] at undeduced
      cases undeduced

/-- What is in the way of a task was so in the unchanged document. -/
theorem Blocks.before (keeps : plan.Keeps lead start progress) (aligned : plan.Aligned lead task)
    (strict : plan.isStrict task.index = true) (here : plan.steps[task.index]? = some step)
    (found : progress.document.at? task.location = some node)
    (blocks : plan.Blocks task.index step node obstacle) :
    ∃ old, start.at? task.location = some old ∧ plan.Blocks task.index step old obstacle := by
  rcases keeps.stays _ (aligned.isShallow strict here) with faces | ⟨container, filled, _, isEnd, isFiller⟩
  · rw [found] at faces
    rcases Value.exists_of_face_eq faces with ⟨old, isOld, faces⟩
    refine ⟨old, isOld, blocks.congr faces ?_ ?_⟩
    · intro inner segment child isChild closed _
      rcases keeps.stays _ (aligned.isShallow_child strict inner segment) with
        sameFace | ⟨container, filled, _, _, sameFace⟩
      · rw [Value.at?_concat, Value.at?_concat, found, isOld, Option.bind_some, Option.bind_some, isChild] at sameFace
        rw [← sameFace, Option.map_some]
      · rw [Value.at?_concat, found, Option.bind_some, isChild, Option.map_some] at sameFace
        rw [← child.isContainer_face, Option.some.inj sameFace, Value.isContainer_face,
          isContainer_of_filler filled] at closed
        cases closed
    · intro inner _ segment vacant
      rcases keeps.stays _ (aligned.isShallow_child strict inner segment) with
        sameFace | ⟨container, _, isVacant, _, _⟩
      · rw [Value.at?_concat, Value.at?_concat, found, isOld, Option.bind_some, Option.bind_some] at sameFace
        rwa [← Value.all_isNull_face, ← sameFace, Value.all_isNull_face]
      · rwa [Value.IsVacant, Value.at?_concat, isOld, Option.bind_some] at isVacant
  · -- The container that fills a gap has room for what the last step picks.
    have level := aligned.level (isStrict_iff.1 strict)
    rw [found, Option.map_some] at isFiller
    cases blocks with
    | scalar inner naming picked isChild closed notNull => omega
    | gap creates inner naming picked vacant undeduced => omega
    | @outOfBounds i items requires listed isArray outside =>
        rw [isArray] at isFiller
        have isLast : plan.steps.getLast? = some step := by
          rw [List.getLast?_eq_getElem?, ← here]
          congr 1
          omega
        exact absurd outside
          (resolveIndex_of_filler? (filler?_of_filler filled) isLast listed (Option.some.inj isFiller).symm)

/-! ## What an edit leaves as it was -/

theorem IsShallow.length_lt {location deeper : Location} (shallow : plan.IsShallow lead location)
    (deep : ¬ plan.IsShallow lead deeper) : location.length < deeper.length := by
  simp only [IsShallow] at shallow deep
  omega

theorem Stays.of_face {document other : Value} {location : Location}
    (stays : plan.Stays lead start document location)
    (same : (other.at? location).map Value.face = (document.at? location).map Value.face) :
    plan.Stays lead start other location := by
  rcases stays with faces | ⟨container, filled, vacant, isEnd, isFiller⟩
  · exact .inl (same.trans faces)
  · exact .inr ⟨container, filled, vacant, isEnd, same.trans isFiller⟩

theorem Keeps.begin (document : Value) (memory : Memory) : plan.Keeps lead document (.start document memory) := by
  constructor
  · intro location _
    exact .inl rfl
  · intro place member
    cases member

theorem Keeps.updateAt (keeps : plan.Keeps lead start progress) {f : Value → Value}
    (face_f : ∀ node, (f node).face = node.face) {location : Location} {segment : Segment}
    (deep : ¬ plan.IsShallow lead (location ++ [segment]))
    (isDocument : later.document = progress.document.updateAt f location)
    (isWritten : ∀ place ∈ later.written, place = location ++ [segment] ∨ place ∈ progress.written) :
    plan.Keeps lead start later := by
  constructor
  · intro place shallow
    apply (keeps.stays place shallow).of_face
    rw [isDocument]
    apply Value.face_at?_updateAt face_f
    have := shallow.length_lt deep
    rw [List.length_append, List.length_singleton] at this
    omega
  · intro place member
    rcases isWritten place member with rfl | isOld
    · exact deep
    · exact keeps.written place isOld

theorem Keeps.change (keeps : plan.Keeps lead start progress) {location : Location} {segment : Segment}
    (deep : ¬ plan.IsShallow lead (location ++ [segment])) :
    plan.Keeps lead start (plan.change progress location segment) := by
  generalize changed : plan.change progress location segment = later
  cases change_of_eq changed with
  | store memory value =>
      apply keeps.updateAt (fun node => Value.face_place value node segment) deep rfl
      intro place member
      simp only [store, record] at member
      split at member
      · exact List.mem_cons.1 member
      · exact .inr member
  | remove => exact keeps.updateAt (fun node => Value.face_remove node segment) deep rfl fun _ => .inr
  | memory memory => exact ⟨keeps.stays, keeps.written⟩

theorem Keeps.changeAll (keeps : plan.Keeps lead start progress) {location : Location}
    (deep : ∀ segment, ¬ plan.IsShallow lead (location ++ [segment])) (segments : List Segment) :
    plan.Keeps lead start (plan.changeAll progress location segments) :=
  changeAll_induction keeps fun segment _ _ before => before.change (deep segment)

theorem Keeps.create (keeps : plan.Keeps lead start progress) (aligned : plan.Aligned lead task)
    (found : progress.document.at? task.location = some node) {ways : List (Segment × Option Value)}
    (approached : plan.approachAll task.index step node (step.segments node) = .ok ways) :
    plan.Keeps lead start { progress with document := create progress.document task.location ways } := by
  refine ⟨?_, keeps.written⟩
  by_cases creates : ∃ segment container, (segment, some container) ∈ ways
  · have created {segment : Segment} {container : Value} (isIn : (segment, some container) ∈ ways) :=
      Resolves.way_created ((mem_approachAll approached).1 isIn).2
    rcases creates with ⟨_, filler, isIn⟩
    rcases created isIn with ⟨filled, isEnd, -, -⟩
    have strict := Resolves.isStrict_of_level (descends_of_filler (by rw [filled]; rfl))
      (show task.index < plan.steps.length by omega)
    have level := aligned.level (isStrict_iff.1 strict)
    have overlay : Overlay progress.document (Plan.create progress.document task.location ways)
        (fun gap => False ∨ ∃ segment container, (segment, some container) ∈ ways ∧
          gap = task.location ++ [segment]) fun _ => some filler := by
      refine (overlay_create (.refl _ _) (.refl _ fun _ => none) (fun _ isGap => isGap.elim) ?_).1
      intro segment container isIn
      have isNamed := created isIn
      have admitted : progress.document.AdmitsAt task.location segment := by
        refine ⟨node, found, Step.admits_of_mem_segments ?_ ((mem_approachAll approached).1 isIn).1⟩
        exact Fragment.isAssignable_of_isNaming isNamed.2.2.1
      refine ⟨?_, admitted, admitted, fun _ isPlace => isPlace.elim⟩
      rw [isNamed.1] at filled
      exact Option.some.inj filled
    intro location shallow
    by_cases within : Within (fun gap => False ∨ ∃ segment container, (segment, some container) ∈ ways ∧
      gap = task.location ++ [segment]) location
    · rcases within with ⟨_, impossible | ⟨segment, container, isIn, rfl⟩, above⟩
      · exact impossible.elim
      · have short := shallow.1
        have isHere : task.location ++ [segment] = location := by
          apply above.eq_of_length_le
          rw [List.length_append, List.length_singleton]
          omega
        subst isHere
        have stored := overlay.stored (task.location ++ [segment])
          ⟨.inr ⟨segment, container, isIn, rfl⟩, by
            rintro _ (impossible | ⟨other, _, _, rfl⟩) isAbove
            · exact impossible.elim
            · exact isAbove.eq_of_length (by simp)⟩
        have vacant : (progress.document.at? (task.location ++ [segment])).all Value.isNull = true := by
          rw [Value.at?_concat, found, Option.bind_some]
          exact (created isIn).2.2.2
        refine .inr ⟨filler, filled, ?_, ?_, ?_⟩
        · rcases keeps.stays _ shallow with faces | ⟨_, _, isVacant, _⟩
          · rwa [Value.IsVacant, ← Value.all_isNull_face, ← faces, Value.all_isNull_face]
          · exact isVacant
        · rw [List.length_append, List.length_singleton]
          omega
        · rw [stored, Option.map_some]
    · exact (keeps.stays location shallow).of_face (overlay.kept location within)
  · rw [create_eq_self fun segment container isIn => creates ⟨segment, container, isIn⟩]
    exact keeps.stays

/-- Working off a task keeps what is, and the tasks that come of it are aligned. -/
theorem Keeps.perform (thorough : plan.Thorough lead) (keeps : plan.Keeps lead start progress)
    (aligned : plan.Aligned lead task) (performed : plan.perform progress task = .ok (later, more)) :
    plan.Keeps lead start later ∧ ∀ next ∈ more, plan.Aligned lead next := by
  have inside := aligned.inside
  cases turn_of_perform performed with
  | beyond here => exact ⟨keeps, by simp⟩
  | root here => cases thorough.plain_at inside here
  | current here => cases thorough.plain_at inside here
  | descent here =>
      have after := strictCount_le_of_isDescent here
      have deep := aligned.deep after
      refine ⟨keeps, ?_⟩
      intro next member
      rcases mem_descendTasks member with rfl | ⟨segment, rfl⟩
      · exact ⟨by simp only; omega, by simp only; omega, fun _ => deep⟩
      · refine ⟨inside, fun before => absurd before (by simpa using after), ?_⟩
        intro _
        simp only [List.length_append, List.length_singleton]
        omega
  | absent here nothing => exact ⟨keeps, by simp⟩
  | @finish step node segments here plain walks isLast found picked =>
      refine ⟨keeps.changeAll ?_ segments, by simp⟩
      intro segment shallow
      rcases shallow with ⟨short, high⟩
      simp only [List.length_append, List.length_singleton] at short high
      by_cases before : task.index < plan.strictCount
      · have level := aligned.level before
        omega
      · have deep := aligned.deep (Nat.le_of_not_lt before)
        omega
  | follow here plain walks inner found picked approached =>
      rw [pick_eq_ok (thorough.unfiltered_at here) picked] at approached
      refine ⟨keeps.create aligned found approached, ?_⟩
      intro next member
      rcases List.mem_map.1 member with ⟨⟨segment, created⟩, -, rfl⟩
      exact aligned.child segment

/-! ## What tasks encounter -/

/-- The obstacles that the steps from a task on meet in the unchanged document. -/
def Encounters (plan : Plan Memory) (start : Value) (task : Task) (obstacle : Obstacle) : Prop :=
  ∃ node, start.at? task.location = some node ∧
    plan.Meets start (plan.steps.drop task.index) task.index node obstacle

theorem encounters_iff (wellFormed : start.WellFormed) (thorough : plan.Thorough lead)
    (inside : lead ≤ task.index) :
    plan.Encounters start task obstacle ↔
      ∃ step node, plan.steps[task.index]? = some step ∧ plan.isStrict task.index = true ∧
        start.at? task.location = some node ∧
        (plan.Blocks task.index step node obstacle ∨ ∃ segment ∈ step.segments node,
          plan.Encounters start ⟨task.location ++ [segment], task.index + 1⟩ obstacle) := by
  have child_iff {step : Step} {node : Value} (here : plan.steps[task.index]? = some step)
      (strict : plan.isStrict task.index = true) (found : start.at? task.location = some node) :
      (∃ child ∈ step.pick start node,
        plan.Meets start (plan.steps.drop (task.index + 1)) (task.index + 1) child obstacle) ↔
      ∃ segment ∈ step.segments node,
        plan.Encounters start ⟨task.location ++ [segment], task.index + 1⟩ obstacle := by
    have picks (child : Value) := @Step.mem_pick step node start child (wellFormed.at? found)
      (thorough.unfiltered_at here) (thorough.plain_at inside here) (isDescent_of_isStrict strict here)
    constructor
    · rintro ⟨child, isChild, meets⟩
      rcases (picks child).1 isChild with ⟨segment, isIn, isAt⟩
      refine ⟨segment, isIn, child, ?_, meets⟩
      rw [Value.at?_concat, found, Option.bind_some, isAt]
    · rintro ⟨segment, isIn, child, isAt, meets⟩
      rw [Value.at?_concat, found, Option.bind_some] at isAt
      exact ⟨child, (picks child).2 ⟨segment, isIn, isAt⟩, meets⟩
  constructor
  · rintro ⟨node, found, meets⟩
    cases here : plan.steps[task.index]? with
    | none =>
        rw [List.drop_eq_nil_of_le (List.getElem?_eq_none_iff.1 here)] at meets
        exact meets.elim
    | some step =>
        rw [drop_eq_cons here, Meets] at meets
        rcases meets with ⟨strict, meets⟩
        exact ⟨step, node, rfl, strict, found, meets.imp_right (child_iff here strict found).1⟩
  · rintro ⟨step, node, here, strict, found, meets⟩
    refine ⟨node, found, ?_⟩
    rw [drop_eq_cons here, Meets]
    exact ⟨strict, meets.imp_right (child_iff here strict found).2⟩

theorem Encounters.isContainer (wellFormed : start.WellFormed) (thorough : plan.Thorough lead)
    (inside : lead ≤ task.index) (encounters : plan.Encounters start task obstacle) :
    ∃ node, start.at? task.location = some node ∧ node.isContainer = true := by
  rcases (encounters_iff wellFormed thorough inside).1 encounters with
    ⟨step, node, -, -, found, blocks | ⟨segment, isIn, -⟩⟩
  · exact ⟨node, found, blocks.isContainer⟩
  · exact ⟨node, found, Step.isContainer_of_mem_segments isIn⟩

/-- A child at which something is encountered is picked now just if it was picked in the unchanged document. -/
theorem Encounters.picked (wellFormed : start.WellFormed) (thorough : plan.Thorough lead)
    (keeps : plan.Keeps lead start progress) (aligned : plan.Aligned lead task)
    (strict : plan.isStrict task.index = true) (inner : task.index + 1 < plan.steps.length) {segment : Segment}
    (step : Step) (encounters : plan.Encounters start ⟨task.location ++ [segment], task.index + 1⟩ obstacle) :
    ∃ node old, progress.document.at? task.location = some node ∧ start.at? task.location = some old ∧
      (node.child? segment).any Value.isContainer = true ∧
      (segment ∈ step.segments node ↔ segment ∈ step.segments old) := by
  rcases encounters.isContainer wellFormed thorough (Nat.le_succ_of_le aligned.inside) with
    ⟨child, isChild, container⟩
  have here : plan.steps[task.index]? = some plan.steps[task.index] :=
    List.getElem?_eq_getElem (Nat.lt_of_succ_lt inner)
  have shallow := aligned.isShallow_child strict inner segment
  rcases (keeps.stays _ shallow).face_eq isChild (isNull_of_isContainer container) with ⟨now, isNow, sameFace⟩
  rw [Value.at?_concat] at isChild isNow
  rcases Option.bind_eq_some_iff.1 isChild with ⟨old, isOld, isChild⟩
  rcases Option.bind_eq_some_iff.1 isNow with ⟨node, isNode, isNow⟩
  have holds := Value.isContainer_of_child? isChild
  rcases (keeps.stays _ (aligned.isShallow strict here)).face_eq isOld (isNull_of_isContainer holds) with
    ⟨same, isSame, faces⟩
  rw [isNode] at isSame
  rcases Option.some.inj isSame with rfl
  refine ⟨node, old, isNode, isOld, ?_, ?_⟩
  · rw [isNow, Option.any_some, ← now.isContainer_face, sameFace, child.isContainer_face, container]
  · apply Step.mem_segments_congr faces
    rw [isNow, isChild]
    rfl

theorem isStrict_of_encounters (wellFormed : start.WellFormed) (thorough : plan.Thorough lead)
    (inside : lead ≤ task.index) {next : Task} (later : task.index ≤ next.index)
    (encounters : plan.Encounters start next obstacle) : plan.isStrict task.index = true := by
  rcases (encounters_iff wellFormed thorough (Nat.le_trans inside later)).1 encounters with ⟨_, _, -, strict, -, -⟩
  exact isStrict_of_le strict later

/-- The tasks for the children to which a step goes on encounter what the task at their node does. -/
theorem encounters_follow (wellFormed : start.WellFormed) (thorough : plan.Thorough lead)
    (keeps : plan.Keeps lead start progress) (aligned : plan.Aligned lead task) {step : Step} {now : Value}
    {segments : List Segment} {ways : List (Segment × Option Value)} (here : plan.steps[task.index]? = some step)
    (inner : task.index + 1 < plan.steps.length) (isNow : progress.document.at? task.location = some now)
    (picked : plan.pick task.index progress.document now step = .ok segments)
    (approached : plan.approachAll task.index step now segments = .ok ways) :
    plan.Encounters start task obstacle ↔
      ∃ way ∈ ways, plan.Encounters start ⟨task.location ++ [way.1], task.index + 1⟩ obstacle := by
  have inside := aligned.inside
  have unfiltered := thorough.unfiltered_at here
  have segments_eq := pick_eq_ok unfiltered picked
  constructor
  · intro encounters
    rcases (encounters_iff wellFormed thorough inside).1 encounters with
      ⟨other, old, isStep, strict, isOld, blocks | ⟨segment, isIn, further⟩⟩
    · rcases Option.some.inj (here.symm.trans isStep)
      rcases blocks.now keeps aligned strict here isOld with ⟨node, isNode, blocks⟩
      rcases Option.some.inj (isNow.symm.trans isNode)
      exact absurd blocks (not_blocks_of_follow unfiltered strict picked approached)
    · rcases Option.some.inj (here.symm.trans isStep)
      rcases further.picked wellFormed thorough keeps aligned strict inner step with
        ⟨node, same, isNode, isSame, container, picked_iff⟩
      rcases Option.some.inj (isNow.symm.trans isNode)
      rcases Option.some.inj (isOld.symm.trans isSame)
      have isWay := (mem_approachAll approached).2 ⟨segments_eq ▸ picked_iff.2 isIn, .inl ⟨rfl, container⟩⟩
      exact ⟨_, isWay, further⟩
  · rintro ⟨⟨segment, created⟩, isWay, encounters⟩
    have strict := isStrict_of_encounters wellFormed thorough inside (Nat.le_succ _) encounters
    rcases encounters.picked wellFormed thorough keeps aligned strict inner step with
      ⟨node, old, isNode, isOld, _, picked_iff⟩
    rcases Option.some.inj (isNow.symm.trans isNode)
    apply (encounters_iff wellFormed thorough inside).2
    refine ⟨step, old, here, strict, isOld, .inr ⟨segment, picked_iff.1 ?_, encounters⟩⟩
    rw [← segments_eq]
    exact ((mem_approachAll approached).1 isWay).1

/-- The tasks that come of a task encounter what it does. -/
theorem encounters_perform (wellFormed : start.WellFormed) (thorough : plan.Thorough lead)
    (keeps : plan.Keeps lead start progress) (aligned : plan.Aligned lead task)
    (performed : plan.perform progress task = .ok (later, more)) :
    plan.Encounters start task obstacle ↔ ∃ next ∈ more, plan.Encounters start next obstacle := by
  have inside := aligned.inside
  -- A task of which nothing comes has met no obstacle.
  have nothing (noMore : ¬ plan.Encounters start task obstacle) :
      plan.Encounters start task obstacle ↔ ∃ next ∈ ([] : List Task), plan.Encounters start next obstacle := by
    simp [noMore]
  cases turn_of_perform performed with
  | root here => cases thorough.plain_at inside here
  | current here => cases thorough.plain_at inside here
  | beyond here =>
      apply nothing
      intro encounters
      rcases (encounters_iff wellFormed thorough inside).1 encounters with ⟨step, _, isStep, -⟩
      rw [here] at isStep
      cases isStep
  | descent here =>
      -- Behind a descent nothing is an obstacle.
      have notStrict {next : Task} (later : task.index ≤ next.index) : ¬ plan.Encounters start next obstacle := by
        intro encounters
        cases isDescent_of_isStrict (isStrict_of_encounters wellFormed thorough inside later encounters) here
      constructor
      · exact fun encounters => absurd encounters (notStrict (Nat.le_refl _))
      · rintro ⟨next, isNext, encounters⟩
        rcases mem_descendTasks isNext with rfl | ⟨segment, rfl⟩
        · exact absurd encounters (notStrict (Nat.le_succ _))
        · exact absurd encounters (notStrict (Nat.le_refl _))
  | absent here isAbsent =>
      apply nothing
      intro encounters
      rcases encounters.isContainer wellFormed thorough inside with ⟨node, found, container⟩
      have shallow := aligned.isShallow (isStrict_of_encounters wellFormed thorough inside (Nat.le_refl _) encounters) here
      rcases (keeps.stays _ shallow).face_eq found (isNull_of_isContainer container) with ⟨now, isNow, -⟩
      rw [isAbsent] at isNow
      cases isNow
  | finish here plain walks isLast isNow picked =>
      apply nothing
      intro encounters
      rcases (encounters_iff wellFormed thorough inside).1 encounters with
        ⟨step, node, isStep, strict, found, blocks | ⟨segment, _, beyond⟩⟩
      · rcases Option.some.inj (here.symm.trans isStep)
        rcases blocks.now keeps aligned strict here found with ⟨now, isNode, blocks⟩
        rcases Option.some.inj (isNow.symm.trans isNode)
        exact not_blocks_of_finish isLast strict picked blocks
      · -- No step is left to encounter anything at a child.
        rcases (encounters_iff wellFormed thorough (Nat.le_succ_of_le inside)).1 beyond with ⟨_, _, isNext, _⟩
        have := (List.getElem?_eq_some_iff.1 isNext).1
        simp only at this
        omega
  | follow here plain walks inner isNow picked approached =>
      rw [encounters_follow wellFormed thorough keeps aligned here inner isNow picked approached]
      simp only [List.mem_map, exists_exists_and_eq_and]

theorem encounters_of_error (wellFormed : start.WellFormed) (thorough : plan.Thorough lead)
    (keeps : plan.Keeps lead start progress) (aligned : plan.Aligned lead task)
    (failed : plan.perform progress task = .error obstacle) : plan.Encounters start task obstacle := by
  have unfiltered (step : Step) : plan.steps[task.index]? = some step → step.isFilter = false := thorough.unfiltered_at
  rcases blocks_of_perform unfiltered failed with ⟨step, node, here, found, strict, blocks⟩
  rcases blocks.before keeps aligned strict here found with ⟨old, isOld, blocks⟩
  exact (encounters_iff wellFormed thorough aligned.inside).2 ⟨step, old, here, strict, isOld, .inl blocks⟩

theorem not_encounters_of_wrote (wellFormed : start.WellFormed) (thorough : plan.Thorough lead)
    (keeps : plan.Keeps lead start progress) (aligned : plan.Aligned lead task)
    (wrote : progress.wrote task.location = true) : ¬ plan.Encounters start task obstacle := by
  intro encounters
  rcases (encounters_iff wellFormed thorough aligned.inside).1 encounters with ⟨step, _, here, strict, _, _⟩
  rcases List.any_eq_true.1 wrote with ⟨place, isPlace, above⟩
  have short := (aligned.isShallow strict here).length_lt (keeps.written place isPlace)
  have long := (List.isPrefixOf_iff_prefix.1 above).length_le
  omega

/-- A run ends with an obstacle that one of its tasks encounters, if any task encounters one. -/
theorem run_encounters (wellFormed : start.WellFormed) (thorough : plan.Thorough lead)
    (keeps : plan.Keeps lead start progress) (aligned : ∀ task ∈ tasks, plan.Aligned lead task) :
    ((plan.run progress tasks).2 = none → ∀ task ∈ tasks, ∀ obstacle, ¬ plan.Encounters start task obstacle) ∧
      ∀ obstacle, (plan.run progress tasks).2 = some obstacle →
        ∃ task ∈ tasks, plan.Encounters start task obstacle := by
  have unfinished (count : Nat) : plan.isDone count = false := by rw [isDone, thorough.unlimited]
  -- What each turn preserves is `Keeps` for the progress and `Aligned` for each of the tasks.
  induction progress, tasks using Plan.run.induct plan with
  | case1 progress tasks isDone =>
      rw [unfinished] at isDone
      cases isDone
  | case2 progress _ =>
      rw [run_nil]
      simp
  | case3 progress _ task tasks wrote ih =>
      rw [run_of_wrote (unfinished _) wrote]
      rcases ih keeps fun other member => aligned other (List.mem_cons_of_mem _ member) with ⟨passes, fails⟩
      constructor
      · intro ends other member obstacle
        rcases List.mem_cons.1 member with rfl | later
        · exact not_encounters_of_wrote wellFormed thorough keeps (aligned other List.mem_cons_self) wrote
        · exact passes ends other later obstacle
      · intro obstacle ends
        rcases fails obstacle ends with ⟨other, member, encounters⟩
        exact ⟨other, List.mem_cons_of_mem _ member, encounters⟩
  | case4 progress _ task tasks unwritten obstacle performed =>
      rw [run_of_error (unfinished _) (Bool.eq_false_iff.2 unwritten) performed]
      refine ⟨by simp, ?_⟩
      intro _ isSame
      rcases Option.some.inj isSame with rfl
      exact ⟨task, List.mem_cons_self,
        encounters_of_error wellFormed thorough keeps (aligned task List.mem_cons_self) performed⟩
  | case5 progress _ task tasks unwritten later more performed ih =>
      rw [run_of_ok (unfinished _) (Bool.eq_false_iff.2 unwritten) performed]
      have alignedTask := aligned task List.mem_cons_self
      rcases keeps.perform thorough alignedTask performed with ⟨keepsLater, alignedMore⟩
      have alignedAll : ∀ next ∈ more ++ tasks, plan.Aligned lead next := by
        intro next member
        rcases List.mem_append.1 member with isNew | isOld
        · exact alignedMore next isNew
        · exact aligned next (List.mem_cons_of_mem _ isOld)
      have same (obstacle : Obstacle) :=
        @encounters_perform _ plan lead start obstacle progress later task more wellFormed thorough keeps alignedTask
          performed
      rcases ih keepsLater alignedAll with ⟨passes, fails⟩
      constructor
      · intro ends other member obstacle
        rcases List.mem_cons.1 member with rfl | isOld
        · intro encounters
          rcases (same obstacle).1 encounters with ⟨next, isNext, encounters⟩
          exact passes ends next (List.mem_append_left _ isNext) obstacle encounters
        · exact passes ends other (List.mem_append_right _ isOld) obstacle
      · intro obstacle ends
        rcases fails obstacle ends with ⟨next, member, encounters⟩
        rcases List.mem_append.1 member with isNew | isOld
        · exact ⟨task, List.mem_cons_self, (same obstacle).2 ⟨next, isNew, encounters⟩⟩
        · exact ⟨next, List.mem_cons_of_mem _ isOld, encounters⟩

end Tasks

end Plan

end TreePath

import TreePath.Proofs.Edit.Sequence

/-!
# Documents in which a value was set

While a value is set along steps without filters and descents, the document is the one of the beginning in two layers:
first with some gaps filled, and then with the value at some locations. `Layers` says so, and what follows for a
location at which there is something to be done: what stands there has the face that it had, or that of the container
which fills a gap, and each step picks the same children in it.
-/

namespace TreePath

namespace Plan

variable {Memory : Type}

/-- A plan to set a value at everything that steps without filters and descents pick. -/
structure SetsAll (plan : Plan Memory) (lead : Nat) (value : Value) : Prop where
  regular : plan.Regular lead
  sets : plan.action = .set value
  level : plan.descends = false

/-- A gap that containers may have been created in. -/
structure Fillable (plan : Plan Memory) (lead : Nat) (start : Value) (gap : Location) : Prop where
  vacant : start.IsVacant gap
  fills : plan.filler.isSome = true
  deep : gap.length + 1 + lead = plan.steps.length
  named : ∀ index step, gap.length + lead = index + 1 → plan.steps[index]? = some step → step.isNaming = true

/-- The document is the one of the beginning with gaps filled, and then with the value set at some locations. -/
structure Layers (plan : Plan Memory) (lead : Nat) (value start : Value) (progress : Progress Memory) (base : Value)
    (gaps : Location → Prop) (done : List Location) : Prop where
  unwritten : progress.written = []
  filled : Overlay start base gaps fun _ => plan.filler
  edited : Overlay base progress.document (· ∈ done) fun _ => some value
  fillable : ∀ gap, gaps gap → plan.Fillable lead start gap
  deep : ∀ target ∈ done, target.length + lead = plan.steps.length
  /-- No child has been added where all children are picked. -/
  outlined : ∀ location, plan.steps[location.length + lead]? = some .wildcard →
    (progress.document.at? location).map Value.outline = (start.at? location).map Value.outline

/-- What stands at a location for the steps to come: a value of the unchanged document, or what fills a gap. -/
def Stands (plan : Plan Memory) (start : Value) (gaps : Location → Prop) (location : Location) (node : Value) : Prop :=
  (start.at? location = some node ∧ ¬ gaps location) ∨ (gaps location ∧ plan.filler = some node)

variable {plan : Plan Memory} {lead : Nat} {value start base : Value} {progress later : Progress Memory}
  {gaps : Location → Prop} {done : List Location} {location : Location} {node now : Value} {step : Step}

theorem SetsAll.isSet (sets : plan.SetsAll lead value) : plan.action.isSet = true := by
  rw [sets.sets]
  rfl

namespace Layers

/-! ## Looking through the layers -/

theorem not_within_done (layers : plan.Layers lead value start progress base gaps done)
    (short : location.length + lead < plan.steps.length) : ¬ Within (· ∈ done) location := by
  rintro ⟨place, isDone, above⟩
  have := layers.deep place isDone
  have := above.length_le
  omega

theorem gaps_of_within (layers : plan.Layers lead value start progress base gaps done)
    (short : location.length + lead < plan.steps.length) (within : Within gaps location) : gaps location := by
  rcases within with ⟨gap, isGap, above⟩
  have := (layers.fillable gap isGap).deep
  have := above.length_le
  rwa [← above.eq_of_length (by omega)]

theorem face_eq (layers : plan.Layers lead value start progress base gaps done)
    (short : location.length + lead < plan.steps.length) (notGap : ¬ gaps location) :
    (progress.document.at? location).map Value.face = (start.at? location).map Value.face := by
  rw [layers.edited.kept location (layers.not_within_done short), layers.filled.kept]
  exact fun within => notGap (layers.gaps_of_within short within)

theorem face_gap (layers : plan.Layers lead value start progress base gaps done) (isGap : gaps location) :
    (progress.document.at? location).map Value.face = plan.filler.map Value.face := by
  have deep := (layers.fillable location isGap).deep
  rw [layers.edited.kept location (layers.not_within_done (by omega)), layers.filled.stored]
  refine ⟨isGap, ?_⟩
  intro other isOther above
  apply above.eq_of_length
  have := (layers.fillable other isOther).deep
  omega

/-- Gaps are filled only in front of a step that names children. -/
theorem not_wildcard (layers : plan.Layers lead value start progress base gaps done) (isGap : gaps location) :
    plan.steps[location.length + lead]? ≠ some .wildcard := by
  intro here
  have fillable := layers.fillable location isGap
  rcases Option.isSome_iff_exists.1 fillable.fills with ⟨container, filled⟩
  rcases Step.exists_segment_of_filler? (filler?_of_filler filled) with ⟨last, -, isLast, naming, -⟩
  have deep := fillable.deep
  have isEnd : plan.steps.length - 1 = location.length + lead := by omega
  rw [List.getLast?_eq_getElem?, isEnd, here] at isLast
  rcases Option.some.inj isLast
  cases naming

/-- What stands at a location is there, but for its children, and a step picks the same in it. -/
theorem exists_now (layers : plan.Layers lead value start progress base gaps done)
    (short : location.length + lead < plan.steps.length) (stands : plan.Stands start gaps location node) :
    ∃ now, progress.document.at? location = some now ∧ now.face = node.face ∧
      ∀ step, plan.steps[location.length + lead]? = some step → step.segments now = step.segments node := by
  rcases stands with ⟨found, notGap⟩ | ⟨isGap, filled⟩
  · have faces := layers.face_eq short notGap
    rw [found] at faces
    rcases Value.exists_of_face_eq faces.symm with ⟨now, isNow, sameFace⟩
    refine ⟨now, isNow, sameFace, ?_⟩
    intro step here
    apply Step.segments_congr sameFace
    rintro rfl
    have outlines := layers.outlined location here
    rw [isNow, found] at outlines
    exact Option.some.inj outlines
  · have faces := layers.face_gap isGap
    rw [filled] at faces
    rcases Value.exists_of_face_eq faces.symm with ⟨now, isNow, sameFace⟩
    refine ⟨now, isNow, sameFace, ?_⟩
    intro step here
    apply Step.segments_congr sameFace
    rintro rfl
    exact absurd here (layers.not_wildcard isGap)

/-! ## Setting the value -/

theorem admitsAt_iff (layers : plan.Layers lead value start progress base gaps done)
    (short : location.length + lead < plan.steps.length) {segment : Segment} :
    progress.document.AdmitsAt location segment ↔ base.AdmitsAt location segment :=
  layers.edited.admitsAt_iff (layers.not_within_done short)

theorem store (layers : plan.Layers lead value start progress base gaps done) (wellFormed : start.WellFormed)
    (level : plan.descends = false) (deep : location.length + 1 + lead = plan.steps.length) {segment : Segment}
    (admitted : base.AdmitsAt location segment)
    (exists' : plan.steps[location.length + lead]? = some .wildcard →
      (start.at? (location ++ [segment])).isSome = true) :
    plan.Layers lead value start (plan.store progress location segment value) base gaps
      (done ++ [location ++ [segment]]) := by
  have overlay : Overlay progress.document (progress.document.updateAt (Value.place value · segment) location)
      (· = location ++ [segment]) fun _ => some value :=
    overlay_place ((layers.admitsAt_iff (by omega)).2 admitted) rfl
  refine { layers with unwritten := ?_, edited := ?_, deep := ?_, outlined := ?_ }
  · simp only [Plan.store, record, level, Bool.false_eq_true, if_false]
    exact layers.unwritten
  · apply (layers.edited.cons overlay ?_).congr
    · rintro place (rfl | isDone)
      · simp
      · simp [isDone]
    · rintro place ⟨isPlace, -⟩
      simpa [or_comm] using isPlace
    · intro place isDone above
      apply above.eq_of_length
      have := layers.deep place isDone
      simp only [List.length_append, List.length_singleton]
      omega
  · intro target isTarget
    rcases List.mem_append.1 isTarget with isDone | isNew
    · exact layers.deep target isDone
    · rw [List.mem_singleton.1 isNew, List.length_append, List.length_singleton]
      omega
  · intro place here
    have inside := (List.getElem?_eq_some_iff.1 here).1
    rw [← layers.outlined place here]
    by_cases same : place = location
    · -- All children are picked here, so the child was there.
      subst same
      rcases Option.isSome_iff_exists.1 (exists' here) with ⟨old, isOld⟩
      rw [Value.at?_concat] at isOld
      rcases Option.bind_eq_some_iff.1 isOld with ⟨node, found, isChild⟩
      have outlines := layers.outlined place here
      rw [found] at outlines
      rcases Option.map_eq_some_iff.1 outlines with ⟨now, isNow, sameOutline⟩
      have ordered : now.IsOrdered := (wellFormed.at? found).isOrdered.of_outline sameOutline
      have isThere : segment ∈ now.segments := by
        have sameSegments : now.segments = node.segments := congrArg Prod.snd sameOutline
        rw [sameSegments, Value.mem_segments, isChild]
        rfl
      rcases Option.isSome_iff_exists.1 (Value.mem_segments.1 isThere) with ⟨current, isCurrent⟩
      apply Value.outline_at?_place isNow ordered isCurrent
      intro within
      have := within.length_le
      simp at this
    · exact Value.outline_at?_updateAt _ _ (by omega) same

theorem changeAll (sets : plan.SetsAll lead value) (wellFormed : start.WellFormed) {segments : List Segment}
    (layers : plan.Layers lead value start progress base gaps done)
    (deep : location.length + 1 + lead = plan.steps.length)
    (admitted : ∀ segment ∈ segments, base.AdmitsAt location segment)
    (exist : plan.steps[location.length + lead]? = some .wildcard →
      ∀ segment ∈ segments, (start.at? (location ++ [segment])).isSome = true) :
    plan.Layers lead value start (plan.changeAll progress location segments) base gaps
      (done ++ segments.map fun segment => location ++ [segment]) := by
  induction segments generalizing progress done with
  | nil => simpa [Plan.changeAll] using layers
  | cons segment segments ih =>
      have unfinished : plan.isDone progress.count = false := by
        rw [isDone, sets.regular.unlimited]
      have next := layers.store wellFormed sets.level deep (admitted segment List.mem_cons_self)
        (fun here => exist here segment List.mem_cons_self)
      have others := ih next (fun other member => admitted other (List.mem_cons_of_mem _ member))
        (fun here other member => exist here other (List.mem_cons_of_mem _ member))
      rw [Plan.changeAll, unfinished, change, sets.sets]
      rwa [List.append_assoc] at others

/-! ## Creating containers -/

theorem outline_at?_create {document : Value} {ways : List (Segment × Option Value)} {place : Location}
    (high : place.length ≤ location.length) (different : place ≠ location) :
    ((create document location ways).at? place).map Value.outline = (document.at? place).map Value.outline := by
  induction ways generalizing document with
  | nil => rfl
  | cons way ways ih =>
      rcases way with ⟨segment, _ | container⟩
      · exact ih
      · rw [create, ih, Value.outline_at?_updateAt _ _ high different]

/-- The value was set below no gap that is vacant now. -/
theorem beside_done (layers : plan.Layers lead value start progress base gaps done)
    (short : location.length + lead < plan.steps.length) (vacant : progress.document.IsVacant location) :
    Beside (· ∈ done) location := by
  apply beside_of_isVacant vacant
  · intro place isDone
    have := layers.deep place isDone
    omega
  · intro place isDone
    rw [layers.edited.stored place]
    · rfl
    · refine ⟨isDone, ?_⟩
      intro other isOther above
      apply above.eq_of_length
      have := layers.deep place isDone
      have := layers.deep other isOther
      omega

section Follow

variable {segment : Segment} {ways : List (Segment × Option Value)}

theorem isAlike (layers : plan.Layers lead value start progress base gaps done)
    (inner : location.length + lead + 1 < plan.steps.length)
    (here : plan.steps[location.length + lead]? = some step) (found : start.at? location = some node)
    (isNow : progress.document.at? location = some now) :
    IsAlike (plan.fillerAt (location.length + lead) step) now node segment := by
  have short : (location ++ [segment]).length + lead < plan.steps.length := by
    simp only [List.length_append, List.length_singleton]
    omega
  by_cases isGap : gaps (location ++ [segment])
  · right
    have faces := layers.face_gap isGap
    have fillable := layers.fillable _ isGap
    rcases Option.isSome_iff_exists.1 fillable.fills with ⟨container, filled⟩
    have vacant := fillable.vacant
    have deep := fillable.deep
    rw [Value.at?_concat, isNow, Option.bind_some, filled] at faces
    rw [Value.IsVacant, Value.at?_concat, found, Option.bind_some] at vacant
    simp only [List.length_append, List.length_singleton] at deep
    refine ⟨?_, vacant, ?_⟩
    · rw [← Value.any_isContainer_face, faces, Value.any_isContainer_face]
      exact isContainer_of_filler filled
    · have naming := fillable.named _ step (by simp only [List.length_append, List.length_singleton]; omega) here
      rw [fillerAt_eq_some.2 ⟨naming, by omega, filled⟩]
      rfl
  · left
    have faces := layers.face_eq short isGap
    rwa [Value.at?_concat, Value.at?_concat, isNow, found, Option.bind_some, Option.bind_some] at faces

theorem fillable_of_created (layers : plan.Layers lead value start progress base gaps done)
    (here : plan.steps[location.length + lead]? = some step)
    (isNow : progress.document.at? location = some now)
    (approached : plan.approachAll (location.length + lead) step now (step.segments now) = .ok ways)
    {container : Value} (isCreated : (segment, some container) ∈ ways) :
    plan.Fillable lead start (location ++ [segment]) ∧ plan.filler = some container ∧
      location.length + lead + 2 = plan.steps.length ∧ progress.document.IsVacant (location ++ [segment]) := by
  rcases Resolves.way_created ((mem_approachAll approached).1 isCreated).2 with ⟨filled, isEnd, naming, isNull⟩
  have vacant : progress.document.IsVacant (location ++ [segment]) := by
    rw [Value.IsVacant, Value.at?_concat, isNow]
    exact isNull
  refine ⟨?_, filled, isEnd, vacant⟩
  by_cases isGap : gaps (location ++ [segment])
  · exact layers.fillable _ isGap
  · constructor
    · rw [Value.IsVacant, ← Value.all_isNull_face, ← layers.face_eq _ isGap, Value.all_isNull_face]
      · exact vacant
      · simp only [List.length_append, List.length_singleton]
        omega
    · rw [filled]
      rfl
    · simp only [List.length_append, List.length_singleton]
      omega
    · intro index other isIndex isStep
      simp only [List.length_append, List.length_singleton] at isIndex
      have same : index = location.length + lead := by omega
      rw [same, here] at isStep
      rw [← Option.some.inj isStep]
      exact naming

theorem fillable_of_filled (layers : plan.Layers lead value start progress base gaps done)
    (here : plan.steps[location.length + lead]? = some step) (isNow : progress.document.at? location = some now)
    (approached : plan.approachAll (location.length + lead) step now (step.segments now) = .ok ways) {gap : Location}
    (isGap : Resolves.Filled gaps location ways gap) : plan.Fillable lead start gap := by
  rcases isGap with isGap | ⟨segment, container, isCreated, rfl⟩
  · exact layers.fillable gap isGap
  · exact (layers.fillable_of_created here isNow approached isCreated).1

theorem create (layers : plan.Layers lead value start progress base gaps done)
    (inner : location.length + lead + 1 < plan.steps.length)
    (here : plan.steps[location.length + lead]? = some step)
    (isNow : progress.document.at? location = some now)
    (approached : plan.approachAll (location.length + lead) step now (step.segments now) = .ok ways) :
    ∃ base', plan.Layers lead value start { progress with document := create progress.document location ways } base'
      (Resolves.Filled gaps location ways) done := by
  by_cases creates : ∃ segment container, (segment, some container) ∈ ways
  · rcases creates with ⟨_, filler, isCreated⟩
    rcases layers.fillable_of_created here isNow approached isCreated with ⟨-, filled, isEnd, -⟩
    have naming := (Resolves.way_created ((mem_approachAll approached).1 isCreated).2).2.2.1
    have layer := layers.filled
    rw [filled] at layer
    have sameLevel : ∀ gap, gaps gap → gap.length = location.length + 1 := by
      intro gap isGap
      have := (layers.fillable gap isGap).deep
      omega
    have both := overlay_create layer layers.edited sameLevel (by
      intro segment container isCreated
      rcases layers.fillable_of_created here isNow approached isCreated with ⟨-, same, -, vacant⟩
      rw [filled] at same
      have admitted : progress.document.AdmitsAt location segment :=
        ⟨now, isNow, Step.admits_of_mem_segments (Fragment.isAssignable_of_isNaming naming)
          ((mem_approachAll approached).1 isCreated).1⟩
      refine ⟨(Option.some.inj same).symm, (layers.admitsAt_iff (by omega)).1 admitted, admitted,
        layers.beside_done ?_ vacant⟩
      simp only [List.length_append, List.length_singleton]
      omega)
    refine ⟨_, { layers with filled := ?_, edited := both.2, fillable := ?_, outlined := ?_ }⟩
    · rw [filled]
      exact both.1
    · exact fun gap isGap => layers.fillable_of_filled here isNow approached isGap
    · intro place isWildcard
      rw [← layers.outlined place isWildcard]
      -- Neither the step nor the one after it picks all children.
      apply outline_at?_create
      · apply Nat.le_of_not_lt
        intro deeper
        have inside := (List.getElem?_eq_some_iff.1 isWildcard).1
        rcases Step.exists_segment_of_filler? (filler?_of_filler filled) with ⟨last, -, isLast, lastNaming, -⟩
        have isEnd : plan.steps.length - 1 = place.length + lead := by omega
        rw [List.getLast?_eq_getElem?, isEnd, isWildcard] at isLast
        rcases Option.some.inj isLast
        cases lastNaming
      · rintro rfl
        rw [here] at isWildcard
        rcases Option.some.inj isWildcard
        cases naming
  · have none_created : ∀ segment container, (segment, some container) ∉ ways :=
      fun segment container isCreated => creates ⟨segment, container, isCreated⟩
    have same : Resolves.Filled gaps location ways = gaps := by
      funext gap
      apply propext
      constructor
      · rintro (isGap | ⟨segment, container, isCreated, -⟩)
        · exact isGap
        · exact absurd isCreated (none_created segment container)
      · exact .inl
    rw [create_eq_self none_created, same]
    exact ⟨base, layers⟩

/-- A gap that can be gone into is filled. -/
theorem filled_of_vacant (layers : plan.Layers lead value start progress base gaps done)
    (strict : plan.isStrict (location.length + lead) = true) (isSet : plan.action.isSet = true)
    (isNow : progress.document.at? location = some now)
    (approached : plan.approachAll (location.length + lead) step now (step.segments now) = .ok ways)
    (isIn : segment ∈ step.segments now) (vacant : start.IsVacant (location ++ [segment])) {container : Value}
    (fills : plan.fillerAt (location.length + lead) step = some container) :
    Resolves.Filled gaps location ways (location ++ [segment]) := by
  rcases fillerAt_eq_some.1 fills with ⟨naming, isEnd, filled⟩
  by_cases isGap : gaps (location ++ [segment])
  · exact .inl isGap
  · have faces : (progress.document.at? (location ++ [segment])).map Value.face =
        (start.at? (location ++ [segment])).map Value.face := by
      apply layers.face_eq _ isGap
      simp only [List.length_append, List.length_singleton]
      omega
    rw [Value.IsVacant, ← Value.all_isNull_face, ← faces, Value.all_isNull_face, Value.at?_concat, isNow,
      Option.bind_some] at vacant
    have named : (step.isNaming && plan.isStrict (location.length + lead) && plan.action.isSet) = true := by
      rw [naming, strict, isSet]
      rfl
    have isWay : plan.IsWay (location.length + lead) step now segment (some container) :=
      .inr ⟨container, rfl, vacant, named, deduce_of_filler filled isEnd⟩
    exact .inr ⟨segment, container, (mem_approachAll approached).2 ⟨isIn, isWay⟩, rfl⟩

end Follow

end Layers

end Plan

end TreePath

import TreePath.Proofs.Edit.Rereading
import TreePath.Regex.Standard

/-!
# Setting values again

Setting a value along a path and then another one leaves what setting the other one alone would have left. The first
value has taken the outermost places that the path picks, and filled all gaps; whatever else is picked
afterwards lies within these places. So the second time the same outermost places are overwritten. Nor can an obstacle
have come up: `encounters_before` says that what is met afterwards was met before.
-/

namespace TreePath

/-! ## Overwriting what was overwritten -/

namespace Overlay

variable {earlier middle later : Value} {places others : Location → Prop} {result result' : Location → Option Value}

/-- If the same outermost places are overwritten again, the first results are lost. -/
theorem again (first : Overlay earlier middle places result) (second : Overlay middle later others result')
    (subset : ∀ place, others place → Within places place) (outer : ∀ place, Outermost places place → others place) :
    Overlay earlier later places result' := by
  have within_of {location : Location} (within : Within others location) : Within places location := by
    rcases within with ⟨place, isPlace, above⟩
    exact (subset place isPlace).trans above
  constructor
  · intro location outermost
    apply second.stored
    refine ⟨outer location outermost, ?_⟩
    intro place isPlace above
    rcases subset place isPlace with ⟨outside, isOutside, isAbove⟩
    rcases outermost.2 outside isOutside (isAbove.trans above) with rfl
    exact above.eq_of_length_le isAbove.length_le
  · intro location notWithin
    rw [second.kept location fun within => notWithin (within_of within), first.kept location notWithin]
  · intro location beside
    rw [second.same location, first.same location beside]
    intro place isPlace
    rcases subset place isPlace with ⟨outside, isOutside, isAbove⟩
    rcases beside outside isOutside with ⟨notBelow, notAbove⟩
    refine ⟨fun above => notBelow (isAbove.trans above), fun below => ?_⟩
    rcases List.prefix_or_prefix_of_prefix isAbove below with isBelow | isAbove
    · exact notBelow isBelow
    · exact notAbove isAbove

/-- Without a place nothing changes. -/
theorem eq_of_forall_not (overlay : Overlay earlier later places result) (none : ∀ place, ¬ places place) :
    later = earlier := by
  apply Option.some.inj
  exact overlay.same [] fun place isPlace => absurd isPlace (none place)

/-- The same places overwritten by the same results, in documents that differ in nothing but what is within. -/
theorem face_eq_of_face_eq {other final : Value} (first : Overlay earlier later places result)
    (second : Overlay other final places result)
    (faces : ∀ location, (earlier.at? location).map Value.face = (other.at? location).map Value.face)
    (location : Location) : (later.at? location).map Value.face = (final.at? location).map Value.face := by
  by_cases within : Within places location
  · rcases within.exists_outermost with ⟨place, outermost, rest, rfl⟩
    rw [Value.at?_append, Value.at?_append, first.stored place outermost, second.stored place outermost]
  · rw [first.kept location within, second.kept location within, faces]

/-- What is picked at an outermost place is still picked when a value was stored there. -/
theorem isPicked_of_outermost {steps : List Step} {place target : Location}
    (overlay : Overlay earlier later places result) (plain : ∀ step ∈ steps, step.isAnchor = false)
    (outermost : Outermost places target) (isThere : (result target).isSome = true)
    (picked : earlier.IsPicked steps place target) : later.IsPicked steps place target := by
  have above_target {location : Location} (above : location <+: target) (different : location ≠ target) :
      ¬ Within places location := by
    rintro ⟨other, isPlace, isAbove⟩
    rcases outermost.2 other isPlace (isAbove.trans above) with rfl
    exact different (above.eq_of_length_le isAbove.length_le)
  induction steps generalizing place with
  | nil => exact picked.elim
  | cons step steps ih =>
      have plainRest : ∀ other ∈ steps, other.isAnchor = false := fun other isIn =>
        plain other (List.mem_cons_of_mem _ isIn)
      have below := picked.below plain
      cases steps with
      | nil =>
          refine Value.Picks.mono picked (overlay.kept place (above_target below.2.1 below.2.2)).symm fun _ => ?_
          rw [overlay.stored target outermost]
          exact isThere
      | cons next rest =>
          rcases picked with ⟨mid, leads, picked⟩
          have belowMid := picked.below plainRest
          exact ⟨mid, (overlay.leads_iff (above_target belowMid.2.1 belowMid.2.2)).2 leads, ih plainRest picked⟩

end Overlay

namespace Path.Writes

variable {walked : List Step} {document prepared later value : Value} {steps : List Step}

/-- After a value was set there are no more gaps to be filled. -/
theorem not_isGap (writes : Writes walked (filler? steps) document prepared later value)
    (plain : ∀ step ∈ walked, step.isAnchor = false)
    (level : (filler? steps).isSome = true → ∀ step ∈ walked, step.isDescent = false)
    (isSome : (filler? steps).isSome = true) (gap : Location) : ¬ later.IsGap walked [] gap := by
  intro isGap
  have isLevel := level isSome
  have high := isGap.length_eq plain isLevel
  have outside : ¬ Within (prepared.IsPicked walked []) gap := by
    rintro ⟨target, picked, above⟩
    have := picked.length_eq plain isLevel
    have := above.length_le
    omega
  have wasGap := (writes.stored.isGap_iff plain outside).1 isGap
  by_cases within : Within (fun gap => (filler? steps).isSome = true ∧ document.IsGap walked [] gap) gap
  · rcases within.exists_outermost with ⟨filled, outermost, above⟩
    have sameLength : filled.length = gap.length := by
      have := outermost.1.2.length_eq plain isLevel
      omega
    rcases above.eq_of_length sameLength
    rcases Option.isSome_iff_exists.1 isSome with ⟨container, isFiller⟩
    rcases Step.exists_segment_of_filler? isFiller with ⟨last, segment, -, -, isIn⟩
    have closed := wasGap.isVacant.isContainerAt_eq_false
    rw [Value.isContainerAt, writes.filled.stored gap outermost, isFiller, Option.any_some,
      Step.isContainer_of_mem_segments isIn] at closed
    cases closed
  · exact within ⟨gap, ⟨isSome, (writes.filled.isGap_iff plain within).1 wasGap⟩, List.prefix_refl _⟩

/-- Another value set afterwards takes the places of the first one. -/
theorem again {middle final other : Value} (first : Writes walked (filler? steps) document prepared middle value)
    (second : Writes walked (filler? steps) middle later final other)
    (plain : ∀ step ∈ walked, step.isAnchor = false)
    (level : (filler? steps).isSome = true → ∀ step ∈ walked, step.isDescent = false) :
    Overlay prepared final (prepared.IsPicked walked []) fun _ => some other := by
  have unchanged : later = middle :=
    second.filled.eq_of_forall_not fun gap isGap => first.not_isGap plain level isGap.1 gap isGap.2
  have stored := second.stored
  rw [unchanged] at stored
  refine first.stored.again stored ?_ ?_
  · intro target picked
    apply Classical.byContradiction
    intro outside
    exact outside ⟨target, (first.stored.isPicked_iff plain outside).1 picked, List.prefix_refl _⟩
  · intro target outermost
    exact first.stored.isPicked_of_outermost plain outermost rfl outermost.1

end Path.Writes

/-! ## Obstacles -/

namespace Plan

variable {Memory : Type} {plan : Plan Memory} {lead : Nat} {start : Value} {progress : Progress Memory} {task : Task}
  {obstacle : Obstacle}

theorem Keeps.run (thorough : plan.Thorough lead) (keeps : plan.Keeps lead start progress) {tasks : List Task}
    (aligned : ∀ task ∈ tasks, plan.Aligned lead task) : plan.Keeps lead start (plan.run progress tasks).1 := by
  have kept := @run_induction _ plan progress tasks
    (fun progress tasks => plan.Keeps lead start progress ∧ ∀ task ∈ tasks, plan.Aligned lead task)
    (by
      rintro progress task tasks - ⟨keeps, aligned⟩
      exact ⟨keeps, fun other isIn => aligned other (List.mem_cons_of_mem _ isIn)⟩)
    (by
      rintro progress task tasks later more - performed ⟨keeps, aligned⟩
      rcases keeps.perform thorough (aligned task List.mem_cons_self) performed with ⟨keepsLater, alignedMore⟩
      refine ⟨keepsLater, ?_⟩
      intro next isIn
      rcases List.mem_append.1 isIn with isNew | isOld
      · exact alignedMore next isNew
      · exact aligned next (List.mem_cons_of_mem _ isOld))
    ⟨keeps, aligned⟩
  rcases kept with ⟨-, ⟨keeps, -⟩, -⟩
  exact keeps

/-- What a task would encounter afterwards, it would have encountered before. By induction on the steps left. -/
theorem encounters_before (wellFormed : start.WellFormed) (thorough : plan.Thorough lead)
    (keeps : plan.Keeps lead start progress) (laterWellFormed : progress.document.WellFormed)
    (aligned : plan.Aligned lead task) (encounters : plan.Encounters progress.document task obstacle) :
    plan.Encounters start task obstacle := by
  generalize isLeft : plan.steps.length - task.index = left
  induction left generalizing task with
  | zero =>
      rcases (encounters_iff laterWellFormed thorough aligned.inside).1 encounters with ⟨step, _, here, -⟩
      have := (List.getElem?_eq_some_iff.1 here).1
      omega
  | succ left ih =>
      rcases (encounters_iff laterWellFormed thorough aligned.inside).1 encounters with
        ⟨step, node, here, strict, found, blocks | ⟨segment, isIn, further⟩⟩
      · rcases blocks.before keeps aligned strict here found with ⟨old, isOld, blocked⟩
        exact (encounters_iff wellFormed thorough aligned.inside).2 ⟨step, old, here, strict, isOld, .inl blocked⟩
      · have alignedChild := aligned.child segment
        have was := ih alignedChild further (by simp only; omega)
        rcases (encounters_iff wellFormed thorough alignedChild.inside).1 was with ⟨_, _, isNext, -⟩
        have inner := (List.getElem?_eq_some_iff.1 isNext).1
        rcases was.picked wellFormed thorough keeps aligned strict inner step with
          ⟨same, old, isSame, isOld, -, picked_iff⟩
        rcases Option.some.inj (found.symm.trans isSame) with rfl
        exact (encounters_iff wellFormed thorough aligned.inside).2
          ⟨step, old, here, strict, isOld, .inr ⟨segment, picked_iff.1 isIn, was⟩⟩

/-- A run that meets no obstacle leaves none behind. -/
theorem not_meets_after_run (wellFormed : start.WellFormed) (thorough : plan.Thorough lead)
    (keepsOrder : plan.action.KeepsOrder) (memory : Memory)
    (succeeds : (plan.run (.start start memory) [⟨[], lead⟩]).2 = none) :
    ¬ plan.Meets (plan.run (.start start memory) [⟨[], lead⟩]).1.document (plan.steps.drop lead) lead
      (plan.run (.start start memory) [⟨[], lead⟩]).1.document obstacle := by
  intro meets
  have aligned : plan.Aligned lead ⟨[], lead⟩ :=
    ⟨Nat.le_refl lead, fun _ => Nat.zero_add lead, fun after => by simpa using after⟩
  have allAligned : ∀ task ∈ [(⟨[], lead⟩ : Task)], plan.Aligned lead task := List.forall_mem_singleton.2 aligned
  have keeps := (Keeps.begin start memory).run thorough allAligned
  have laterWellFormed : (plan.run (.start start memory) [⟨[], lead⟩]).1.document.WellFormed :=
    run_wellFormed keepsOrder wellFormed [⟨[], lead⟩]
  have was := encounters_before wellFormed thorough keeps laterWellFormed aligned (encounters_root.2 meets)
  exact (run_meets wellFormed thorough).1 succeeds obstacle (encounters_root.1 was)

theorem not_meets_after_start_run (wellFormed : start.WellFormed) (thorough : plan.Thorough 1)
    (keepsOrder : plan.action.KeepsOrder) (memory : Memory)
    (succeeds : (plan.run (.start start memory) [⟨[], 0⟩]).2 = none) :
    ¬ plan.Meets (plan.run (.start start memory) [⟨[], 0⟩]).1.document plan.steps 0
      (plan.run (.start start memory) [⟨[], 0⟩]).1.document obstacle := by
  rcases anchored_or_plain thorough.plain with ⟨head, here, anchor⟩ | plain
  · rw [run_anchor thorough.unlimited here anchor] at succeeds ⊢
    rw [meets_anchor here anchor]
    exact not_meets_after_run wellFormed thorough keepsOrder memory succeeds
  · have thorough : plan.Thorough 0 := { thorough with plain := plain }
    exact not_meets_after_run wellFormed thorough keepsOrder memory succeeds

end Plan

/-! ## Paths -/

namespace Path

section Rewriting

variable [RegexSyntax] {path : Path} {document value other : Value}

/-- A value can be set if the path can be written to and meets no obstacle. It makes no difference which value it is. -/
theorem set_eq_ok_iff (path_wellFormed : path.WellFormed)
    (unfiltered : ∀ fragment ∈ path.fragments, fragment.isFilter = false) (wellFormed : document.WellFormed)
    (other : Value) :
    (∃ count, (path.set value document).outcome = .ok count) ↔ path.isAssignable? = some true ∧
      ∀ obstacle, ¬ (path.plan (.set other : Action Unit) none).Meets document path.steps 0 document obstacle := by
  have meets_iff (obstacle : Obstacle) :
      (path.plan (.set other : Action Unit) none).Meets document path.steps 0 document obstacle ↔
        (path.plan (.set value : Action Unit) none).Meets document path.steps 0 document obstacle := by
    rw [meets_iff, meets_iff]
    exact Iff.rfl
  simp only [meets_iff]
  by_cases assignable : path.isAssignable? = some true
  · have thorough := thorough_plan path_wellFormed unfiltered assignable (.set value : Action Unit)
    rcases Plan.run_start_meets () wellFormed thorough with ⟨passes, fails⟩
    rw [set, edit_of_isAssignable assignable, runEdit]
    rcases ran : (path.plan (.set value : Action Unit) none).run (.start document ()) [⟨[], 0⟩] with
      ⟨later, _ | obstacle⟩
    · rw [ran] at passes
      exact ⟨fun _ => ⟨assignable, passes rfl⟩, fun _ => ⟨later.count, rfl⟩⟩
    · rw [ran] at fails
      constructor
      · rintro ⟨count, isOk⟩
        cases isOk
      · rintro ⟨-, free⟩
        exact absurd (fails obstacle rfl) (free obstacle)
  · rcases @edit_cases _ _ path (.set value : Action Unit) rfl none () document with
      ⟨isAssignable, -⟩ | ⟨error, fails⟩
    · exact absurd isAssignable assignable
    · rw [set, fails]
      simp [assignable]

/-- After one value was set, another one can be. -/
theorem set_succeeds_again (path_wellFormed : path.WellFormed)
    (unfiltered : ∀ fragment ∈ path.fragments, fragment.isFilter = false) (wellFormed : document.WellFormed)
    (isOrdered : value.WellFormed) {count : Nat} (succeeds : (path.set value document).outcome = .ok count)
    (other : Value) : ∃ count, (path.set other (path.set value document).document).outcome = .ok count := by
  have laterWellFormed : (path.set value document).document.WellFormed :=
    path.edit_wellFormed (.set value) isOrdered none () wellFormed
  have free := (set_eq_ok_iff path_wellFormed unfiltered wellFormed value).1 ⟨count, succeeds⟩
  refine (set_eq_ok_iff path_wellFormed unfiltered laterWellFormed value).2 ⟨free.1, ?_⟩
  intro obstacle
  have thorough := thorough_plan path_wellFormed unfiltered free.1 (.set value : Action Unit)
  rcases edit_eq_ok rfl succeeds with ⟨later, -, ran, isDocument⟩
  have free := @Plan.not_meets_after_start_run _ _ document obstacle wellFormed thorough isOrdered () (by rw [ran])
  rw [ran] at free
  rw [set, isDocument]
  exact free

/--
Setting a value along a path that was read and has no filters, and then another one, goes well if setting the first one
did, and so does setting the other one alone. Both leave the same document.
-/
theorem set_again {text : String} {path : Path} (parsed : Path.parse text = .ok path)
    (unfiltered : ∀ fragment ∈ path.fragments, fragment.isFilter = false) {document value other : Value}
    (wellFormed : document.WellFormed) (isOrdered : value.WellFormed) (isOrdered' : other.WellFormed) {count : Nat}
    (succeeds : (path.set value document).outcome = .ok count) :
    (∃ count, (path.set other (path.set value document).document).outcome = .ok count) ∧
      (∃ count, (path.set other document).outcome = .ok count) ∧
      (path.set other (path.set value document).document).document = (path.set other document).document := by
  have path_wellFormed := wellFormed_of_parse parsed
  have again := set_succeeds_again path_wellFormed unfiltered wellFormed isOrdered succeeds other
  have alone : ∃ count, (path.set other document).outcome = .ok count :=
    (set_eq_ok_iff path_wellFormed unfiltered wellFormed value).2
      ((set_eq_ok_iff path_wellFormed unfiltered wellFormed value).1 ⟨count, succeeds⟩)
  refine ⟨again, alone, ?_⟩
  rcases edit_eq_ok rfl succeeds with ⟨_, assignable, -, -⟩
  rcases (editable_steps path_wellFormed assignable).exists_unanchored with ⟨walked, unanchored⟩
  have level (isSome : (filler? path.steps).isSome = true) : ∀ step ∈ walked, step.isDescent = false :=
    fun step isIn => isDescent_of_filler? isSome step (unanchored.subset step isIn)
  rcases again with ⟨_, succeedsAgain⟩
  rcases alone with ⟨_, succeedsAlone⟩
  rcases exists_writes path_wellFormed unfiltered unanchored succeeds with ⟨prepared, first⟩
  rcases exists_writes path_wellFormed unfiltered unanchored succeedsAgain with ⟨_, second⟩
  rcases exists_writes path_wellFormed unfiltered unanchored succeedsAlone with ⟨other', single⟩
  have twice := first.again second unanchored.plain level
  have once := single.stored
  have samePlaces : other'.IsPicked walked [] = prepared.IsPicked walked [] := by
    funext target
    rw [eq_iff_iff, Value.isPicked_iff_isTarget unanchored.plain level single.filled,
      Value.isPicked_iff_isTarget unanchored.plain level first.filled]
  rw [samePlaces] at once
  have middleWellFormed : (path.set value document).document.WellFormed :=
    path.edit_wellFormed (.set value) isOrdered none () wellFormed
  refine Value.WellFormed.ext (path.edit_wellFormed (.set other) isOrdered' none () middleWellFormed)
    (path.edit_wellFormed (.set other) isOrdered' none () wellFormed) ?_
  exact twice.face_eq_of_face_eq once (first.filled.face_eq single.filled)

end Rewriting

/-- An array that has a first item, which has one too. -/
def arrayInArray : Value :=
  .array [.array [.integer 1], .integer 2]

theorem set_again_firstItems :
    Path.parse firstItems.text = .ok firstItems ∧
      (∀ fragment ∈ firstItems.fragments, fragment.isFilter = false) ∧ nestedItems.WellFormed ∧
      arrayInArray.WellFormed ∧ (Value.boolean true).WellFormed ∧
      (firstItems.set arrayInArray nestedItems).outcome = .ok 2 ∧
      (∃ count, (firstItems.set (.boolean true) (firstItems.set arrayInArray nestedItems).document).outcome =
        .ok count) ∧
      (∃ count, (firstItems.set (.boolean true) nestedItems).outcome = .ok count) ∧
      (firstItems.set (.boolean true) (firstItems.set arrayInArray nestedItems).document).document =
        (firstItems.set (.boolean true) nestedItems).document := by
  have parsed := parse_text_of_wellFormed firstItems_wellFormed
  have unfiltered := firstItems_unfiltered
  have wellFormed : nestedItems.WellFormed := by simp [nestedItems, Value.WellFormed, Value.WellFormedItems]
  have isOrdered : arrayInArray.WellFormed := by simp [arrayInArray, Value.WellFormed, Value.WellFormedItems]
  have isSet : (firstItems.set arrayInArray nestedItems).outcome = .ok 2 := by cbv
  have isOrdered' : (Value.boolean true).WellFormed := trivial
  exact ⟨parsed, unfiltered, wellFormed, isOrdered, isOrdered', isSet,
    set_again parsed unfiltered wellFormed isOrdered isOrdered' isSet⟩

end Path

end TreePath

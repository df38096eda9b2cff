import TreePath.Proofs.Edit.Following
import TreePath.Proofs.Edit.Running
import TreePath.Proofs.Query.Steps
import TreePath.Regex.Standard

/-!
# What edits leave behind

An edit along a path without filters that meets no obstacle leaves the document with all places overwritten that the
path picks in the unchanged document, except for those within others, and with nothing else changed.
-/

namespace TreePath

namespace Plan

variable {Memory : Type} {plan : Plan Memory} {lead : Nat} {start : Value}

namespace Resolves

variable {progress later : Progress Memory} {task : Task} {tasks more : List Task} {base : Value}
  {gaps changed : Location → Prop}

/-- Working off a task leaves an edit resolved. -/
theorem perform (regular : plan.Regular lead)
    (resolves : plan.Resolves lead start progress (task :: tasks) base gaps changed)
    (unwritten : progress.wrote task.location = false)
    (performed : plan.perform progress task = .ok (later, more)) :
    ∃ base' gaps' changed', plan.Resolves lead start later (more ++ tasks) base' gaps' changed' := by
  have inside : lead ≤ task.index := resolves.inside task List.mem_cons_self
  cases turn_of_perform performed with
  | beyond here =>
      have nothing : plan.steps.drop task.index = [] := List.drop_eq_nil_of_le (List.getElem?_eq_none_iff.1 here)
      refine ⟨base, gaps, changed, resolves.replace ?_ ?_ ?_ ?_⟩
      · simp
      · simp
      · simp
      · intro target _ awaits
        rw [Awaits, nothing] at awaits
        rcases awaits with (picked | ⟨_, _, _, _, _, _, isGap, _⟩) | ⟨_, _, _, _, isStep, _⟩
        · exact picked.elim
        · exact isGap.elim
        · cases isStep
  | root here => cases regular.plain_at inside here
  | current here => cases regular.plain_at inside here
  | descent here => exact ⟨base, gaps, changed, resolves.descend regular here⟩
  | absent here nothing =>
      have before : task.index < plan.steps.length := (List.getElem?_eq_some_iff.1 here).1
      refine ⟨base, gaps, changed, resolves.drop_of_closed regular before ?_⟩
      rw [Value.isContainerAt, nothing]
      rfl
  | finish here plain walks isLast found picked =>
      rcases resolves.finish regular unwritten here isLast found picked with ⟨changed', resolves'⟩
      exact ⟨base, gaps, changed', resolves'⟩
  | follow here plain walks inner found picked approached =>
      rcases resolves.follow regular unwritten here walks inner found picked approached with ⟨base', gaps', resolves'⟩
      exact ⟨base', gaps', changed, resolves'⟩

/-- An edit that ends without an obstacle leaves nothing awaited. -/
theorem run (regular : plan.Regular lead) {progress later : Progress Memory} {tasks : List Task} {base : Value}
    {gaps changed : Location → Prop} (resolves : plan.Resolves lead start progress tasks base gaps changed)
    (ran : plan.run progress tasks = (later, none)) :
    ∃ base' gaps' changed', plan.Resolves lead start later [] base' gaps' changed' := by
  have unfinished (count : Nat) : plan.isDone count = false := by rw [isDone, regular.unlimited]
  induction progress, tasks using Plan.run.induct plan generalizing base gaps changed with
  | case1 progress tasks isDone =>
      rw [unfinished] at isDone
      cases isDone
  | case2 progress _ =>
      rw [run_nil] at ran
      rcases Prod.mk.inj ran with ⟨rfl, -⟩
      exact ⟨base, gaps, changed, resolves⟩
  | case3 progress _ task tasks wrote ih =>
      rw [run_of_wrote (unfinished _) wrote] at ran
      exact ih (resolves.drop regular (resolves.within_of_wrote wrote)) ran
  | case4 progress _ task tasks unwritten obstacle performed =>
      rw [run_of_error (unfinished _) (Bool.eq_false_iff.2 unwritten) performed] at ran
      cases ran
  | case5 progress _ task tasks unwritten next more performed ih =>
      have unwritten := Bool.eq_false_iff.2 unwritten
      rw [run_of_ok (unfinished _) unwritten performed] at ran
      rcases resolves.perform regular unwritten performed with ⟨base', gaps', changed', resolves'⟩
      exact ih resolves' ran

theorem begin (document : Value) (memory : Memory) :
    plan.Resolves lead document (.start document memory) [⟨[], lead⟩] document (fun _ => False) fun _ => False := by
  constructor
  · exact .refl document _
  · exact .refl document _
  · exact fun _ isGap => isGap.elim
  · exact fun _ isChanged => isChanged.elim
  · intro target member
    cases member
  · exact fun _ _ _ isChanged => isChanged.elim
  · intro task member
    rcases List.mem_singleton.1 member with rfl
    exact Nat.le_refl lead
  · intro _ task member
    rcases List.mem_singleton.1 member with rfl
    exact Nat.zero_add lead
  · intro task member
    rcases List.mem_singleton.1 member with rfl
    exact .inr fun _ => id
  · intro target outermost
    exact .inr ⟨_, List.mem_singleton_self _, .inl outermost.1.1⟩

/-- In the end every gap was filled: the container in it was needed for what was stored there. -/
theorem gaps_of_isGap (regular : plan.Regular lead)
    (resolves : plan.Resolves lead start progress [] base gaps changed) (isSome : plan.filler.isSome = true)
    {gap : Location} (isGap : start.IsGap (plan.steps.drop lead) [] gap) : gaps gap := by
  have level := descends_of_filler isSome
  have isSet := isSet_of_filler isSome
  rcases Option.isSome_iff_exists.1 isSome with ⟨container, filled⟩
  have isFiller := filled
  rw [filler, isSet, if_pos rfl] at isFiller
  rcases Step.exists_segment_of_filler? isFiller with ⟨last, segment, isLast, -, isIn⟩
  have length := Value.IsGap.length_eq regular.plain (isDescent_eq_false level) isGap
  rw [List.length_drop, List.length_nil] at length
  have isEnd : (plan.steps.drop lead).getLast? = some last := by
    rw [List.getLast?_drop, if_neg (by omega), isLast]
  have isDue : plan.Due lead start (gap ++ [segment]) :=
    ⟨.inr ⟨container, last, gap, segment, filled, isEnd, isGap, isIn, rfl⟩, .inl isSet⟩
  have isOutermost : Outermost (plan.Due lead start) (gap ++ [segment]) := by
    refine ⟨isDue, ?_⟩
    intro other isDue' above
    apply above.eq_of_length
    have := isDue.1.length_eq regular level
    have := isDue'.1.length_eq regular level
    omega
  have isChanged := (resolves.complete _ isOutermost).resolve_right (by simp)
  have stored := resolves.edited.stored _
    ⟨isChanged, fun other isChanged' above => isOutermost.2 other (resolves.isDue other isChanged') above⟩
  have isThere : (progress.document.at? (gap ++ [segment])).isSome = true := by
    rw [stored]
    exact Action.isSome_result isSet _
  have container := Value.isContainerAt_of_below isThere
  have live : ¬ Within changed gap :=
    resolves.not_within isOutermost (List.prefix_append _ _) (by simp)
  rw [resolves.edited.isContainerAt_eq live] at container
  apply Classical.byContradiction
  intro unfilled
  rw [resolves.filled.isContainerAt_eq, isGap.isVacant.isContainerAt_eq_false] at container
  · cases container
  · intro within
    apply unfilled
    apply resolves.gaps_of_within regular _ within
    intro _
    omega

/-- The two layers in the end. -/
theorem overlays (regular : plan.Regular lead)
    (resolves : plan.Resolves lead start progress [] base gaps changed) :
    Overlay start base (fun gap => plan.filler.isSome = true ∧ start.IsGap (plan.steps.drop lead) [] gap)
        (fun _ => plan.filler) ∧
      Overlay base progress.document (plan.Due lead start) plan.action.result := by
  refine ⟨resolves.filled.congr resolves.isGap ?_, resolves.edited.congr resolves.isDue ?_⟩
  · rintro gap ⟨⟨isSome, isGap⟩, -⟩
    exact resolves.gaps_of_isGap regular isSome isGap
  · intro target outermost
    exact (resolves.complete target outermost).resolve_right (by simp)

end Resolves

theorem perform_anchor {progress : Progress Memory} {head : Step} (here : plan.steps[0]? = some head)
    (anchor : head.isAnchor = true) : plan.perform progress ⟨[], 0⟩ = .ok (progress, [⟨[], 1⟩]) := by
  rw [perform]
  cases head with
  | root => simp only [here]
  | current => simp only [here]
  | _ => cases anchor

/-- Following the anchor at the head of the steps is all that an edit does first. -/
theorem run_anchor {document : Value} {memory : Memory} {head : Step} (unlimited : plan.limit = none)
    (here : plan.steps[0]? = some head) (anchor : head.isAnchor = true) :
    plan.run (.start document memory) [⟨[], 0⟩] = plan.run (.start document memory) [⟨[], 1⟩] := by
  have unfinished (count : Nat) : plan.isDone count = false := by rw [isDone, unlimited]
  have unwritten : (Progress.start document memory).wrote [] = false := rfl
  exact run_of_ok (unfinished _) unwritten (perform_anchor here anchor)

/-- A run from the beginning that meets no obstacle. There may be an anchor at the head of the steps. -/
theorem overlays_of_run {document : Value} {memory : Memory} {later : Progress Memory} (regular : plan.Regular 1)
    (ran : plan.run (.start document memory) [⟨[], 0⟩] = (later, none)) :
    ∃ prepared, Overlay document prepared (fun gap => plan.filler.isSome = true ∧ document.IsGap plan.steps [] gap)
        (fun _ => plan.filler) ∧
      Overlay prepared later.document (plan.Due 0 document) plan.action.result := by
  rcases anchored_or_plain regular.plain with ⟨head, here, anchor⟩ | plain
  · rw [run_anchor regular.unlimited here anchor] at ran
    rcases (Resolves.begin document memory).run regular ran with ⟨prepared, gaps, changed, resolves⟩
    have layers := resolves.overlays regular
    have split : plan.steps = head :: plan.steps.drop 1 := drop_eq_cons here
    have editable : Editable plan.steps := ⟨regular.assignable, List.drop_one ▸ regular.plain⟩
    have more := editable.drop_one_ne_nil here anchor
    have isGap (gap : Location) :
        document.IsGap plan.steps [] gap ↔ document.IsGap (plan.steps.drop 1) [] gap := by
      rw [split]
      exact Value.isGap_anchor anchor
    have due : plan.Due 0 document = plan.Due 1 document := by
      funext target
      rw [Due, Due, Aims, Aims, List.drop_zero]
      conv => lhs; rw [split, Value.isTarget_anchor anchor more]
    simp only [isGap, due]
    exact ⟨prepared, layers⟩
  · have regular : plan.Regular 0 := { regular with plain := plain }
    rcases (Resolves.begin document memory).run regular ran with ⟨prepared, gaps, changed, resolves⟩
    exact ⟨prepared, resolves.overlays regular⟩

end Plan

/-! ## Paths -/

namespace Path

section Settling

variable [RegexSyntax] {Memory : Type} {path : Path} {action : Action Memory} {memory : Memory} {document : Value}

theorem descends_plan {limit : Option Nat} :
    (path.plan action limit).descends = path.fragments.any Fragment.isDescent :=
  any_isDescent_steps

theorem descends_plan_eq_false {limit : Option Nat} (level : ∀ fragment ∈ path.fragments, fragment.isDescent = false) :
    (path.plan action limit).descends = false := by
  rw [descends_plan, List.any_eq_false]
  exact fun fragment isIn => Bool.eq_false_iff.1 (level fragment isIn)

theorem regular_plan (wellFormed : path.WellFormed)
    (unfiltered : ∀ fragment ∈ path.fragments, fragment.isFilter = false) (simple : action.isModify = false)
    (assignable : ∀ target ∈ path.fragments.getLast?, target.isAssignable = true) :
    (path.plan action none).Regular 1 := by
  constructor
  · exact simple
  · rfl
  · exact unfiltered_steps unfiltered
  · exact assignable_steps assignable
  · exact (editable_steps wellFormed assignable).plain_drop 0

/-- An edit other than a modification that succeeds has run to its end. -/
theorem edit_eq_ok {limit : Option Nat} {count : Nat} (simple : action.isModify = false)
    (succeeds : (path.edit action limit memory document).outcome = .ok count) :
    ∃ later, (∀ target ∈ path.fragments.getLast?, target.isAssignable = true) ∧
      (path.plan action limit).run (.start document memory) [⟨[], 0⟩] = (later, none) ∧
      (path.edit action limit memory document).document = later.document := by
  cases isLast : path.fragments.getLast? with
  | none =>
      simp only [edit, isLast] at succeeds
      cases succeeds
  | some target =>
      have runs : path.edit action limit memory document =
          if target.isAssignable then path.runEdit action limit memory document
          else ⟨document, memory, .error (.invalidTarget action.operation target.kindName)⟩ := by
        cases action with
        | modify answer => cases simple
        | _ => simp only [edit, isLast]
      rw [runs] at succeeds ⊢
      by_cases assignable : target.isAssignable = true
      · rw [if_pos assignable] at succeeds ⊢
        refine ⟨_, ?_, Prod.ext rfl ?_, rfl⟩
        · rintro _ ⟨⟩
          exact assignable
        · rw [runEdit] at succeeds
          simp only at succeeds
          split at succeeds
          · cases succeeds
          · assumption
      · rw [if_neg assignable] at succeeds
        cases succeeds

theorem overlays_of_edit {count : Nat} (wellFormed : path.WellFormed)
    (unfiltered : ∀ fragment ∈ path.fragments, fragment.isFilter = false) (simple : action.isModify = false)
    (succeeds : (path.edit action none memory document).outcome = .ok count) :
    ∃ prepared, Overlay document prepared
        (fun gap => (path.plan action none).filler.isSome = true ∧ document.IsGap path.steps [] gap)
        (fun _ => (path.plan action none).filler) ∧
      Overlay prepared (path.edit action none memory document).document
        ((path.plan action none).Due 0 document) action.result := by
  rcases edit_eq_ok simple succeeds with ⟨later, assignable, ran, isDocument⟩
  rw [isDocument]
  exact Plan.overlays_of_run (regular_plan wellFormed unfiltered simple assignable) ran

/--
Setting and deleting along a path that was read and has no filters. If all goes well, the value stands at every
outermost location that the path picks in the unchanged document, after the gaps in it were filled, or the values that
exist at such locations are gone. Nothing else is changed.
-/
theorem overlay_of_set_and_delete {text : String} {path : Path} (parsed : Path.parse text = .ok path)
    (unfiltered : ∀ fragment ∈ path.fragments, fragment.isFilter = false) (document value : Value) :
    (∀ count, (path.set value document).outcome = .ok count →
      ∃ prepared,
        Overlay document prepared
          (fun gap => (filler? path.steps).isSome = true ∧ document.IsGap path.steps [] gap)
          (fun _ => filler? path.steps) ∧
        Overlay prepared (path.set value document).document
          (document.IsTarget (filler? path.steps) path.steps []) (fun _ => some value)) ∧
      ∀ count, (path.delete document).outcome = .ok count →
        Overlay document (path.delete document).document
          (fun target => document.IsPicked path.steps [] target ∧ (document.at? target).isSome = true)
          (fun target => target.getLast?.bind Value.leftover) := by
  have wellFormed := wellFormed_of_parse parsed
  constructor
  · intro count succeeds
    rcases overlays_of_edit wellFormed unfiltered rfl succeeds with ⟨prepared, filled, edited⟩
    refine ⟨prepared, filled, edited.congr ?_ ?_⟩
    · intro target isDue
      exact isDue.1
    · intro target outermost
      exact ⟨outermost.1, .inl rfl⟩
  · intro count succeeds
    rcases overlays_of_edit wellFormed unfiltered rfl succeeds with ⟨prepared, filled, edited⟩
    have noFiller : (path.plan (Action.delete : Action Unit) none).filler = none := rfl
    have same : prepared = document := by
      have untouched := filled.same []
      rw [noFiller] at untouched
      apply Option.some.inj
      apply untouched
      rintro _ ⟨isSome, -⟩
      cases isSome
    rw [same] at edited
    apply edited.congr
    · rintro target ⟨isTarget | ⟨_, _, _, _, isFiller, _⟩, isSet | isThere⟩
      · cases isSet
      · exact ⟨isTarget, isThere⟩
      · cases isSet
      · cases isFiller
    · intro target outermost
      exact ⟨.inl outermost.1.1, .inr outermost.1.2⟩

end Settling

/-- The path to the first items of all arrays. -/
def firstItems : Path where
  fragments := [.root, .descent, .nth 0]

theorem firstItems_wellFormed : firstItems.WellFormed :=
  ⟨by simp [firstItems, Fragment.WellFormed], by simp [firstItems, Fragment.isAnchor]⟩

theorem firstItems_unfiltered : ∀ fragment ∈ firstItems.fragments, fragment.isFilter = false := by
  simp [firstItems, Fragment.isFilter]

/-- A document in which one first item lies within another one. -/
def nestedItems : Value :=
  .array [.array [.null], .array [.null]]

theorem overlay_of_set_and_delete_firstItems :
    Path.parse firstItems.text = .ok firstItems ∧
      (∀ fragment ∈ firstItems.fragments, fragment.isFilter = false) ∧
      (firstItems.set (.array []) nestedItems).outcome = .ok 2 ∧
      (∃ prepared,
        Overlay nestedItems prepared
          (fun gap => (filler? firstItems.steps).isSome = true ∧ nestedItems.IsGap firstItems.steps [] gap)
          (fun _ => filler? firstItems.steps) ∧
        Overlay prepared (firstItems.set (.array []) nestedItems).document
          (nestedItems.IsTarget (filler? firstItems.steps) firstItems.steps [])
          (fun _ => some (.array []))) ∧
      (firstItems.delete nestedItems).outcome = .ok 2 ∧
      Overlay nestedItems (firstItems.delete nestedItems).document
        (fun target => nestedItems.IsPicked firstItems.steps [] target ∧
          (nestedItems.at? target).isSome = true)
        (fun target => target.getLast?.bind Value.leftover) := by
  have parsed := parse_text_of_wellFormed firstItems_wellFormed
  have unfiltered := firstItems_unfiltered
  have isSet : (firstItems.set (.array []) nestedItems).outcome = .ok 2 := by cbv
  have isDeleted : (firstItems.delete nestedItems).outcome = .ok 2 := by cbv
  have overlays := overlay_of_set_and_delete parsed unfiltered nestedItems (.array [])
  exact ⟨parsed, unfiltered, isSet, overlays.1 2 isSet, isDeleted, overlays.2 2 isDeleted⟩

end Path

end TreePath

import TreePath.Proofs.Path.RoundTrip

/-!
# The steps of a path

Fragment by fragment a path has its steps, each of the kind of its fragment: what holds of all fragments holds of all
steps. If a path can be written to, its steps are `Editable`. They may begin with an anchor, which stays at the root, and
there is none behind it.
-/

namespace TreePath

/-! ## Anchors -/

section Anchors

variable {step : Step} {steps : List Step}

theorem isDescent_of_isAnchor (anchor : step.isAnchor = true) : step.isDescent = false := by
  cases step <;> first | rfl | cases anchor

theorem pick_of_isAnchor (anchor : step.isAnchor = true) (document : Value) :
    step.pick document document = [document] := by
  cases step <;> first | rfl | cases anchor

theorem isDescent_of_isAssignable (assignable : step.isAssignable = true) :
    step.isDescent = false ∧ step.isAnchor = false := by
  cases step <;> first | exact ⟨rfl, rfl⟩ | cases assignable

theorem ne_descent (walks : step.isDescent = false) : step ≠ .descent := by
  rintro rfl
  cases walks

theorem anchored_or_plain (plain : ∀ step ∈ steps.drop 1, step.isAnchor = false) :
    (∃ head, steps[0]? = some head ∧ head.isAnchor = true) ∨ ∀ step ∈ steps, step.isAnchor = false := by
  cases steps with
  | nil => exact .inr (List.forall_mem_nil _)
  | cons head rest =>
      by_cases anchor : head.isAnchor = true
      · exact .inl ⟨head, rfl, anchor⟩
      · right
        intro step member
        rcases List.mem_cons.1 member with rfl | later
        · exact Bool.eq_false_iff.2 anchor
        · exact plain step later

end Anchors

/-! ## Steps that an edit can follow -/

/-- Steps that an edit can follow: the last one can be written to, and none but the first is an anchor. -/
structure Editable (steps : List Step) : Prop where
  assignable : ∀ last ∈ steps.getLast?, last.isAssignable = true
  plain : ∀ step ∈ steps.tail, step.isAnchor = false

namespace Editable

variable {steps : List Step}

theorem plain_drop (editable : Editable steps) (index : Nat) :
    ∀ step ∈ steps.drop (index + 1), step.isAnchor = false := by
  intro step member
  apply editable.plain step
  rw [← List.drop_one]
  exact List.drop_subset_drop_left steps (Nat.le_add_left 1 index) member

theorem drop_one_ne_nil (editable : Editable steps) {head : Step} (here : steps[0]? = some head)
    (anchor : head.isAnchor = true) : steps.drop 1 ≠ [] := by
  intro alone
  cases steps with
  | nil => cases here
  | cons step rest =>
      rcases Option.some.inj here with rfl
      rw [List.drop_one, List.tail_cons] at alone
      have isLast : step ∈ (step :: rest).getLast? := by
        rw [alone]
        rfl
      rw [(isDescent_of_isAssignable (editable.assignable step isLast)).2] at anchor
      cases anchor

theorem assignable_drop (editable : Editable steps) {index : Nat} (more : steps.drop index ≠ []) :
    ∀ last ∈ (steps.drop index).getLast?, last.isAssignable = true := by
  intro last isLast
  rw [Ne, List.drop_eq_nil_iff] at more
  rw [List.getLast?_drop, if_neg more] at isLast
  exact editable.assignable last isLast

end Editable

/-! ## From fragments to steps -/

variable [RegexSyntax]

theorem stepsOf_eq_map (fragments : List (Fragment Script)) : stepsOf fragments = fragments.map stepOf := by
  induction fragments with
  | nil => rfl
  | cons fragment fragments ih => rw [stepsOf, ih, List.map_cons]

theorem isFilter_stepOf (fragment : Fragment Script) : (stepOf fragment).isFilter = fragment.isFilter := by
  cases fragment <;> rfl

theorem isAnchor_stepOf (fragment : Fragment Script) : (stepOf fragment).isAnchor = fragment.isAnchor := by
  cases fragment <;> rfl

theorem isDescent_stepOf (fragment : Fragment Script) : (stepOf fragment).isDescent = fragment.isDescent := by
  cases fragment <;> rfl

theorem isAssignable_stepOf (fragment : Fragment Script) :
    (stepOf fragment).isAssignable = fragment.isAssignable := by
  cases fragment <;> rfl

namespace Path

variable {path : Path}

theorem mem_steps {step : Step} : step ∈ path.steps ↔ ∃ fragment ∈ path.fragments, stepOf fragment = step := by
  rw [steps, stepsOf_eq_map, List.mem_map]

theorem forall_mem_steps {holds : Step → Prop} :
    (∀ step ∈ path.steps, holds step) ↔ ∀ fragment ∈ path.fragments, holds (stepOf fragment) := by
  rw [steps, stepsOf_eq_map, List.forall_mem_map]

theorem getElem?_steps (k : Nat) : path.steps[k]? = path.fragments[k]?.map stepOf := by
  rw [steps, stepsOf_eq_map, List.getElem?_map]

theorem getLast?_steps : path.steps.getLast? = path.fragments.getLast?.map stepOf := by
  rw [steps, stepsOf_eq_map, List.getLast?_map]

theorem length_steps : path.steps.length = path.length := by
  rw [steps, stepsOf_eq_map, List.length_map, length]

theorem countP_isDescent_steps : path.steps.countP Fragment.isDescent = path.fragments.countP Fragment.isDescent := by
  rw [steps, stepsOf_eq_map, List.countP_map]
  exact congrArg (List.countP · _) (funext isDescent_stepOf)

theorem any_isDescent_steps : path.steps.any Fragment.isDescent = path.fragments.any Fragment.isDescent := by
  rw [steps, stepsOf_eq_map, List.any_map]
  exact congrArg (List.any _ ·) (funext isDescent_stepOf)

theorem unfiltered_steps (unfiltered : ∀ fragment ∈ path.fragments, fragment.isFilter = false) :
    ∀ step ∈ path.steps, step.isFilter = false :=
  forall_mem_steps.2 fun fragment isIn => (isFilter_stepOf fragment).trans (unfiltered fragment isIn)

theorem level_steps (level : ∀ fragment ∈ path.fragments, fragment.isDescent = false) :
    ∀ step ∈ path.steps, step.isDescent = false :=
  forall_mem_steps.2 fun fragment isIn => (isDescent_stepOf fragment).trans (level fragment isIn)

theorem plain_tail_steps (wellFormed : path.WellFormed) : ∀ step ∈ path.steps.tail, step.isAnchor = false := by
  rw [steps, stepsOf_eq_map, ← List.map_tail, List.forall_mem_map]
  exact fun fragment isIn => (isAnchor_stepOf fragment).trans (wellFormed.2 fragment isIn)

theorem assignable_steps (assignable : ∀ target ∈ path.fragments.getLast?, target.isAssignable = true) :
    ∀ last ∈ path.steps.getLast?, last.isAssignable = true := by
  rw [getLast?_steps]
  intro last isLast
  rcases Option.map_eq_some_iff.1 isLast with ⟨target, isTarget, rfl⟩
  exact (isAssignable_stepOf target).trans (assignable target isTarget)

theorem editable_steps (wellFormed : path.WellFormed)
    (assignable : ∀ target ∈ path.fragments.getLast?, target.isAssignable = true) : Editable path.steps :=
  ⟨assignable_steps assignable, plain_tail_steps wellFormed⟩

end Path

end TreePath

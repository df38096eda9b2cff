import TreePath.Proofs.Query.Composition

/-!
# What holds throughout a document

A condition holds throughout a value if it holds for the value and for all values in it, at any depth. Steps find nothing
but values in the document or in the node where they start, so whatever they find satisfies throughout what those do.
-/

namespace TreePath

namespace Value

/-- Whether a value is neither infinite nor not-a-number. Nothing is asked of the values in it. -/
def isFinite : Value → Bool
  | float x => x.isFinite
  | _ => true

/-- All values in a value, itself included, satisfy a condition. -/
def Throughout (condition : Value → Bool) (value : Value) : Prop :=
  ∀ part ∈ value.preorder, condition part = true

variable {condition : Value → Bool} {value : Value}

instance : Decidable (value.Throughout condition) :=
  inferInstanceAs (Decidable (∀ part ∈ value.preorder, condition part = true))

theorem throughout_iff :
    value.Throughout condition ↔ condition value = true ∧ ∀ child ∈ value.children, child.Throughout condition := by
  rw [Throughout, preorder_eq, List.forall_mem_cons, List.forall_mem_flatMap]
  exact Iff.rfl

theorem throughout_of_scalar (scalar : value.isContainer = false) :
    value.Throughout condition ↔ condition value = true := by
  rw [Throughout, preorder_of_scalar scalar]
  simp

theorem Throughout.of_mem_children (everywhere : value.Throughout condition) {child : Value}
    (member : child ∈ value.children) : child.Throughout condition :=
  (throughout_iff.1 everywhere).2 child member

theorem Throughout.of_mem_preorder (everywhere : value.Throughout condition) {part : Value}
    (member : part ∈ value.preorder) : part.Throughout condition := by
  induction value using induction_children with
  | holds value ih =>
      rw [preorder_eq, List.mem_cons, List.mem_flatMap] at member
      rcases member with rfl | ⟨child, isChild, below⟩
      · exact everywhere
      · exact ih child isChild (everywhere.of_mem_children isChild) below

end Value

theorem Selector.mem_children_of_pick? {selector : Selector} {node found : Value}
    (picked : selector.pick? node = some found) : found ∈ node.children := by
  unfold pick? at picked
  split at picked
  · rename_i name members
    have isChild : (Value.object members).child? (.field name) = some found := picked
    exact Value.mem_children_of_child? isChild
  · rcases Option.bind_eq_some_iff.1 picked with ⟨i, -, isItem⟩
    exact List.mem_of_getElem? isItem
  · cases picked

/-- What one step finds is the root, the node, or a child of the node. -/
theorem Step.eq_or_mem_children_of_mem_pick {root node found : Value} {step : Step}
    (picked : found ∈ step.pick root node) : found = root ∨ found = node ∨ found ∈ node.children := by
  cases step with
  | root => exact .inl (List.mem_singleton.1 picked)
  | current => exact .inr (.inl (List.mem_singleton.1 picked))
  | descent => exact .inr (.inl (List.mem_singleton.1 picked))
  | child name => exact .inr (.inr (Selector.mem_children_of_pick? (Option.mem_toList.1 picked)))
  | nth i => exact .inr (.inr (Selector.mem_children_of_pick? (Option.mem_toList.1 picked)))
  | wildcard => exact .inr (.inr picked)
  | slice start stop step =>
      cases node with
      | array items =>
          rcases List.mem_filterMap.1 picked with ⟨i, -, isItem⟩
          exact .inr (.inr (List.mem_of_getElem? isItem))
      | _ => cases picked
  | union selectors =>
      rcases List.mem_filterMap.1 picked with ⟨selector, -, isPick⟩
      exact .inr (.inr (Selector.mem_children_of_pick? isPick))
  | filter test => exact .inr (.inr (List.mem_of_mem_filter picked))

theorem Value.Throughout.of_mem_findings {condition : Value → Bool} {root : Value} (everywhere : root.Throughout condition)
    {steps : List Step} {node : Value} (here : node.Throughout condition) {found : Value}
    (isFound : found ∈ findings root steps node) : found.Throughout condition := by
  induction steps generalizing node with
  | nil => cases isFound
  | cons step pending ih =>
      by_cases descent : step = .descent
      · subst descent
        cases pending with
        | nil => exact here.of_mem_preorder isFound
        | cons next rest =>
            have isFound : found ∈ node.spread (findings root (next :: rest)) := isFound
            rw [Value.spread_eq_preorder] at isFound
            rcases List.mem_append.1 isFound with isFound | isFound
            · exact ih here isFound
            · rcases List.mem_flatMap.1 isFound with ⟨part, isPart, isFound⟩
              have below := List.mem_of_mem_tail (List.mem_of_mem_filter isPart)
              exact ih (here.of_mem_preorder below) isFound
      · have picks : ∀ mid ∈ step.pick root node, mid.Throughout condition := by
          intro mid picked
          rcases Step.eq_or_mem_children_of_mem_pick picked with rfl | rfl | isChild
          · exact everywhere
          · exact here
          · exact here.of_mem_children isChild
        cases pending with
        | nil =>
            rw [findings_last root node descent] at isFound
            exact picks found isFound
        | cons next rest =>
            rw [findings_cons root node descent (List.cons_ne_nil next rest)] at isFound
            rcases List.mem_flatMap.1 isFound with ⟨mid, isMid, isFound⟩
            exact ih (picks mid isMid) isFound

end TreePath

import TreePath.Proofs.Edit.Outcome
import TreePath.Proofs.Query.Sites
import TreePath.Regex.Standard

/-!
# Paths in a row

To go on from the matches of one path along another is to follow the fragments of both in a row. The walk passes over
scalars below a descent that something follows, so this asks that nothing is found from a scalar. Steps other than
anchors find nothing there unless all of them are descents, and so the law fails only where a descent at the
end of the first path meets a second path of nothing but descents. `findings_append` and
`findings_append_descents` are the two cases.
-/

namespace TreePath

variable {root : Value}

/-- What yields nothing can be left out. -/
theorem flatMap_filter_of_nil {α β : Type} {keep : α → Bool} {f : α → List β} {values : List α}
    (nothing : ∀ value, keep value = false → f value = []) : (values.filter keep).flatMap f = values.flatMap f := by
  induction values with
  | nil => rfl
  | cons value values ih =>
      cases kept : keep value with
      | true => rw [List.filter_cons_of_pos kept, List.flatMap_cons, List.flatMap_cons, ih]
      | false =>
          rw [List.filter_cons_of_neg (by simp [kept]), List.flatMap_cons, nothing value kept, ih]
          rfl

namespace Value

theorem children_eq_nil {value : Value} (scalar : value.isContainer = false) : value.children = [] := by
  cases value with
  | array items => cases scalar
  | object members => cases scalar
  | _ => rfl

theorem preorder_of_scalar {value : Value} (scalar : value.isContainer = false) : value.preorder = [value] := by
  rw [preorder_eq, children_eq_nil scalar, List.flatMap_nil]

/-- A descent with something after it goes on from the value itself and from the containers below it. -/
theorem spread_eq_preorder {α : Type} (f : Value → List α) (value : Value) :
    value.spread f = f value ++ (value.preorder.tail.filter isContainer).flatMap f := by
  induction value using induction_children with
  | holds value ih =>
      have onContainers : ∀ child ∈ value.children.filter isContainer,
          child.spread f = (child.preorder.filter isContainer).flatMap f := by
        intro child isChild
        rcases List.mem_filter.1 isChild with ⟨isChild, container⟩
        rw [ih child isChild, preorder_eq, List.tail_cons, List.filter_cons_of_pos container, List.flatMap_cons]
      have onScalars : ∀ child : Value, child.isContainer = false →
          (child.preorder.filter isContainer).flatMap f = [] := by
        intro child scalar
        rw [preorder_of_scalar scalar, List.filter_cons_of_neg (by simp [scalar])]
        rfl
      rw [spread_eq, List.flatMap_congr onContainers, flatMap_filter_of_nil onScalars, preorder_eq, List.tail_cons,
        List.filter_flatMap, List.flatMap_assoc]

/-- From a container, a descent with something after it goes on from the containers that it finds. -/
theorem spread_eq_of_isContainer {α : Type} (f : Value → List α) {value : Value}
    (container : value.isContainer = true) :
    value.spread f = (value.preorder.filter isContainer).flatMap f := by
  rw [spread_eq_preorder, preorder_eq, List.tail_cons, List.filter_cons_of_pos container, List.flatMap_cons]

end Value

/-! ## From a scalar -/

theorem Step.isDescent_of_ne {step : Step} (walks : step ≠ .descent) : step.isDescent = false := by
  cases step with
  | descent => exact absurd rfl walks
  | _ => rfl

/-- A step that moves on from where it is finds nothing in a scalar. -/
theorem Step.pick_eq_nil {step : Step} {node : Value} (scalar : node.isContainer = false)
    (unanchored : step.isAnchor = false) (walks : step.isDescent = false) : step.pick root node = [] := by
  have childless := Value.children_eq_nil scalar
  have picks (selector : Selector) : selector.pick? node = none := by
    cases selector <;> cases node <;> first | rfl | cases scalar
  cases step with
  | root => cases unanchored
  | current => cases unanchored
  | descent => cases walks
  | child name => simp [pick, picks]
  | nth i => simp [pick, picks]
  | wildcard => exact childless
  | slice start stop step =>
      cases node with
      | array items => cases scalar
      | _ => rfl
  | union selectors => simp [pick, picks]
  | filter test => simp [pick, childless]

/-- Steps of which not all are descents find nothing from a scalar. -/
theorem findings_eq_nil {steps : List Step} {node : Value} (scalar : node.isContainer = false)
    (unanchored : ∀ step ∈ steps, step.isAnchor = false) (walks : ∃ step ∈ steps, step.isDescent = false) :
    findings root steps node = [] := by
  induction steps with
  | nil => rfl
  | cons step pending ih =>
      by_cases descent : step = .descent
      · subst descent
        rcases walks with ⟨other, member, isOther⟩
        rcases List.mem_cons.1 member with rfl | later
        · cases isOther
        · have more : pending ≠ [] := List.ne_nil_of_mem later
          rw [findings_descent root node more, Value.children_eq_nil scalar,
            ih (fun step isIn => unanchored step (List.mem_cons_of_mem _ isIn)) ⟨other, later, isOther⟩]
          rfl
      · have nothing : step.pick root node = [] :=
          Step.pick_eq_nil scalar (unanchored step List.mem_cons_self) (Step.isDescent_of_ne descent)
        cases pending with
        | nil => rw [findings_last root node descent, nothing]
        | cons next rest =>
            rw [findings_cons root node descent (List.cons_ne_nil next rest), nothing, List.flatMap_nil]

/-- Descents alone find a scalar itself, and that once. -/
theorem findings_descents_of_scalar {steps : List Step} {node : Value} (scalar : node.isContainer = false)
    (more : steps ≠ []) (descents : ∀ step ∈ steps, step = .descent) : findings root steps node = [node] := by
  induction steps with
  | nil => exact absurd rfl more
  | cons step pending ih =>
      rcases descents step List.mem_cons_self with rfl
      cases pending with
      | nil => rw [findings_last_descent, Value.children_eq_nil scalar, List.flatMap_nil]
      | cons next rest =>
          have isIn := ih (List.cons_ne_nil next rest) fun step isIn => descents step (List.mem_cons_of_mem _ isIn)
          rw [findings_descent root node (List.cons_ne_nil next rest), Value.children_eq_nil scalar, isIn]
          rfl

/-! ## In a row -/

/-- What a descent finds with something after it, in terms of what both find. -/
theorem findings_descent_eq_spread {pending : List Step} (more : pending ≠ []) :
    findings root (.descent :: pending) = Value.spread (findings root pending) := by
  cases pending with
  | nil => exact absurd rfl more
  | cons next rest => rfl

theorem findings_descent_eq_preorder : findings root [.descent] = Value.preorder := rfl

/-- Steps in a row find what the second ones find from each finding of the first ones. -/
theorem findings_append {first second : List Step} (starts : first ≠ []) (goesOn : second ≠ [])
    (passes : (∀ last ∈ first.getLast?, last ≠ .descent) ∨
      ∀ node : Value, node.isContainer = false → findings root second node = []) (node : Value) :
    findings root (first ++ second) node = (findings root first node).flatMap (findings root second) := by
  induction first generalizing node with
  | nil => exact absurd rfl starts
  | cons step pending ih =>
      by_cases isLast : pending = []
      · subst isLast
        by_cases descent : step = .descent
        · subst descent
          have nothing := passes.resolve_left fun plain => plain .descent rfl rfl
          rw [List.singleton_append, findings_descent_eq_spread goesOn, findings_descent_eq_preorder,
            Value.spread_eq_preorder, Value.preorder_eq, List.tail_cons, List.flatMap_cons,
            flatMap_filter_of_nil nothing]
        · rw [List.singleton_append, findings_cons root node descent goesOn, findings_last root node descent]
      · have later : pending ++ second ≠ [] := by simp [goesOn]
        have rest := ih isLast (passes.imp_left fun plain last isIn => plain last (by
          rwa [List.getLast?_cons_of_ne_nil isLast]))
        by_cases descent : step = .descent
        · subst descent
          have same : findings root (pending ++ second) = fun node =>
              (findings root pending node).flatMap (findings root second) := funext rest
          rw [List.cons_append, findings_descent_eq_spread later, findings_descent_eq_spread isLast,
            Value.spread_eq_preorder, Value.spread_eq_preorder, List.flatMap_append, List.flatMap_assoc, same]
        · rw [List.cons_append, findings_cons root node descent later, findings_cons root node descent isLast,
            List.flatMap_assoc]
          exact List.flatMap_congr fun child _ => rest child

/-- From a container, descents with something after them go on from the containers that they find. -/
theorem findings_descents_append {first second : List Step} (starts : first ≠ []) (goesOn : second ≠ [])
    (descents : ∀ step ∈ first, step = .descent) {node : Value} (container : node.isContainer = true) :
    findings root (first ++ second) node =
      ((findings root first node).filter Value.isContainer).flatMap (findings root second) := by
  induction first generalizing node with
  | nil => exact absurd rfl starts
  | cons step pending ih =>
      rcases descents step List.mem_cons_self with rfl
      by_cases isLast : pending = []
      · subst isLast
        rw [List.singleton_append, findings_descent_eq_spread goesOn, findings_descent_eq_preorder,
          Value.spread_eq_of_isContainer _ container]
      · have later : pending ++ second ≠ [] := by simp [goesOn]
        rw [List.cons_append, findings_descent_eq_spread later, findings_descent_eq_spread isLast,
          Value.spread_eq_of_isContainer _ container, Value.spread_eq_of_isContainer _ container,
          List.filter_flatMap, List.flatMap_assoc]
        apply List.flatMap_congr
        intro below isBelow
        exact ih isLast (fun step isIn => descents step (List.mem_cons_of_mem _ isIn)) (by
          simpa using (List.mem_filter.1 isBelow).2)

/-! ## Paths -/

namespace Path

section Appending

variable [RegexSyntax]

/-- A path, and then another one from where it ends. -/
def append (first second : Path) : Path where
  fragments := first.fragments ++ second.fragments

variable {first second : Path} {document : Value}

/-- What a path finds from a node is what its steps find. -/
theorem collect_none_eq (path : Path) (root : Value) :
    collect root none path.steps = TreePath.findings root path.steps :=
  funext (collect_eq root none path.steps)

theorem steps_append : (first.append second).steps = first.steps ++ second.steps := by
  rw [steps, steps, steps, stepsOf_eq_map, stepsOf_eq_map, stepsOf_eq_map, append, List.map_append]

theorem steps_ne_nil {path : Path} (more : path.fragments ≠ []) : path.steps ≠ [] := by
  rw [steps, stepsOf_eq_map]
  exact fun isNil => more (List.map_eq_nil_iff.1 isNil)

theorem stepOf_eq_descent {fragment : Fragment Script} : stepOf fragment = .descent ↔ fragment.isDescent = true := by
  cases fragment <;> simp [stepOf, Fragment.isDescent]

/-- The matches of paths in a row, if nothing stands in the way. -/
theorem get_append_of_passes (starts : first.fragments ≠ []) (goesOn : second.fragments ≠ [])
    (unanchored : ∀ fragment ∈ second.fragments, fragment.isAnchor = false)
    (passes : (∀ last ∈ first.fragments.getLast?, last.isDescent = false) ∨
      ∃ fragment ∈ second.fragments, fragment.isDescent = false) :
    (first.append second).get document = (first.get document).flatMap (collect document none second.steps) := by
  rw [get, get, collect_none_eq, collect_none_eq, collect_none_eq, steps_append]
  refine findings_append (steps_ne_nil starts) (steps_ne_nil goesOn) ?_ document
  refine passes.imp ?_ ?_
  · intro plain last isLast isDescent
    rw [getLast?_steps] at isLast
    rcases Option.map_eq_some_iff.1 isLast with ⟨fragment, isEnd, rfl⟩
    rw [stepOf_eq_descent, plain fragment isEnd] at isDescent
    cases isDescent
  · rintro ⟨fragment, isIn, walks⟩ node scalar
    refine findings_eq_nil scalar ?_ ⟨stepOf fragment, mem_steps.2 ⟨fragment, isIn, rfl⟩, by rwa [isDescent_stepOf]⟩
    intro step member
    rcases mem_steps.1 member with ⟨other, isOther, rfl⟩
    rw [isAnchor_stepOf]
    exact unanchored other isOther

/-- The matches of descents in a row from a node. -/
theorem findings_append_of_descents (starts : first.fragments ≠ []) (goesOn : second.fragments ≠ [])
    (descents : ∀ fragment ∈ (first.append second).fragments, fragment.isDescent = true) (node : Value) :
    TreePath.findings document (first.append second).steps node =
      if node.isContainer then
        ((TreePath.findings document first.steps node).filter Value.isContainer).flatMap
          (TreePath.findings document second.steps)
      else [node] := by
  have allDescents : ∀ step ∈ (first.append second).steps, step = .descent := by
    intro step member
    rcases mem_steps.1 member with ⟨fragment, isIn, rfl⟩
    exact stepOf_eq_descent.2 (descents fragment isIn)
  cases container : node.isContainer with
  | true =>
      rw [if_pos rfl, steps_append]
      refine findings_descents_append (steps_ne_nil starts) (steps_ne_nil goesOn) ?_ container
      intro step member
      apply allDescents
      rw [steps_append]
      exact List.mem_append_left _ member
  | false =>
      rw [if_neg (by simp)]
      refine findings_descents_of_scalar container ?_ allDescents
      rw [steps_append]
      simp [steps_ne_nil starts]

/--
The matches of one path after another are those of the second path from each match of the first one, in order. This
fails only where descents at the end of the first path are followed by nothing but descents: then a scalar that the path
before these descents ends at is a match, but from a container one goes on from the containers alone that the descents
at the end find in it.
-/
theorem get_append {first second : Path} (starts : first.fragments ≠ []) (goesOn : second.fragments ≠ [])
    (unanchored : ∀ fragment ∈ second.fragments, fragment.isAnchor = false) (document : Value) :
    ((∀ last ∈ first.fragments.getLast?, last.isDescent = false) ∨
        (∃ fragment ∈ second.fragments, fragment.isDescent = false) →
      (first.append second).get document = (first.get document).flatMap (collect document none second.steps)) ∧
    ∀ front back : Path, first = front.append back → back.fragments ≠ [] →
      (∀ last ∈ front.fragments.getLast?, last.isDescent = false) →
      (∀ fragment ∈ (back.append second).fragments, fragment.isDescent = true) →
      (first.append second).get document =
        (if front.isEmpty then [document] else front.get document).flatMap fun node =>
          if node.isContainer then
            ((collect document none back.steps node).filter Value.isContainer).flatMap
              (collect document none second.steps)
          else [node] := by
  refine ⟨get_append_of_passes starts goesOn unanchored, ?_⟩
  rintro front back rfl ends plain descents
  have inARow : collect document none (back.append second).steps = fun node =>
      if node.isContainer then
        ((collect document none back.steps node).filter Value.isContainer).flatMap (collect document none second.steps)
      else [node] := by
    rw [collect_none_eq, collect_none_eq, collect_none_eq]
    exact funext (findings_append_of_descents ends goesOn descents)
  have regrouped : (front.append back).append second = front.append (back.append second) := by
    rw [append, append, append, append, List.append_assoc]
  rw [regrouped, ← inARow]
  cases isEmpty : front.isEmpty with
  | true =>
      have nothing : front.fragments = [] := List.isEmpty_iff.1 isEmpty
      have alone : front.append (back.append second) = back.append second := by rw [append, nothing]; rfl
      rw [alone, if_pos rfl, List.flatMap_singleton, get]
  | false =>
      rw [if_neg (by simp)]
      have more : front.fragments ≠ [] := List.isEmpty_eq_false_iff.1 isEmpty
      refine get_append_of_passes more (by simp [append, ends]) ?_ (.inl plain)
      intro fragment member
      have isDescent := descents fragment member
      cases fragment with
      | descent => rfl
      | _ => cases isDescent

/-- The path to all values. -/
def allValues : Path where
  fragments := [.root, .descent]

end Appending

/-- From a value to its member `a`. -/
def memberA : Path where
  fragments := [.child "a"]

/-- From a value to all values in it, itself included. -/
def allWithin : Path where
  fragments := [.descent]

def listOfOne : Value :=
  .array [.integer 1]

theorem get_append_allValues :
    Path.parse "$..a" = .ok (allValues.append memberA) ∧ allValues.fragments ≠ [] ∧ memberA.fragments ≠ [] ∧
      (∀ fragment ∈ memberA.fragments, fragment.isAnchor = false) ∧
      (∃ fragment ∈ memberA.fragments, fragment.isDescent = false) ∧
      (allValues.append memberA).get listOfOne =
        (allValues.get listOfOne).flatMap (collect listOfOne none memberA.steps) ∧
      Path.parse "$...." = .ok (allValues.append allWithin) ∧ allWithin.fragments ≠ [] ∧
      (∀ fragment ∈ allWithin.fragments, fragment.isAnchor = false) ∧
      (allValues.append allWithin).get listOfOne =
        (Path.root.get listOfOne).flatMap fun node =>
          if node.isContainer then
            ((collect listOfOne none allWithin.steps node).filter Value.isContainer).flatMap
              (collect listOfOne none allWithin.steps)
          else [node] := by
  have starts : allValues.fragments ≠ [] := List.cons_ne_nil _ _
  have named : memberA.fragments ≠ [] := List.cons_ne_nil _ _
  have within : allWithin.fragments ≠ [] := List.cons_ne_nil _ _
  have namedUnanchored : ∀ fragment ∈ memberA.fragments, fragment.isAnchor = false := by
    intro fragment member
    rcases List.mem_singleton.1 member with rfl
    rfl
  have withinUnanchored : ∀ fragment ∈ allWithin.fragments, fragment.isAnchor = false := by
    intro fragment member
    rcases List.mem_singleton.1 member with rfl
    rfl
  have walks : ∃ fragment ∈ memberA.fragments, fragment.isDescent = false :=
    ⟨_, List.mem_singleton_self _, rfl⟩
  have rootEnds : ∀ last ∈ Path.root.fragments.getLast?, last.isDescent = false := by
    rintro _ ⟨⟩
    rfl
  have descents : ∀ fragment ∈ (allWithin.append allWithin).fragments, fragment.isDescent = true := by
    intro fragment member
    simp only [allWithin, append, List.cons_append, List.nil_append, List.mem_cons, List.not_mem_nil, or_false,
      or_self] at member
    rw [member]
    rfl
  exact ⟨by rfl, starts, named, namedUnanchored, walks,
    (get_append starts named namedUnanchored listOfOne).1 (.inr walks), by rfl, within, withinUnanchored,
    (get_append starts within withinUnanchored listOfOne).2 Path.root allWithin rfl within rootEnds descents⟩

/-- One descent after another does not find a scalar again that lies below a container. -/
theorem get_allValues_allWithin :
    Path.parse "$.." = .ok allValues ∧ Path.parse "$...." = .ok (allValues.append allWithin) ∧
      (allValues.append allWithin).get listOfOne = [.array [.integer 1], .integer 1] ∧
      (allValues.get listOfOne).flatMap (collect listOfOne none allWithin.steps) =
        [.array [.integer 1], .integer 1, .integer 1] ∧
      (allValues.append allWithin).get listOfOne ≠
        (allValues.get listOfOne).flatMap (collect listOfOne none allWithin.steps) := by
  have inARow : (allValues.append allWithin).get listOfOne = [.array [.integer 1], .integer 1] := by cbv
  have oneByOne : (allValues.get listOfOne).flatMap (collect listOfOne none allWithin.steps) =
      [.array [.integer 1], .integer 1, .integer 1] := by cbv
  refine ⟨by rfl, by rfl, inARow, oneByOne, ?_⟩
  intro same
  have lengths := congrArg List.length same
  rw [inARow, oneByOne] at lengths
  cases lengths

end Path

end TreePath

import TreePath.Proofs.Edit.Failure
import TreePath.Proofs.Value.Outline

/-!
# Targets in order

The locations at which an edit along steps without filters and descents sets a value, in the order in which it comes
to them. They are told from the unchanged document. A gap that is filled is gone into as if its container had always
been there, and a child that cannot be gone into is left out.
-/

namespace TreePath

/-- What stands at a child for the steps to come: a container, or in a gap the container that fills it. -/
def Value.enter (node : Value) (filler : Option Value) (segment : Segment) : Option Value :=
  match node.child? segment with
  | some child => if child.isContainer then some child else if child.isNull then filler else none
  | none => filler

namespace Value

variable {node child : Value} {filler : Option Value} {segment : Segment}

theorem enter_of_isContainer (found : node.child? segment = some child) (container : child.isContainer = true) :
    node.enter filler segment = some child := by
  rw [enter, found]
  exact if_pos container

theorem enter_of_vacant (vacant : (node.child? segment).all isNull = true) : node.enter filler segment = filler := by
  rw [enter]
  cases found : node.child? segment with
  | none => rfl
  | some child =>
      rw [found, Option.all_some] at vacant
      cases child with
      | null => rfl
      | _ => cases vacant

theorem enter_cases (entered : node.enter filler segment = some child) :
    (node.child? segment = some child ∧ child.isContainer = true) ∨
      ((node.child? segment).all isNull = true ∧ filler = some child) := by
  rw [enter] at entered
  cases found : node.child? segment with
  | none =>
      rw [found] at entered
      exact .inr ⟨rfl, entered⟩
  | some other =>
      simp only [found] at entered
      split at entered
      · rename_i container
        rcases Option.some.inj entered with rfl
        exact .inl ⟨rfl, container⟩
      · split at entered
        · rename_i isNull
          exact .inr ⟨isNull, entered⟩
        · cases entered

end Value

/-- The children of a node that a step picks and that can be gone into, with what stands there. -/
def Step.entries (filler : Option Value) (node : Value) (step : Step) : List (Segment × Value) :=
  (step.segments node).filterMap fun segment => (node.enter filler segment).map (segment, ·)

theorem Step.mem_entries {filler : Option Value} {node child : Value} {step : Step} {segment : Segment} :
    (segment, child) ∈ step.entries filler node ↔
      segment ∈ step.segments node ∧ node.enter filler segment = some child := by
  simp only [entries, List.mem_filterMap, Option.map_eq_some_iff, Prod.mk.injEq]
  constructor
  · rintro ⟨other, isIn, found, isChild, rfl, rfl⟩
    exact ⟨isIn, isChild⟩
  · rintro ⟨isIn, isChild⟩
    exact ⟨segment, isIn, child, isChild, rfl, rfl⟩

/-- The locations that steps pick from a node on, in order. Gaps are filled only for the last step, by name or index. -/
def targetsFrom (root : Value) (filler : Option Value) : List Step → Location → Value → List Location
  | [], _, _ => []
  | .root :: rest, _, _ => targetsFrom root filler rest [] root
  | .current :: rest, place, node => targetsFrom root filler rest place node
  | [last], place, node => (last.segments node).map fun segment => place ++ [segment]
  | step :: next :: rest, place, node =>
    (step.entries (if step.isNaming && rest.isEmpty then filler else none) node).flatMap fun (segment, child) =>
      targetsFrom root filler (next :: rest) (place ++ [segment]) child

section Targets

variable {root node : Value} {filler : Option Value} {step next : Step} {rest : List Step} {place : Location}

theorem targetsFrom_anchor (anchor : step.isAnchor = true) : targetsFrom root filler (step :: rest) [] root =
    targetsFrom root filler rest [] root := by
  cases step with
  | root => rfl
  | current => rfl
  | _ => cases anchor

theorem targetsFrom_last (plain : step.isAnchor = false) :
    targetsFrom root filler [step] place node = (step.segments node).map fun segment => place ++ [segment] := by
  cases step with
  | root => cases plain
  | current => cases plain
  | _ => rfl

theorem targetsFrom_cons (plain : step.isAnchor = false) :
    targetsFrom root filler (step :: next :: rest) place node =
      (step.entries (if step.isNaming && rest.isEmpty then filler else none) node).flatMap fun entry =>
        targetsFrom root filler (next :: rest) (place ++ [entry.1]) entry.2 := by
  cases step with
  | root => cases plain
  | current => cases plain
  | _ => rfl

end Targets

/-- The locations at which setting a value along a path sets it, in order. -/
def Path.targets [RegexSyntax] (path : Path) (document : Value) : List Location :=
  targetsFrom document (filler? path.steps) path.steps [] document

/-- What a step picks can be told from the face of the node, and for all children from the outline. -/
theorem Step.segments_congr {step : Step} {node other : Value} (faces : other.face = node.face)
    (outlines : step = .wildcard → other.outline = node.outline) : step.segments other = step.segments node := by
  by_cases naming : step.isNaming = true
  · rw [← segments_face naming, faces, segments_face naming]
  · cases step with
    | child name => exact absurd rfl naming
    | nth i => exact absurd rfl naming
    | union selectors => exact absurd rfl naming
    | wildcard => exact congrArg Prod.snd (outlines rfl)
    | slice start stop step => cases other <;> cases node <;> simp_all [Value.face, segments]
    | _ => rfl

namespace Plan

variable {Memory : Type} {plan : Plan Memory} {index : Nat} {step : Step} {node now : Value}

/-- What a step can create in gaps. -/
def fillerAt (plan : Plan Memory) (index : Nat) (step : Step) : Option Value :=
  if step.isNaming && decide (index + 2 = plan.steps.length) then plan.filler else none

/-- A child is as it was in a node before, but for its children, or a gap there that was filled. -/
def IsAlike (filler : Option Value) (now node : Value) (segment : Segment) : Prop :=
  (now.child? segment).map Value.face = (node.child? segment).map Value.face ∨
    ((now.child? segment).any Value.isContainer = true ∧ (node.child? segment).all Value.isNull = true ∧
      filler.isSome = true)

theorem fillerAt_eq_some {container : Value} :
    plan.fillerAt index step = some container ↔
      step.isNaming = true ∧ index + 2 = plan.steps.length ∧ plan.filler = some container := by
  rw [fillerAt]
  split
  · rename_i named
    simp only [Bool.and_eq_true, decide_eq_true_eq] at named
    simp [named]
  · rename_i unnamed
    simp only [Bool.and_eq_true, decide_eq_true_eq] at unnamed
    constructor
    · intro impossible
      cases impossible
    · exact fun named => absurd ⟨named.1, named.2.1⟩ unnamed

section Entering

variable {segment : Segment}

theorem exists_isWay_iff (isStrict : plan.isStrict index = true) (isSet : plan.action.isSet = true)
    (alike : IsAlike (plan.fillerAt index step) now node segment) :
    (∃ created, plan.IsWay index step now segment created) ↔
      (node.enter (plan.fillerAt index step) segment).isSome = true := by
  constructor
  · rintro ⟨created, isWay⟩
    rcases alike with faces | ⟨container, vacant, fills⟩
    · cases created with
      | none =>
          rcases isWay with ⟨-, container⟩ | ⟨_, impossible, -⟩
          · rw [← Value.any_isContainer_face, faces, Value.any_isContainer_face, Option.any_eq_true] at container
            rcases container with ⟨child, found, container⟩
            rw [Value.enter_of_isContainer found container]
            rfl
          · cases impossible
      | some container =>
          rcases Resolves.way_created isWay with ⟨filled, isEnd, naming, vacant⟩
          rw [← Value.all_isNull_face, faces, Value.all_isNull_face] at vacant
          rw [Value.enter_of_vacant vacant, fillerAt_eq_some.2 ⟨naming, isEnd, filled⟩]
          rfl
    · rwa [Value.enter_of_vacant vacant]
  · intro isSome
    rcases Option.isSome_iff_exists.1 isSome with ⟨child, entered⟩
    rcases Value.enter_cases entered with ⟨found, container⟩ | ⟨vacant, filled⟩
    · rcases alike with faces | ⟨-, vacant, -⟩
      · refine ⟨none, .inl ⟨rfl, ?_⟩⟩
        rw [← Value.any_isContainer_face, faces, Value.any_isContainer_face, found, Option.any_some, container]
      · rw [found, Option.all_some, isNull_of_isContainer container] at vacant
        cases vacant
    · rcases alike with faces | ⟨container, -, -⟩
      · rcases fillerAt_eq_some.1 filled with ⟨naming, isEnd, filled⟩
        refine ⟨some child, .inr ⟨child, rfl, ?_, ?_, deduce_of_filler filled isEnd⟩⟩
        · rwa [← Value.all_isNull_face, faces, Value.all_isNull_face]
        · rw [naming, isStrict, isSet]
          rfl
      · exact ⟨none, .inl ⟨rfl, container⟩⟩

theorem length_approach {way : List (Segment × Option Value)}
    (approached : plan.approach index step node segment = .ok way) : way.length ≤ 1 := by
  have filled (filled : (if step.isNaming && plan.isStrict index && plan.action.isSet then
      (plan.deduce index).map fun created => [(segment, some created)] else .ok []) = .ok way) : way.length ≤ 1 := by
    split at filled
    · rcases map_eq_ok.1 filled with ⟨container, -, rfl⟩
      exact Nat.le_refl 1
    · rcases Except.ok.inj filled with rfl
      exact Nat.zero_le 1
  cases found : node.child? segment with
  | none =>
      simp only [approach, found] at approached
      exact filled approached
  | some child =>
      simp only [approach, found] at approached
      split at approached
      · rcases Except.ok.inj approached with rfl
        exact Nat.le_refl 1
      · split at approached
        · exact filled approached
        · split at approached
          · cases approached
          · rcases Except.ok.inj approached with rfl
            exact Nat.zero_le 1

/-- A step that meets no obstacle goes on to a child if it can be gone into in the node as it was. -/
theorem map_fst_approach {way : List (Segment × Option Value)} (isStrict : plan.isStrict index = true)
    (isSet : plan.action.isSet = true) (alike : IsAlike (plan.fillerAt index step) now node segment)
    (approached : plan.approach index step now segment = .ok way) :
    way.map Prod.fst = ((node.enter (plan.fillerAt index step) segment).map fun _ => segment).toList := by
  have isWay_iff := exists_isWay_iff isStrict isSet alike
  have short := length_approach approached
  cases way with
  | nil =>
      cases entered : node.enter (plan.fillerAt index step) segment with
      | none => rfl
      | some child =>
          rw [entered] at isWay_iff
          rcases isWay_iff.2 rfl with ⟨created, isWay⟩
          cases (mem_approach approached).2 ⟨rfl, isWay⟩
  | cons head others =>
      rcases head with ⟨other, created⟩
      rcases (mem_approach approached).1 List.mem_cons_self with ⟨rfl, isWay⟩
      rcases Option.isSome_iff_exists.1 (isWay_iff.1 ⟨created, isWay⟩) with ⟨child, entered⟩
      have noMore : others = [] := List.eq_nil_of_length_eq_zero (by simpa using short)
      rw [entered, noMore]
      rfl

theorem map_fst_approachAll {segments : List Segment} {ways : List (Segment × Option Value)}
    (isStrict : plan.isStrict index = true) (isSet : plan.action.isSet = true)
    (alike : ∀ segment ∈ segments, IsAlike (plan.fillerAt index step) now node segment)
    (approached : plan.approachAll index step now segments = .ok ways) :
    ways.map Prod.fst =
      (segments.filterMap fun segment =>
        (node.enter (plan.fillerAt index step) segment).map (segment, ·)).map Prod.fst := by
  induction segments generalizing ways with
  | nil =>
      rcases Except.ok.inj approached with rfl
      rfl
  | cons segment segments ih =>
      rw [approachAll] at approached
      rcases bind_eq_ok.1 approached with ⟨first, isFirst, approached⟩
      rcases bind_eq_ok.1 approached with ⟨others, areOthers, approached⟩
      rcases Except.ok.inj approached with rfl
      rw [List.map_append, map_fst_approach isStrict isSet (alike segment List.mem_cons_self) isFirst,
        ih (fun other member => alike other (List.mem_cons_of_mem _ member)) areOthers, List.filterMap_cons]
      cases node.enter (plan.fillerAt index step) segment <;> rfl

end Entering

end Plan

end TreePath

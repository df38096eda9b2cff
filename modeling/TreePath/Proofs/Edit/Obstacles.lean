import TreePath.Proofs.Edit.Following
import TreePath.Proofs.Edit.Search

/-!
# What stands in the way of an edit

The obstacles that a step meets at a node can be told from the node alone: `Blocks`. A task fails in front of one of
them, and it does not get past any. What steps meet further on is what they meet at the nodes that they reach,
`Meets`.
-/

namespace TreePath

/-- The names and indexes by which a fragment picks children. -/
def Fragment.selectors {Test : Type} : Fragment Test → List Selector
  | .child name => [.key name]
  | .nth i => [.index i]
  | .union selectors => selectors
  | _ => []

namespace Step

variable {step : Step} {node : Value} {segment : Segment}

theorem isNaming_of_mem_selectors {selector : Selector} (listed : selector ∈ step.selectors) :
    step.isNaming = true := by
  cases step <;> first | rfl | cases listed

theorem mem_segments_selectors (naming : step.isNaming = true) :
    segment ∈ step.segments node ↔ ∃ selector ∈ step.selectors, segment ∈ selector.segments node := by
  cases step with
  | child name => simp [segments, Fragment.selectors]
  | nth i => simp [segments, Fragment.selectors]
  | union selectors => exact List.mem_flatMap
  | _ => cases naming

theorem mem_pick {root child : Value} (wellFormed : node.WellFormed) (unfiltered : step.isFilter = false)
    (plain : step.isAnchor = false) (walks : step.isDescent = false) :
    child ∈ step.pick root node ↔ ∃ segment ∈ step.segments node, node.child? segment = some child := by
  have choices : step.choices root node = step.segments node := by
    cases step with
    | filter test => cases unfiltered
    | _ => rfl
  rw [← map_value_sites root ⟨[], node⟩, sites_eq_choices wellFormed plain walks, choices, List.mem_map]
  constructor
  · rintro ⟨found, isFound, rfl⟩
    rcases List.mem_filterMap.1 isFound with ⟨segment, isIn, isChild⟩
    exact ⟨segment, isIn, (Site.child?_eq_some.1 isChild).2⟩
  · rintro ⟨segment, isIn, isChild⟩
    exact ⟨⟨[] ++ [segment], child⟩, List.mem_filterMap.2 ⟨segment, isIn, Site.child?_eq_some.2 ⟨rfl, isChild⟩⟩, rfl⟩

end Step

namespace Plan

variable {Memory : Type} {plan : Plan Memory} {index : Nat} {step : Step} {node : Value} {obstacle : Obstacle}

/-- The obstacles that a strict step meets at a node. -/
inductive Blocks (plan : Plan Memory) (index : Nat) (step : Step) (node : Value) : Obstacle → Prop
  /-- The step names a child that holds no others, and it is not the last step. -/
  | scalar {segment : Segment} {child : Value} (inner : index + 1 < plan.steps.length)
      (naming : step.isNaming = true) (picked : segment ∈ step.segments node)
      (found : node.child? segment = some child) (closed : child.isContainer = false)
      (notNull : child.isNull = false) : Blocks plan index step node (.scalar child.kind (index + 1))
  | outOfBounds {i : Int64} {items : List Value} (requires : plan.action.isModify = false)
      (listed : Selector.index i ∈ step.selectors) (isArray : node = .array items)
      (outside : resolveIndex i items.length = none) : Blocks plan index step node (.outOfBounds (index + 1))
  /-- The step names a child that is missing, and nothing can be created in its place. -/
  | gap {segment : Segment} {obstacle : Obstacle} (creates : plan.action.isSet = true)
      (inner : index + 1 < plan.steps.length) (naming : step.isNaming = true)
      (picked : segment ∈ step.segments node) (vacant : (node.child? segment).all Value.isNull = true)
      (failed : plan.deduce index = .error obstacle) : Blocks plan index step node obstacle

theorem Blocks.isContainer (blocks : plan.Blocks index step node obstacle) : node.isContainer = true := by
  cases blocks with
  | scalar inner naming picked found closed notNull => exact Step.isContainer_of_mem_segments picked
  | outOfBounds requires listed isArray outside =>
      rw [isArray]
      rfl
  | gap creates inner naming picked vacant failed => exact Step.isContainer_of_mem_segments picked

theorem Blocks.isNaming (blocks : plan.Blocks index step node obstacle) : step.isNaming = true := by
  cases blocks with
  | scalar inner naming picked found closed notNull => exact naming
  | outOfBounds requires listed isArray outside => exact Step.isNaming_of_mem_selectors listed
  | gap creates inner naming picked vacant failed => exact naming

/-! ## Choosing children -/

theorem pickSelector_eq_error {selector : Selector} :
    plan.pickSelector index node selector = .error obstacle ↔
      plan.isStrict index = true ∧ plan.action.isModify = false ∧ obstacle = .outOfBounds (index + 1) ∧
        ∃ i items, selector = .index i ∧ node = .array items ∧ resolveIndex i items.length = none := by
  cases selector with
  | key name => cases node <;> simp [pickSelector]
  | index i =>
      cases node with
      | array items =>
          cases resolved : resolveIndex i items.length <;>
            cases strict : plan.isStrict index <;> cases modifies : plan.action.isModify <;>
              simp [pickSelector, pickIndex, resolved, strict, modifies, eq_comm]
      | _ => simp [pickSelector]

theorem pickSelectors_eq_error {selectors : List Selector} :
    plan.pickSelectors index node selectors = .error obstacle ↔
      ∃ selector ∈ selectors, plan.pickSelector index node selector = .error obstacle := by
  induction selectors with
  | nil => simp [pickSelectors]
  | cons selector selectors ih =>
      rw [pickSelectors, List.exists_mem_cons_iff, ← ih]
      cases first : plan.pickSelector index node selector with
      | error other =>
          -- All selectors that fail do so with the same obstacle.
          have same : plan.pickSelectors index node selectors = .error obstacle → other = obstacle := by
            intro failed
            rcases ih.1 failed with ⟨_, -, isError⟩
            rw [(pickSelector_eq_error.1 isError).2.2.1, (pickSelector_eq_error.1 first).2.2.1]
          constructor
          · intro failed
            exact .inl failed
          · rintro (failed | failed)
            · exact failed
            · exact congrArg Except.error (same failed)
      | ok segments =>
          cases plan.pickSelectors index node selectors <;> simp [bind, Except.bind]

theorem pick_eq_error {root : Value} :
    plan.pick index root node step = .error obstacle ↔
      plan.isStrict index = true ∧ plan.action.isModify = false ∧ obstacle = .outOfBounds (index + 1) ∧
        ∃ i items, Selector.index i ∈ step.selectors ∧ node = .array items ∧
          resolveIndex i items.length = none := by
  have listed (selectors : List Selector) : plan.pickSelectors index node selectors = .error obstacle ↔
      plan.isStrict index = true ∧ plan.action.isModify = false ∧ obstacle = .outOfBounds (index + 1) ∧
        ∃ i items, Selector.index i ∈ selectors ∧ node = .array items ∧ resolveIndex i items.length = none := by
    rw [pickSelectors_eq_error]
    constructor
    · rintro ⟨selector, isIn, failed⟩
      rcases pickSelector_eq_error.1 failed with ⟨strict, requires, isObstacle, i, items, rfl, isArray, outside⟩
      exact ⟨strict, requires, isObstacle, i, items, isIn, isArray, outside⟩
    · rintro ⟨strict, requires, isObstacle, i, items, isIn, isArray, outside⟩
      exact ⟨_, isIn, pickSelector_eq_error.2 ⟨strict, requires, isObstacle, i, items, rfl, isArray, outside⟩⟩
  have single (selector : Selector) : plan.pickSelector index node selector = .error obstacle ↔
      plan.pickSelectors index node [selector] = .error obstacle := by
    rw [pickSelectors_eq_error]
    simp
  cases step with
  | child name => exact (single (.key name)).trans (listed _)
  | nth i => exact (single (.index i)).trans (listed _)
  | union selectors => exact listed selectors
  | slice start stop step => cases node <;> simp [pick, Fragment.selectors]
  | _ => simp [pick, Fragment.selectors]

/-! ## Going on to children -/

theorem approach_eq_error {segment : Segment} :
    plan.approach index step node segment = .error obstacle ↔
      step.isNaming = true ∧ plan.isStrict index = true ∧
        ((∃ child, node.child? segment = some child ∧ child.isContainer = false ∧ child.isNull = false ∧
            obstacle = .scalar child.kind (index + 1)) ∨
          ((node.child? segment).all Value.isNull = true ∧ plan.action.isSet = true ∧
            plan.deduce index = .error obstacle)) := by
  have vacant : (if step.isNaming && plan.isStrict index && plan.action.isSet then
      (plan.deduce index).map fun created => [(segment, some created)] else .ok []) = .error obstacle ↔
      step.isNaming = true ∧ plan.isStrict index = true ∧ plan.action.isSet = true ∧
        plan.deduce index = .error obstacle := by
    cases step.isNaming <;> cases plan.isStrict index <;> cases plan.action.isSet <;>
      cases plan.deduce index <;> simp [Except.map]
  cases found : node.child? segment with
  | none =>
      simp only [approach, found, vacant]
      simp
  | some child =>
      by_cases container : child.isContainer = true
      · have notNull : child.isNull = false := by
          cases child with
          | null => cases container
          | _ => rfl
        simp [approach, found, container, notNull]
      · by_cases isNull : child.isNull = true
        · simpa [approach, found, container, isNull] using vacant
        · simp only [approach, found]
          rw [if_neg container, if_neg isNull]
          cases step.isNaming <;> cases plan.isStrict index <;> simp [container, isNull, @eq_comm _ obstacle]

/-- The first way that fails is the obstacle of going on to several children. -/
theorem exists_approach_eq_error {segments : List Segment}
    (failed : plan.approachAll index step node segments = .error obstacle) :
    ∃ segment ∈ segments, plan.approach index step node segment = .error obstacle := by
  induction segments with
  | nil => cases failed
  | cons segment segments ih =>
      rw [approachAll] at failed
      cases first : plan.approach index step node segment with
      | error other =>
          rw [first] at failed
          exact ⟨segment, List.mem_cons_self, first.trans failed⟩
      | ok way =>
          cases others : plan.approachAll index step node segments with
          | error other =>
              simp only [first, others, bind, Except.bind] at failed
              rw [others, Except.error.inj failed] at ih
              rcases ih rfl with ⟨segment', isIn, isError⟩
              exact ⟨segment', List.mem_cons_of_mem _ isIn, isError⟩
          | ok ways =>
              simp only [first, others, bind, Except.bind] at failed
              cases failed

theorem approach_ne_error {segments : List Segment} {ways : List (Segment × Option Value)}
    (approached : plan.approachAll index step node segments = .ok ways) :
    ∀ segment ∈ segments, plan.approach index step node segment ≠ .error obstacle := by
  induction segments generalizing ways with
  | nil =>
      intro segment member
      cases member
  | cons head segments ih =>
      rw [approachAll] at approached
      rcases bind_eq_ok.1 approached with ⟨first, isFirst, approached⟩
      rcases bind_eq_ok.1 approached with ⟨others, areOthers, -⟩
      intro segment member
      rcases List.mem_cons.1 member with rfl | later
      · rw [isFirst]
        intro isError
        cases isError
      · exact ih areOthers segment later

/-! ## One task -/

theorem blocks_of_pick {root : Value} (failed : plan.pick index root node step = .error obstacle) :
    plan.isStrict index = true ∧ plan.Blocks index step node obstacle := by
  rcases pick_eq_error.1 failed with ⟨strict, requires, rfl, i, items, listed, isArray, outside⟩
  exact ⟨strict, .outOfBounds requires listed isArray outside⟩

theorem blocks_of_approachAll {root : Value} {segments : List Segment} (unfiltered : step.isFilter = false)
    (inner : index + 1 < plan.steps.length) (picked : plan.pick index root node step = .ok segments)
    (failed : plan.approachAll index step node segments = .error obstacle) :
    plan.isStrict index = true ∧ plan.Blocks index step node obstacle := by
  rcases exists_approach_eq_error failed with ⟨segment, isIn, isError⟩
  rw [pick_eq_ok unfiltered picked] at isIn
  rcases approach_eq_error.1 isError with
    ⟨naming, strict, ⟨child, isChild, closed, notNull, rfl⟩ | ⟨vacant, creates, undeduced⟩⟩
  · exact ⟨strict, .scalar inner naming isIn isChild closed notNull⟩
  · exact ⟨strict, .gap creates inner naming isIn vacant undeduced⟩

/-- A task fails in front of what blocks its step. -/
theorem blocks_of_perform {progress : Progress Memory} {task : Task}
    (unfiltered : ∀ step, plan.steps[task.index]? = some step → step.isFilter = false)
    (failed : plan.perform progress task = .error obstacle) :
    ∃ step node, plan.steps[task.index]? = some step ∧ progress.document.at? task.location = some node ∧
      plan.isStrict task.index = true ∧ plan.Blocks task.index step node obstacle := by
  cases stop_of_perform failed with
  | pick here found failed => exact ⟨_, _, here, found, blocks_of_pick failed⟩
  | approach here inner found picked failed =>
      exact ⟨_, _, here, found, blocks_of_approachAll (unfiltered _ here) inner picked failed⟩

theorem not_outOfBounds_of_pick {root : Value} {segments : List Segment} (strict : plan.isStrict index = true)
    (picked : plan.pick index root node step = .ok segments) (requires : plan.action.isModify = false) {i : Int64}
    {items : List Value} (listed : .index i ∈ step.selectors) (isArray : node = .array items)
    (outside : resolveIndex i items.length = none) : False := by
  have failed : plan.pick index root node step = .error (.outOfBounds (index + 1)) :=
    pick_eq_error.2 ⟨strict, requires, rfl, i, items, listed, isArray, outside⟩
  rw [picked] at failed
  cases failed

theorem not_blocks_of_follow {root : Value} {segments : List Segment} {ways : List (Segment × Option Value)}
    (unfiltered : step.isFilter = false) (strict : plan.isStrict index = true)
    (picked : plan.pick index root node step = .ok segments)
    (approached : plan.approachAll index step node segments = .ok ways) : ¬ plan.Blocks index step node obstacle := by
  have segments_eq := pick_eq_ok unfiltered picked
  intro blocks
  cases blocks with
  | scalar inner naming isIn isChild closed notNull =>
      rw [← segments_eq] at isIn
      exact approach_ne_error approached _ isIn
        (approach_eq_error.2 ⟨naming, strict, .inl ⟨_, isChild, closed, notNull, rfl⟩⟩)
  | outOfBounds requires listed isArray outside =>
      exact not_outOfBounds_of_pick strict picked requires listed isArray outside
  | gap creates inner naming isIn vacant undeduced =>
      rw [← segments_eq] at isIn
      exact approach_ne_error approached _ isIn
        (approach_eq_error.2 ⟨naming, strict, .inr ⟨vacant, creates, undeduced⟩⟩)

theorem not_blocks_of_finish {root : Value} {segments : List Segment} (isLast : index + 1 = plan.steps.length)
    (strict : plan.isStrict index = true) (picked : plan.pick index root node step = .ok segments) :
    ¬ plan.Blocks index step node obstacle := by
  intro blocks
  cases blocks with
  | scalar inner naming isIn isChild closed notNull => omega
  | outOfBounds requires listed isArray outside =>
      exact not_outOfBounds_of_pick strict picked requires listed isArray outside
  | gap creates inner naming isIn vacant undeduced => omega

/-! ## Further on -/

/-- What steps from an index on meet at a node of a document, or at the nodes that they reach from it. -/
def Meets (plan : Plan Memory) (root : Value) : List Step → Nat → Value → Obstacle → Prop
  | [], _, _, _ => False
  | step :: pending, index, node, obstacle =>
    plan.isStrict index = true ∧ (plan.Blocks index step node obstacle ∨
      ∃ child ∈ step.pick root node, plan.Meets root pending (index + 1) child obstacle)

end Plan

/-- The nodes that steps reach from a node. No steps stay there. -/
def reached (root : Value) (steps : List Step) (node : Value) : List Value :=
  if steps.isEmpty then [node] else findings root steps node

theorem reached_cons {root node : Value} {step : Step} {pending : List Step} (walks : step.isDescent = false) :
    reached root (step :: pending) node = (step.pick root node).flatMap (reached root pending) := by
  cases pending with
  | nil =>
      have alone : reached root [] = fun node => [node] := rfl
      rw [alone, List.flatMap_singleton']
      exact findings_last root node (ne_descent walks)
  | cons next pending => exact findings_cons root node (ne_descent walks) (List.cons_ne_nil next pending)

namespace Plan

variable {Memory : Type} {plan : Plan Memory} {index : Nat} {step : Step} {node : Value} {obstacle : Obstacle}

theorem isStrict_of_le {earlier : Nat} (strict : plan.isStrict index = true) (before : earlier ≤ index) :
    plan.isStrict earlier = true := by
  simp only [isStrict, decide_eq_true_eq] at strict ⊢
  omega

theorem isDescent_of_isStrict (strict : plan.isStrict index = true) (here : plan.steps[index]? = some step) :
    step.isDescent = false := by
  rcases List.getElem?_eq_some_iff.1 here with ⟨within, rfl⟩
  simp only [isStrict, decide_eq_true_eq] at strict
  simpa using List.not_of_lt_findIdx strict

/-- The number of steps before the first descent. -/
def strictCount (plan : Plan Memory) : Nat :=
  plan.steps.findIdx Fragment.isDescent

theorem isStrict_iff : plan.isStrict index = true ↔ index < plan.strictCount :=
  decide_eq_true_iff

theorem strictCount_le_of_isDescent (here : plan.steps[index]? = some .descent) : plan.strictCount ≤ index := by
  apply Nat.le_of_not_lt
  intro before
  have walks := isDescent_of_isStrict (isStrict_iff.2 before) here
  cases walks

/-- Steps meet an obstacle if one of them that is strict does, at a node that the steps before it reach. -/
theorem meets_iff {root : Value} {steps : List Step}
    (walks : ∀ k step, steps[k]? = some step → plan.isStrict (index + k) = true → step.isDescent = false) :
    plan.Meets root steps index node obstacle ↔
      ∃ k step, steps[k]? = some step ∧ plan.isStrict (index + k) = true ∧
        ∃ mid ∈ reached root (steps.take k) node, plan.Blocks (index + k) step mid obstacle := by
  induction steps generalizing index node with
  | nil => simp [Meets]
  | cons step pending ih =>
      have later (k : Nat) : index + 1 + k = index + (k + 1) := by omega
      have walks_later : ∀ k next, pending[k]? = some next → plan.isStrict (index + 1 + k) = true →
          next.isDescent = false := by
        intro k next isNext strict
        rw [later] at strict
        exact walks (k + 1) next isNext strict
      rw [Meets]
      constructor
      · rintro ⟨strict, blocks | ⟨child, isChild, meets⟩⟩
        · exact ⟨0, step, rfl, strict, node, List.mem_singleton_self node, blocks⟩
        · rcases (ih walks_later).1 meets with ⟨k, next, isNext, isStrict, mid, isMid, blocks⟩
          refine ⟨k + 1, next, isNext, by rwa [← later], mid, ?_, by rwa [← later]⟩
          rw [List.take_succ_cons, reached_cons (walks 0 step rfl strict)]
          exact List.mem_flatMap.2 ⟨child, isChild, isMid⟩
      · rintro ⟨k, next, isNext, strict, mid, isMid, blocks⟩
        have strictHere := isStrict_of_le strict (Nat.le_add_right index k)
        cases k with
        | zero =>
            rcases Option.some.inj isNext with rfl
            rcases List.mem_singleton.1 isMid with rfl
            exact ⟨strictHere, .inl blocks⟩
        | succ k =>
            rw [List.take_succ_cons, reached_cons (walks 0 step rfl strictHere)] at isMid
            rcases List.mem_flatMap.1 isMid with ⟨child, isChild, isMid⟩
            rw [← later] at strict blocks
            exact ⟨strictHere, .inr ⟨child, isChild, (ih walks_later).2 ⟨k, next, isNext, strict, mid, isMid, blocks⟩⟩⟩

end Plan

end TreePath

import TreePath.Proofs.Edit.Failure
import TreePath.Proofs.Edit.First
import TreePath.Regex.Standard

/-!
# The errors of edits along paths without filters

When an edit fails, and with which error, told from the document before the edit. A fragment before the first descent
that names children must not name a value that holds no others on the way, `Path.MeetsScalar`; indexes must not be out
of bounds, `Path.ExceedsBounds`, unless values are modified; and if values are set, no more than one container may be
missing, and the last fragment has to say which one, `Path.MeetsGap`.
-/

namespace TreePath

/-- There is no member with the name in an object, or it is null, or the slot of an array is. -/
def Selector.IsVacantIn : Selector → Value → Prop
  | key name, .object members => (Members.get? members name).all Value.isNull = true
  | index i, .array items => (resolveIndex i items.length).bind (items[·]?) = some .null
  | _, _ => False

/-- Whether it follows from a fragment what container it picks from. -/
def Fragment.impliesContainer {Test : Type} : Fragment Test → Bool
  | .child _ => true
  | .nth i => decide (0 ≤ i.toInt)
  | _ => false

namespace Path

variable [RegexSyntax] (path : Path) (document : Value)

/-- The values that the first fragments of a path reach in a document. -/
def nodes (k : Nat) : List Value :=
  if k = 0 then [document] else (path.take k).get document

/-- A fragment before the first descent picks children by a name or index. -/
def Names (k : Nat) (selector : Selector) : Prop :=
  k < path.fragments.findIdx Fragment.isDescent ∧ ∃ fragment ∈ path.fragments[k]?, selector ∈ fragment.selectors

/-- A fragment that is not the last one names a value that holds no others and is not null. -/
def MeetsScalar (k : Nat) (kind : Kind) : Prop :=
  k + 1 < path.length ∧ ∃ selector node child, path.Names k selector ∧ node ∈ path.nodes document k ∧
    selector.pick? node = some child ∧ child.isContainer = false ∧ child.isNull = false ∧ child.kind = kind

/-- A fragment names an index that is out of the bounds of an array. -/
def ExceedsBounds (k : Nat) : Prop :=
  ∃ i items, path.Names k (.index i) ∧ .array items ∈ path.nodes document k ∧
    (i.toInt < -items.length ∨ items.length ≤ i.toInt)

/-- A fragment that is not the last one names a missing child, for which no container can be created. -/
def MeetsGap (k : Nat) : Prop :=
  k + 1 < path.length ∧
    (∃ selector node, path.Names k selector ∧ node ∈ path.nodes document k ∧ selector.IsVacantIn node) ∧
    (k + 2 < path.length ∨ ∀ next ∈ path.fragments[k + 1]?, next.impliesContainer = false)

end Path

theorem resolveIndex_eq_none_iff {i : Int64} {length : Nat} :
    resolveIndex i length = none ↔ i.toInt < -length ∨ length ≤ i.toInt := by
  rw [resolveIndex]
  split
  · split
    · simp only [reduceCtorEq, false_iff]
      omega
    · simp only [true_iff]
      omega
  · split
    · simp only [reduceCtorEq, false_iff]
      omega
    · simp only [true_iff]
      omega

namespace Selector

variable {selector : Selector} {node child : Value}

theorem pick?_eq_some :
    selector.pick? node = some child ↔ ∃ segment ∈ selector.segments node, node.child? segment = some child := by
  have values := map_value_segments selector ⟨[], node⟩
  have picked : child ∈ (selector.pick? node).toList ↔ selector.pick? node = some child := Option.mem_toList
  rw [← picked, ← values]
  simp only [List.mem_map, List.mem_filterMap]
  constructor
  · rintro ⟨found, ⟨segment, isIn, isChild⟩, rfl⟩
    exact ⟨segment, isIn, (Site.child?_eq_some.1 isChild).2⟩
  · rintro ⟨segment, isIn, isChild⟩
    exact ⟨⟨[] ++ [segment], child⟩, ⟨segment, isIn, Site.child?_eq_some.2 ⟨rfl, isChild⟩⟩, rfl⟩

theorem isVacantIn_iff :
    selector.IsVacantIn node ↔ ∃ segment ∈ selector.segments node, (node.child? segment).all Value.isNull = true := by
  have isNull_iff (found : Option Value) : found.all Value.isNull = true ↔ found = none ∨ found = some .null := by
    cases found with
    | none => simp
    | some value => cases value <;> simp [Value.isNull]
  cases selector with
  | key name => cases node <;> simp [IsVacantIn, segments, Value.child?]
  | index i =>
      cases node with
      | array items =>
          cases resolved : resolveIndex i items.length with
          | none => simp [IsVacantIn, segments, resolved]
          | some position =>
              have within : position < items.length := by
                have admitted := @admits_of_mem_segments (.array items) (.index i) (.index position)
                  (by simp [segments, resolved])
                simpa [Value.admits] using admitted
              simp [IsVacantIn, segments, resolved, Value.child?, isNull_iff, within]
      | _ => simp [IsVacantIn, segments]

end Selector

namespace Plan

variable {Memory : Type} {plan : Plan Memory} {index : Nat} {step : Step} {node : Value} {obstacle : Obstacle}

theorem deduce_eq_error :
    plan.deduce index = .error obstacle ↔
      (index + 2 < plan.steps.length ∨ ∀ next ∈ plan.steps[index + 1]?, next.impliesContainer = false) ∧
        obstacle = if index + 2 < plan.steps.length then .tooDeep (index + 2) else .undeducible (index + 1) := by
  rw [deduce]
  split
  · rename_i deep
    simp [deep, @eq_comm _ obstacle]
  · rename_i notDeep
    cases plan.steps[index + 1]? with
    | none => simp [notDeep, @eq_comm _ obstacle]
    | some next =>
        cases next with
        | nth i =>
            by_cases negative : i.toInt < 0
            · simp [notDeep, Fragment.impliesContainer, negative, @eq_comm _ obstacle]
            · simp [notDeep, Fragment.impliesContainer, negative, Int.not_lt.1 negative]
        | _ => simp [notDeep, Fragment.impliesContainer, @eq_comm _ obstacle]

theorem blocks_iff :
    plan.Blocks index step node obstacle ↔
      (index + 1 < plan.steps.length ∧ ∃ selector ∈ step.selectors, ∃ child, selector.pick? node = some child ∧
        child.isContainer = false ∧ child.isNull = false ∧ obstacle = .scalar child.kind (index + 1)) ∨
      (plan.action.isModify = false ∧ (∃ i items, Selector.index i ∈ step.selectors ∧ node = .array items ∧
        (i.toInt < -items.length ∨ items.length ≤ i.toInt)) ∧ obstacle = .outOfBounds (index + 1)) ∨
      (plan.action.isSet = true ∧ index + 1 < plan.steps.length ∧
        (∃ selector ∈ step.selectors, selector.IsVacantIn node) ∧ plan.deduce index = .error obstacle) := by
  constructor
  · intro blocks
    cases blocks with
    | @scalar segment child inner naming picked found closed notNull =>
        rcases (Step.mem_segments_selectors naming).1 picked with ⟨selector, listed, isIn⟩
        exact .inl ⟨inner, selector, listed, child, Selector.pick?_eq_some.2 ⟨segment, isIn, found⟩, closed, notNull,
          rfl⟩
    | @outOfBounds i items requires listed isArray outside =>
        exact .inr (.inl ⟨requires, ⟨i, items, listed, isArray, resolveIndex_eq_none_iff.1 outside⟩, rfl⟩)
    | @gap segment _ creates inner naming picked vacant undeduced =>
        rcases (Step.mem_segments_selectors naming).1 picked with ⟨selector, listed, isIn⟩
        exact .inr (.inr ⟨creates, inner, ⟨selector, listed, Selector.isVacantIn_iff.2 ⟨segment, isIn, vacant⟩⟩,
          undeduced⟩)
  · rintro (⟨inner, selector, listed, child, isPicked, closed, notNull, rfl⟩ |
      ⟨requires, ⟨i, items, listed, isArray, outside⟩, rfl⟩ | ⟨creates, inner, ⟨selector, listed, vacant⟩, undeduced⟩)
    · rcases Selector.pick?_eq_some.1 isPicked with ⟨segment, isIn, found⟩
      have naming := Step.isNaming_of_mem_selectors listed
      exact .scalar inner naming ((Step.mem_segments_selectors naming).2 ⟨selector, listed, isIn⟩) found closed notNull
    · exact .outOfBounds requires listed isArray (resolveIndex_eq_none_iff.2 outside)
    · rcases Selector.isVacantIn_iff.1 vacant with ⟨segment, isIn, isVacant⟩
      have naming := Step.isNaming_of_mem_selectors listed
      exact .gap creates inner naming ((Step.mem_segments_selectors naming).2 ⟨selector, listed, isIn⟩) isVacant
        undeduced

theorem encounters_root {document : Value} {lead : Nat} :
    plan.Encounters document ⟨[], lead⟩ obstacle ↔
      plan.Meets document (plan.steps.drop lead) lead document obstacle := by
  constructor
  · rintro ⟨node, found, meets⟩
    rwa [← Option.some.inj found] at meets
  · intro meets
    exact ⟨document, rfl, meets⟩

theorem run_meets {document : Value} {memory : Memory} {lead : Nat} (wellFormed : document.WellFormed)
    (thorough : plan.Thorough lead) :
    ((plan.run (.start document memory) [⟨[], lead⟩]).2 = none →
      ∀ obstacle, ¬ plan.Meets document (plan.steps.drop lead) lead document obstacle) ∧
    ∀ obstacle, (plan.run (.start document memory) [⟨[], lead⟩]).2 = some obstacle →
      plan.Meets document (plan.steps.drop lead) lead document obstacle := by
  have aligned : ∀ task ∈ [(⟨[], lead⟩ : Task)], plan.Aligned lead task := by
    intro task member
    rw [List.mem_singleton.1 member]
    exact ⟨Nat.le_refl lead, fun _ => Nat.zero_add lead, fun after => by simpa using after⟩
  rcases run_encounters wellFormed thorough (.begin document memory) aligned with ⟨passes, fails⟩
  constructor
  · intro ends obstacle meets
    exact passes ends _ (List.mem_singleton_self _) obstacle (encounters_root.2 meets)
  · intro obstacle ends
    rcases fails obstacle ends with ⟨task, member, encounters⟩
    rw [List.mem_singleton.1 member] at encounters
    exact encounters_root.1 encounters

theorem meets_anchor {document : Value} {head : Step} (here : plan.steps[0]? = some head)
    (anchor : head.isAnchor = true) :
    plan.Meets document plan.steps 0 document obstacle ↔
      plan.Meets document (plan.steps.drop 1) 1 document obstacle := by
  have split : plan.steps = head :: plan.steps.drop 1 := drop_eq_cons here
  have naming : head.isNaming = false := Value.isNaming_of_isAnchor anchor
  have picks := pick_of_isAnchor anchor document
  have strict : plan.isStrict 0 = true := by
    rw [isStrict_iff, strictCount, split, List.findIdx_cons]
    cases head with
    | root => exact Nat.succ_pos _
    | current => exact Nat.succ_pos _
    | _ => cases anchor
  conv => lhs; rw [split, Meets, picks]
  constructor
  · rintro ⟨-, blocks | ⟨child, isChild, meets⟩⟩
    · rw [blocks.isNaming] at naming
      cases naming
    · rwa [List.mem_singleton.1 isChild] at meets
  · intro meets
    exact ⟨strict, .inr ⟨document, List.mem_singleton_self _, meets⟩⟩

theorem run_start_meets {document : Value} (memory : Memory) (wellFormed : document.WellFormed)
    (thorough : plan.Thorough 1) :
    ((plan.run (.start document memory) [⟨[], 0⟩]).2 = none →
      ∀ obstacle, ¬ plan.Meets document plan.steps 0 document obstacle) ∧
    ∀ obstacle, (plan.run (.start document memory) [⟨[], 0⟩]).2 = some obstacle →
      plan.Meets document plan.steps 0 document obstacle := by
  rcases anchored_or_plain thorough.plain with ⟨head, here, anchor⟩ | plain
  · rw [run_anchor thorough.unlimited here anchor]
    simp only [meets_anchor here anchor]
    exact run_meets wellFormed thorough
  · apply run_meets wellFormed
    exact { thorough with plain := plain }

end Plan

namespace Path

section Reporting

variable [RegexSyntax] {Memory : Type} {path : Path} {document : Value}

theorem thorough_plan (wellFormed : path.WellFormed)
    (unfiltered : ∀ fragment ∈ path.fragments, fragment.isFilter = false)
    (assignable : path.isAssignable? = some true) (action : Action Memory) :
    (path.plan action none).Thorough 1 := by
  have editable := editable_steps wellFormed (assignable_last assignable)
  exact ⟨rfl, unfiltered_steps unfiltered, editable.assignable, editable.plain_drop 0⟩

theorem selectors_stepOf (fragment : Fragment Script) : (stepOf fragment).selectors = fragment.selectors := by
  cases fragment <;> rfl

theorem impliesContainer_stepOf (fragment : Fragment Script) :
    (stepOf fragment).impliesContainer = fragment.impliesContainer := by
  cases fragment <;> rfl

theorem isStrict_plan {action : Action Memory} {limit : Option Nat} {k : Nat} :
    (path.plan action limit).isStrict k = true ↔ k < path.fragments.findIdx Fragment.isDescent := by
  have same : (Fragment.isDescent ∘ stepOf) = @Fragment.isDescent Script := funext isDescent_stepOf
  have steps : (path.plan action limit).steps = path.fragments.map stepOf := stepsOf_eq_map path.fragments
  rw [Plan.isStrict_iff, Plan.strictCount, steps, List.findIdx_map, same]

theorem names_iff {action : Action Memory} {limit : Option Nat} {k : Nat} {selector : Selector} :
    path.Names k selector ↔
      (path.plan action limit).isStrict k = true ∧ ∃ step, path.steps[k]? = some step ∧ selector ∈ step.selectors := by
  rw [Names, isStrict_plan, getElem?_steps]
  constructor
  · rintro ⟨strict, fragment, here, listed⟩
    exact ⟨strict, stepOf fragment, Option.map_eq_some_iff.2 ⟨fragment, here, rfl⟩, by rwa [selectors_stepOf]⟩
  · rintro ⟨strict, step, here, listed⟩
    rcases Option.map_eq_some_iff.1 here with ⟨fragment, isHere, rfl⟩
    exact ⟨strict, fragment, isHere, by rwa [selectors_stepOf] at listed⟩

theorem reached_take {k : Nat} (inside : k < path.length) :
    reached document (path.steps.take k) document = path.nodes document k := by
  have take_steps : path.steps.take k = (path.take k).steps := by
    rw [steps, steps, stepsOf_eq_map, stepsOf_eq_map, take, List.map_take]
  by_cases none : k = 0
  · rw [nodes, if_pos none, none]
    rfl
  · have more : path.steps.take k ≠ [] := by
      intro isNil
      have lengths := congrArg List.length isNil
      rw [List.length_take, length_steps, List.length_nil] at lengths
      omega
    rw [nodes, if_neg none, reached, if_neg (by simpa using more), take_steps, get_eq, steps, stepsOf_eq_meaning]
    rfl

theorem meets_iff {action : Action Memory} {obstacle : Obstacle} :
    (path.plan action none).Meets document path.steps 0 document obstacle ↔
      (∃ k kind, path.MeetsScalar document k kind ∧ obstacle = .scalar kind (k + 1)) ∨
      (action.isModify = false ∧ ∃ k, path.ExceedsBounds document k ∧ obstacle = .outOfBounds (k + 1)) ∨
      (action.isSet = true ∧ ∃ k, path.MeetsGap document k ∧
        obstacle = if k + 2 < path.length then .tooDeep (k + 2) else .undeducible (k + 1)) := by
  have steps : (path.plan action none).steps = path.steps := rfl
  have meets := @Plan.meets_iff _ (path.plan action none) 0 document obstacle document path.steps (by
    intro k step here strict
    rw [Nat.zero_add] at strict
    exact Plan.isDescent_of_isStrict strict here)
  simp only [Nat.zero_add, Plan.blocks_iff, Plan.deduce_eq_error, steps, length_steps] at meets
  rw [meets]
  have inside {k : Nat} {step : Step} (here : path.steps[k]? = some step) : k < path.length := by
    rw [← length_steps]
    exact (List.getElem?_eq_some_iff.1 here).1
  have next_iff (k : Nat) : (∀ next ∈ path.steps[k + 1]?, next.impliesContainer = false) ↔
      ∀ next ∈ path.fragments[k + 1]?, next.impliesContainer = false := by
    rw [getElem?_steps]
    cases path.fragments[k + 1]? with
    | none => simp
    | some fragment => simp [impliesContainer_stepOf]
  constructor
  · rintro ⟨k, step, here, strict, mid, isMid, ⟨inner, selector, listed, child, isPicked, closed, notNull, isScalar⟩ |
      ⟨requires, ⟨i, items, listed, rfl, outside⟩, isObstacle⟩ |
      ⟨creates, inner, ⟨selector, listed, vacant⟩, undeduced, isObstacle⟩⟩
    · rw [reached_take (inside here)] at isMid
      have names := (@names_iff _ _ path action none k selector).2 ⟨strict, step, here, listed⟩
      exact .inl ⟨k, child.kind, ⟨inner, selector, mid, child, names, isMid, isPicked, closed, notNull, rfl⟩, isScalar⟩
    · rw [reached_take (inside here)] at isMid
      have names := (@names_iff _ _ path action none k (.index i)).2 ⟨strict, step, here, listed⟩
      exact .inr (.inl ⟨requires, k, ⟨i, items, names, isMid, outside⟩, isObstacle⟩)
    · rw [reached_take (inside here)] at isMid
      have names := (@names_iff _ _ path action none k selector).2 ⟨strict, step, here, listed⟩
      exact .inr (.inr ⟨creates, k, ⟨inner, ⟨selector, mid, names, isMid, vacant⟩,
        undeduced.imp_right (next_iff k).1⟩, isObstacle⟩)
  · rintro (⟨k, kind, ⟨inner, selector, mid, child, names, isMid, isPicked, closed, notNull, rfl⟩, isScalar⟩ |
      ⟨requires, k, ⟨i, items, names, isMid, outside⟩, isObstacle⟩ |
      ⟨creates, k, ⟨inner, ⟨selector, mid, names, isMid, vacant⟩, undeduced⟩, isObstacle⟩)
    · rcases (@names_iff _ _ path action none k selector).1 names with ⟨strict, step, here, listed⟩
      rw [← reached_take (inside here)] at isMid
      exact ⟨k, step, here, strict, mid, isMid, .inl ⟨inner, selector, listed, child, isPicked, closed, notNull,
        isScalar⟩⟩
    · rcases (@names_iff _ _ path action none k (.index i)).1 names with ⟨strict, step, here, listed⟩
      rw [← reached_take (inside here)] at isMid
      exact ⟨k, step, here, strict, _, isMid, .inr (.inl ⟨requires, ⟨i, items, listed, rfl, outside⟩, isObstacle⟩)⟩
    · rcases (@names_iff _ _ path action none k selector).1 names with ⟨strict, step, here, listed⟩
      rw [← reached_take (inside here)] at isMid
      exact ⟨k, step, here, strict, mid, isMid, .inr (.inr ⟨creates, inner, ⟨selector, listed, vacant⟩,
        undeduced.imp_right (next_iff k).2, isObstacle⟩)⟩

variable (path) (document)

/-- The error about a value in the way that holds no others: it names the kind of the value, and the path up to it. -/
def ReportsScalar (error : EditError) : Prop :=
  ∃ k kind, path.MeetsScalar document k kind ∧ error = .cannotFollow kind (path.take (k + 1)).text

def ReportsBounds (error : EditError) : Prop :=
  ∃ k, path.ExceedsBounds document k ∧ error = .outOfBounds (path.take (k + 1)).text

/-- The error about a missing child: another one would be missing after it, or nothing says what it should be. -/
def ReportsGap (error : EditError) : Prop :=
  ∃ k, path.MeetsGap document k ∧ error =
    if k + 2 < path.length then .tooDeep (path.take (k + 2)).text else .cannotDeduce (path.take (k + 1)).text

variable {path} {document}

/-- An edit fails just if there is an error to be reported, and it reports one of those. -/
theorem error_of_edit (path_wellFormed : path.WellFormed)
    (unfiltered : ∀ fragment ∈ path.fragments, fragment.isFilter = false)
    (assignable : path.isAssignable? = some true) (wellFormed : document.WellFormed) (action : Action Memory)
    (memory : Memory) {reports : EditError → Prop}
    (reports_iff : ∀ error, reports error ↔ path.ReportsScalar document error ∨
      (action.isModify = false ∧ path.ReportsBounds document error) ∨
      (action.isSet = true ∧ path.ReportsGap document error)) :
    ((∃ error, (path.edit action none memory document).outcome = .error error) ↔ ∃ error, reports error) ∧
      ∀ error, (path.edit action none memory document).outcome = .error error → reports error := by
  have thorough := thorough_plan path_wellFormed unfiltered assignable action
  rcases Plan.run_start_meets memory wellFormed thorough with ⟨passes, fails⟩
  have reported (error : EditError) : reports error ↔
      ∃ obstacle, (path.plan action none).Meets document path.steps 0 document obstacle ∧
        error = .ofObstacle path obstacle := by
    rw [reports_iff]
    simp only [meets_iff]
    constructor
    · rintro (⟨k, kind, meets, rfl⟩ | ⟨requires, k, meets, rfl⟩ | ⟨creates, k, meets, rfl⟩)
      · exact ⟨_, .inl ⟨k, kind, meets, rfl⟩, rfl⟩
      · exact ⟨_, .inr (.inl ⟨requires, k, meets, rfl⟩), rfl⟩
      · refine ⟨_, .inr (.inr ⟨creates, k, meets, rfl⟩), ?_⟩
        split <;> rfl
    · rintro ⟨obstacle, ⟨k, kind, meets, rfl⟩ | ⟨requires, k, meets, rfl⟩ | ⟨creates, k, meets, rfl⟩, rfl⟩
      · exact .inl ⟨k, kind, meets, rfl⟩
      · exact .inr (.inl ⟨requires, k, meets, rfl⟩)
      · refine .inr (.inr ⟨creates, k, meets, ?_⟩)
        split <;> rfl
  rw [edit_of_isAssignable assignable, runEdit]
  rcases ran : (path.plan action none).run (.start document memory) [⟨[], 0⟩] with ⟨later, _ | obstacle⟩
  · simp only [reduceCtorEq, exists_false, false_iff, false_implies, implies_true, and_true]
    rintro ⟨error, isReported⟩
    rcases (reported error).1 isReported with ⟨obstacle, meets, -⟩
    exact passes (by rw [ran]) obstacle meets
  · have isReported : reports (.ofObstacle path obstacle) :=
      (reported _).2 ⟨obstacle, fails obstacle (by rw [ran]), rfl⟩
    constructor
    · exact ⟨fun _ => ⟨_, isReported⟩, fun _ => ⟨_, rfl⟩⟩
    · intro error isError
      rwa [← Except.error.inj isError]

/--
When edits along a path without filters fail, and what they report then, told from the document before the edit. A
modification fails just if a value is in the way that holds no others, a deletion also if an index is out of bounds,
and setting a value also if there is a gap for which no container can be created.
-/
theorem errors_of_edits {text : String} (parsed : Path.parse text = .ok path)
    (unfiltered : ∀ fragment ∈ path.fragments, fragment.isFilter = false)
    (assignable : path.isAssignable? = some true) (wellFormed : document.WellFormed) :
    (∀ (Memory : Type) (answer : Memory → Value → Memory × Option Value) (memory : Memory),
      ((∃ error, (path.modify answer memory document).outcome = .error error) ↔
        ∃ k kind, path.MeetsScalar document k kind) ∧
      ∀ error, (path.modify answer memory document).outcome = .error error → path.ReportsScalar document error) ∧
    (((∃ error, (path.delete document).outcome = .error error) ↔
        (∃ k kind, path.MeetsScalar document k kind) ∨ ∃ k, path.ExceedsBounds document k) ∧
      ∀ error, (path.delete document).outcome = .error error →
        path.ReportsScalar document error ∨ path.ReportsBounds document error) ∧
    ∀ value,
      ((∃ error, (path.set value document).outcome = .error error) ↔
        (∃ k kind, path.MeetsScalar document k kind) ∨ (∃ k, path.ExceedsBounds document k) ∨
          ∃ k, path.MeetsGap document k) ∧
      ∀ error, (path.set value document).outcome = .error error →
        path.ReportsScalar document error ∨ path.ReportsBounds document error ∨ path.ReportsGap document error := by
  have path_wellFormed := wellFormed_of_parse parsed
  have scalar : (∃ error, path.ReportsScalar document error) ↔ ∃ k kind, path.MeetsScalar document k kind := by
    simp only [ReportsScalar, exists_comm (α := EditError), exists_and_left, exists_eq, and_true]
  have bounds : (∃ error, path.ReportsBounds document error) ↔ ∃ k, path.ExceedsBounds document k := by
    simp only [ReportsBounds, exists_comm (α := EditError), exists_and_left, exists_eq, and_true]
  have gap : (∃ error, path.ReportsGap document error) ↔ ∃ k, path.MeetsGap document k := by
    simp only [ReportsGap, exists_comm (α := EditError), exists_and_left, exists_eq, and_true]
  refine ⟨?_, ?_, ?_⟩
  · intro Memory answer memory
    rw [modify, ← scalar]
    apply error_of_edit path_wellFormed unfiltered assignable wellFormed
    intro error
    simp [Action.isModify, Action.isSet, Action.operation]
  · rw [delete, ← scalar, ← bounds, ← exists_or]
    apply error_of_edit path_wellFormed unfiltered assignable wellFormed
    intro error
    simp [Action.isModify, Action.isSet, Action.operation]
  · intro value
    rw [set, ← scalar, ← bounds, ← gap, ← exists_or, ← exists_or]
    apply error_of_edit path_wellFormed unfiltered assignable wellFormed
    intro error
    simp [Action.isModify, Action.isSet, Action.operation]

end Reporting

/-- The path `$.a[1].b`. -/
def itemMember : Path where
  fragments := [.root, .child "a", .nth 1, .child "b"]

/-- A document in which the item is missing. -/
def singleItem : Value :=
  .object [("a", .array [.object [("b", .boolean true)]])]

theorem errors_of_edits_itemMember :
    Path.parse itemMember.text = .ok itemMember ∧
      (∀ fragment ∈ itemMember.fragments, fragment.isFilter = false) ∧ itemMember.isAssignable? = some true ∧
      singleItem.WellFormed ∧
      (¬ ∃ k kind, itemMember.MeetsScalar singleItem k kind) ∧ itemMember.ExceedsBounds singleItem 2 ∧
      (itemMember.modify answerNever 0 singleItem).outcome = .ok 0 ∧
      (∃ error, (itemMember.delete singleItem).outcome = .error error ∧ itemMember.ReportsBounds singleItem error) ∧
      ∃ error, (itemMember.set .null singleItem).outcome = .error error := by
  have parsed : Path.parse itemMember.text = .ok itemMember :=
    parse_text_of_wellFormed ⟨by simp [itemMember, Fragment.WellFormed], by simp [itemMember, Fragment.isAnchor]⟩
  have unfiltered : ∀ fragment ∈ itemMember.fragments, fragment.isFilter = false := by
    simp [itemMember, Fragment.isFilter]
  have assignable : itemMember.isAssignable? = some true := rfl
  have wellFormed : singleItem.WellFormed := by
    simp [singleItem, Value.WellFormed, Value.WellFormedMembers, Value.WellFormedItems, Members.Ordered]
  have isModified : (itemMember.modify answerNever 0 singleItem).outcome = .ok 0 := by cbv
  have reached : itemMember.nodes singleItem 2 = [.array [.object [("b", .boolean true)]]] := by cbv
  have exceeds : itemMember.ExceedsBounds singleItem 2 := by
    refine ⟨1, [.object [("b", .boolean true)]], ⟨by decide, .nth 1, rfl, List.mem_singleton_self _⟩, ?_, by decide⟩
    rw [reached]
    exact List.mem_singleton_self _
  rcases errors_of_edits parsed unfiltered assignable wellFormed with ⟨modifies, deletes, sets⟩
  have free : ¬ ∃ k kind, itemMember.MeetsScalar singleItem k kind := by
    intro meets
    rcases (modifies Nat answerNever 0).1.2 meets with ⟨error, isError⟩
    rw [isModified] at isError
    cases isError
  rcases deletes.1.2 (.inr ⟨2, exceeds⟩) with ⟨error, isError⟩
  have reports : itemMember.ReportsBounds singleItem error := by
    rcases deletes.2 error isError with ⟨k, kind, meets, -⟩ | reports
    · exact absurd ⟨k, kind, meets⟩ free
    · exact reports
  exact ⟨parsed, unfiltered, assignable, wellFormed, free, exceeds, isModified, ⟨error, isError, reports⟩,
    (sets .null).1.2 (.inr (.inl ⟨2, exceeds⟩))⟩

end Path

end TreePath

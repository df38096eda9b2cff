import TreePath.Query.Step
import TreePath.Proofs.Value.Overlay

/-!
# What an edit is aimed at

The locations that steps without filters pick in a document, before anything is changed in it. The last step
picks children of what the others lead to; a name is picked whether or not there is a member of it. A step right
before the last one that names children may meet a *gap*, a child that is missing or null. Setting a value
fills gaps with the container that the last step asks for, and then picks in there.
-/

namespace TreePath

/-- The segments of the children that a selector picks. A key is one whether or not the member exists. -/
def Selector.segments (node : Value) : Selector → List Segment
  | .key name => match node with
    | .object _ => [.field name]
    | _ => []
  | .index i => match node with
    | .array items => (resolveIndex i items.length).toList.map .index
    | _ => []

namespace Step

/-- The segments of the children that a step picks, if it is no filter. -/
def segments (node : Value) : Step → List Segment
  | .child name => (Selector.key name).segments node
  | .nth i => (Selector.index i).segments node
  | .wildcard => node.segments
  | .slice start stop step => match node with
    | .array items => (Slice.indices start stop step items.length).map .index
    | _ => []
  | .union selectors => selectors.flatMap (·.segments node)
  | .root | .current | .descent | .filter _ => []

end Step

namespace Value

/-- A step picks a child of the node at a location. The child may be missing. -/
def Picks (document : Value) (step : Step) (place child : Location) : Prop :=
  ∃ node segment, document.at? place = some node ∧ segment ∈ step.segments node ∧ child = place ++ [segment]

/-- A step leads from one location to another, at which there is a value. -/
def Leads (document : Value) (step : Step) (place next : Location) : Prop :=
  (document.at? next).isSome = true ∧ match step with
    | .root => next = []
    | .current => next = place
    | .descent => place <+: next
    | step => document.Picks step place next

/-- The last step picks a child of a node to which the other steps lead. -/
def IsPicked (document : Value) : List Step → Location → Location → Prop
  | [], _, _ => False
  | [last], place, child => document.Picks last place child
  | step :: next :: rest, place, child =>
    ∃ mid, document.Leads step place mid ∧ document.IsPicked (next :: rest) mid child

/-- There is nothing at a location, or null. -/
def IsVacant (document : Value) (location : Location) : Prop :=
  (document.at? location).all isNull = true

/-- A vacant location that the last step but one picks by name or index, of a node to which the steps before lead. -/
def IsGap (document : Value) : List Step → Location → Location → Prop
  | [], _, _ => False
  | [_], _, _ => False
  | [step, _], place, gap => step.isNaming = true ∧ document.Picks step place gap ∧ document.IsVacant gap
  | step :: next :: last :: rest, place, gap =>
    ∃ mid, document.Leads step place mid ∧ document.IsGap (next :: last :: rest) mid gap

/-- What the last step picks, in the document or in a container that fills a gap. -/
def IsTarget (document : Value) (filler : Option Value) (steps : List Step) (place target : Location) : Prop :=
  document.IsPicked steps place target ∨ ∃ container last gap segment, filler = some container ∧
    steps.getLast? = some last ∧ document.IsGap steps place gap ∧ segment ∈ last.segments container ∧
    target = gap ++ [segment]

end Value

/--
The container that fills gaps: an empty object in front of a name, and in front of an index that counts from the
beginning an array of nulls up to it. Nothing does if there is a descent.
-/
def filler? (steps : List Step) : Option Value :=
  if steps.any Fragment.isDescent then none
  else match steps.getLast? with
    | some (.child _) => some (.object [])
    | some (.nth i) => if i.toInt < 0 then none else some (.array (List.replicate (i.toInt.toNat + 1) .null))
    | _ => none

theorem resolveIndex_toNat {i : Int64} (notNegative : ¬ i.toInt < 0) :
    resolveIndex i (i.toInt.toNat + 1) = some i.toInt.toNat := by
  rw [resolveIndex, if_neg notNegative, if_pos (Nat.lt_succ_self _)]

theorem Fragment.isAssignable_of_isNaming {Test : Type} {fragment : Fragment Test}
    (naming : fragment.isNaming = true) : fragment.isAssignable = true := by
  cases fragment with
  | child name => rfl
  | nth i => rfl
  | union selectors => rfl
  | _ => cases naming

/-! ## What a node says about its children -/

theorem Members.mem_of_get? {α : Type} {members : List (String × α)} {name : String} {value : α}
    (found : Members.get? members name = some value) : (name, value) ∈ members := by
  induction members with
  | nil => cases found
  | cons member members ih =>
      rw [Members.get?] at found
      split at found
      · rename_i same
        rcases Option.some.inj found with rfl
        rw [same]
        exact List.mem_cons_self
      · exact List.mem_cons_of_mem _ (ih found)

theorem Members.isSome_get?_of_mem {α : Type} {members : List (String × α)} {name : String} {value : α}
    (member : (name, value) ∈ members) : (Members.get? members name).isSome = true := by
  induction members with
  | nil => cases member
  | cons head members ih =>
      rw [Members.get?]
      split
      · rfl
      · rename_i different
        rcases List.mem_cons.1 member with rfl | later
        · exact absurd rfl different
        · exact ih later

theorem Value.mem_segments {value : Value} {segment : Segment} :
    segment ∈ value.segments ↔ (value.child? segment).isSome = true := by
  cases value with
  | array items => cases segment <;> simp [Value.segments, Value.child?]
  | object members =>
      cases segment with
      | field name =>
          simp only [Value.segments, Value.child?, List.mem_map, Segment.field.injEq, Prod.exists, exists_and_right,
            exists_eq_right]
          constructor
          · rintro ⟨value, member⟩
            exact Members.isSome_get?_of_mem member
          · intro exists'
            rcases Option.isSome_iff_exists.1 exists' with ⟨value, found⟩
            exact ⟨value, Members.mem_of_get? found⟩
      | index i => simp [Value.segments, Value.child?]
  | _ => cases segment <;> simp [Value.segments, Value.child?]

theorem Selector.segments_face (node : Value) (selector : Selector) :
    selector.segments node.face = selector.segments node := by
  cases selector <;> cases node <;> simp [Selector.segments, Value.face]

theorem Selector.admits_of_mem_segments {node : Value} {selector : Selector} {segment : Segment}
    (picked : segment ∈ selector.segments node) : node.admits segment = true := by
  cases selector with
  | key name =>
      cases node <;> simp_all [Selector.segments, Value.admits]
  | index i =>
      cases node with
      | array items =>
          simp only [Selector.segments, List.mem_map, Option.mem_toList] at picked
          rcases picked with ⟨position, resolved, rfl⟩
          simp only [resolveIndex] at resolved
          simp only [Value.admits, decide_eq_true_eq]
          split at resolved
          · split at resolved
            · rcases Option.some.inj resolved with rfl
              omega
            · cases resolved
          · split at resolved
            · rcases Option.some.inj resolved with rfl
              assumption
            · cases resolved
      | _ => cases picked

namespace Step

variable {step : Step} {node other : Value} {segment : Segment}

theorem segments_face (plain : step.isNaming = true) : step.segments node.face = step.segments node := by
  cases step with
  | child name => exact Selector.segments_face node (.key name)
  | nth i => exact Selector.segments_face node (.index i)
  | union selectors =>
      simp only [segments]
      congr 1
      funext selector
      exact Selector.segments_face node selector
  | _ => cases plain

/-- Whether a child is picked can be told from the face of the node and from whether there is the child. -/
theorem mem_segments_congr (faces : node.face = other.face)
    (exist : (node.child? segment).isSome = (other.child? segment).isSome) :
    segment ∈ step.segments node ↔ segment ∈ step.segments other := by
  by_cases naming : step.isNaming = true
  · rw [← segments_face naming, faces, segments_face naming]
  · cases step with
    | child name => exact absurd rfl naming
    | nth i => exact absurd rfl naming
    | union selectors => exact absurd rfl naming
    | wildcard => rw [segments, segments, Value.mem_segments, Value.mem_segments, exist]
    | slice start stop step =>
        cases node <;> cases other <;> simp_all [Value.face, segments]
    | _ => rfl

theorem admits_of_mem_segments (assignable : step.isAssignable = true) (picked : segment ∈ step.segments node) :
    node.admits segment = true := by
  cases step with
  | child name => exact @Selector.admits_of_mem_segments node (.key name) segment picked
  | nth i => exact @Selector.admits_of_mem_segments node (.index i) segment picked
  | union selectors =>
      rcases List.mem_flatMap.1 picked with ⟨selector, _, isPicked⟩
      exact Selector.admits_of_mem_segments isPicked
  | wildcard =>
      rw [segments, Value.mem_segments] at picked
      cases node <;> cases segment <;> simp_all [Value.child?, Value.admits]
  | _ => cases assignable

theorem isContainer_of_mem_segments (picked : segment ∈ step.segments node) : node.isContainer = true := by
  cases node with
  | array items => rfl
  | object members => rfl
  | _ =>
      exfalso
      cases step with
      | union selectors =>
          rcases List.mem_flatMap.1 picked with ⟨selector, _, isPicked⟩
          cases selector <;> cases isPicked
      | _ => cases picked

/-- The last step names a child of the container that fills gaps for it. -/
theorem exists_segment_of_filler? {steps : List Step} {container : Value} (filled : filler? steps = some container) :
    ∃ last segment, steps.getLast? = some last ∧ last.isNaming = true ∧ segment ∈ last.segments container := by
  rw [filler?] at filled
  split at filled
  · cases filled
  · split at filled
    · rename_i name isLast
      rcases Option.some.inj filled with rfl
      exact ⟨_, .field name, isLast, rfl, List.mem_singleton_self _⟩
    · rename_i i isLast
      split at filled
      · cases filled
      · rename_i notNegative
        rcases Option.some.inj filled with rfl
        refine ⟨_, .index i.toInt.toNat, isLast, rfl, ?_⟩
        simp only [segments, Selector.segments, List.length_replicate, resolveIndex_toNat notNegative]
        exact List.mem_singleton_self _
    · cases filled

end Step

namespace Value

variable {document : Value} {step : Step} {steps : List Step} {place child : Location}

theorem isContainerAt_of_above {mid : Location} (above : place <+: mid)
    (container : document.isContainerAt mid = true) : document.isContainerAt place = true := by
  rcases above with ⟨rest, rfl⟩
  cases rest with
  | nil => rwa [List.append_nil] at container
  | cons segment rest =>
      have exists' : (document.at? (place ++ segment :: rest)).isSome = true := by
        rw [isContainerAt] at container
        cases found : document.at? (place ++ segment :: rest) with
        | none => simp [found] at container
        | some node => rfl
      exact isContainerAt_of_below exists'

theorem Picks.isContainerAt (picks : document.Picks step place child) : document.isContainerAt place = true := by
  rcases picks with ⟨node, segment, found, picked, -⟩
  rw [Value.isContainerAt, found]
  exact Step.isContainer_of_mem_segments picked

theorem Leads.above {next : Location} (plain : step.isAnchor = false) (leads : document.Leads step place next) :
    place <+: next := by
  have picked (picks : document.Picks step place next) : place <+: next := by
    rcases picks with ⟨node, segment, -, -, rfl⟩
    exact List.prefix_append _ _
  cases step with
  | root => cases plain
  | current => cases plain
  | descent => exact leads.2
  | _ => exact picked leads.2

/-- What is picked lies below the place to start from, which is a container then. -/
theorem IsPicked.below (plain : ∀ step ∈ steps, step.isAnchor = false)
    (picked : document.IsPicked steps place child) :
    document.isContainerAt place = true ∧ place <+: child ∧ place ≠ child := by
  induction steps generalizing place with
  | nil => exact picked.elim
  | cons step steps ih =>
      cases steps with
      | nil =>
          refine ⟨Picks.isContainerAt picked, ?_⟩
          rcases picked with ⟨node, segment, -, -, rfl⟩
          simp
      | cons next rest =>
          rcases picked with ⟨mid, leads, picked⟩
          have above := leads.above (plain step List.mem_cons_self)
          have below := ih (fun other member => plain other (List.mem_cons_of_mem _ member)) picked
          refine ⟨isContainerAt_of_above above below.1, above.trans below.2.1, ?_⟩
          rintro rfl
          exact below.2.2 (below.2.1.eq_of_length_le above.length_le)

theorem leads_iff {next : Location} (plain : step.isAnchor = false) (walks : step.isDescent = false) :
    document.Leads step place next ↔ (document.at? next).isSome = true ∧ document.Picks step place next := by
  cases step with
  | root => cases plain
  | current => cases plain
  | descent => cases walks
  | _ => rfl

/-- What holds the picked child is a container. -/
theorem IsPicked.isContainerAt {parent : Location} {segment : Segment}
    (picked : document.IsPicked steps place (parent ++ [segment])) : document.isContainerAt parent = true := by
  induction steps generalizing place with
  | nil => exact picked.elim
  | cons step steps ih =>
      cases steps with
      | nil =>
          have container := Picks.isContainerAt picked
          rcases picked with ⟨node, other, -, -, same⟩
          rw [List.append_inj_left' same rfl]
          exact container
      | cons next rest =>
          rcases picked with ⟨mid, -, picked⟩
          exact ih picked

theorem IsGap.below {gap : Location} (plain : ∀ step ∈ steps, step.isAnchor = false)
    (isGap : document.IsGap steps place gap) : document.isContainerAt place = true ∧ place <+: gap := by
  induction steps generalizing place with
  | nil => exact isGap.elim
  | cons step steps ih =>
      match steps with
      | [] => exact isGap.elim
      | [last] =>
          refine ⟨isGap.2.1.isContainerAt, ?_⟩
          rcases isGap.2.1 with ⟨node, segment, -, -, rfl⟩
          exact List.prefix_append _ _
      | next :: last :: rest =>
          rcases isGap with ⟨mid, leads, isGap⟩
          have above := leads.above (plain step List.mem_cons_self)
          have below := ih (fun other member => plain other (List.mem_cons_of_mem _ member)) isGap
          exact ⟨isContainerAt_of_above above below.1, above.trans below.2⟩

theorem IsGap.isVacant {gap : Location} (isGap : document.IsGap steps place gap) : document.IsVacant gap := by
  induction steps generalizing place with
  | nil => exact isGap.elim
  | cons step steps ih =>
      match steps with
      | [] => exact isGap.elim
      | [last] => exact isGap.2.2
      | next :: last :: rest =>
          rcases isGap with ⟨mid, -, isGap⟩
          exact ih isGap

theorem IsVacant.isContainerAt_eq_false (isVacant : document.IsVacant place) :
    document.isContainerAt place = false := by
  rw [IsVacant] at isVacant
  rw [isContainerAt]
  cases found : document.at? place with
  | none => rfl
  | some node =>
      rw [found, Option.all_some] at isVacant
      cases node with
      | null => rfl
      | _ => cases isVacant

theorem IsTarget.below {filler : Option Value} {target : Location} (plain : ∀ step ∈ steps, step.isAnchor = false)
    (isTarget : document.IsTarget filler steps place target) :
    document.isContainerAt place = true ∧ place <+: target ∧ place ≠ target := by
  rcases isTarget with picked | ⟨container, last, gap, segment, -, -, isGap, -, rfl⟩
  · exact picked.below plain
  · have below := isGap.below plain
    refine ⟨below.1, below.2.trans (List.prefix_append _ _), ?_⟩
    rintro rfl
    have := below.2.length_le
    simp only [List.length_append, List.length_singleton] at this
    omega

/-! ## Lengths -/

theorem Picks.length_eq (picks : document.Picks step place child) : child.length = place.length + 1 := by
  rcases picks with ⟨node, segment, -, -, rfl⟩
  exact List.length_append

theorem Leads.length_eq {next : Location} (plain : step.isAnchor = false) (level : step.isDescent = false)
    (leads : document.Leads step place next) : next.length = place.length + 1 :=
  ((leads_iff plain level).1 leads).2.length_eq

/-- Without a descent every step leads one level down. -/
theorem IsPicked.length_eq (plain : ∀ step ∈ steps, step.isAnchor = false)
    (level : ∀ step ∈ steps, step.isDescent = false) (picked : document.IsPicked steps place child) :
    child.length = place.length + steps.length := by
  induction steps generalizing place with
  | nil => exact picked.elim
  | cons step steps ih =>
      cases steps with
      | nil => exact Picks.length_eq picked
      | cons next rest =>
          rcases picked with ⟨mid, leads, picked⟩
          have here := leads.length_eq (plain step List.mem_cons_self) (level step List.mem_cons_self)
          have below := ih (fun other member => plain other (List.mem_cons_of_mem _ member))
            (fun other member => level other (List.mem_cons_of_mem _ member)) picked
          rw [List.length_cons]
          omega

theorem IsGap.length_eq {gap : Location} (plain : ∀ step ∈ steps, step.isAnchor = false)
    (level : ∀ step ∈ steps, step.isDescent = false) (isGap : document.IsGap steps place gap) :
    gap.length + 1 = place.length + steps.length := by
  induction steps generalizing place with
  | nil => exact isGap.elim
  | cons step steps ih =>
      match steps with
      | [] => exact isGap.elim
      | [last] =>
          have here := isGap.2.1.length_eq
          simp only [List.length_cons, List.length_nil]
          omega
      | next :: last :: rest =>
          rcases isGap with ⟨mid, leads, isGap⟩
          have here := leads.length_eq (plain step List.mem_cons_self) (level step List.mem_cons_self)
          have below := ih (fun other member => plain other (List.mem_cons_of_mem _ member))
            (fun other member => level other (List.mem_cons_of_mem _ member)) isGap
          rw [List.length_cons]
          omega

theorem IsTarget.length_eq {filler : Option Value} {target : Location}
    (plain : ∀ step ∈ steps, step.isAnchor = false) (level : ∀ step ∈ steps, step.isDescent = false)
    (isTarget : document.IsTarget filler steps place target) : target.length = place.length + steps.length := by
  rcases isTarget with picked | ⟨container, last, gap, segment, -, -, isGap, -, rfl⟩
  · exact picked.length_eq plain level
  · have := isGap.length_eq plain level
    simp only [List.length_append, List.length_singleton]
    omega

/-! ## One step -/

theorem isTarget_cons {filler : Option Value} {next : Step} {rest : List Step} {target : Location} :
    document.IsTarget filler (step :: next :: rest) place target ↔
      (∃ mid, document.Leads step place mid ∧ document.IsTarget filler (next :: rest) mid target) ∨
        ∃ container gap segment, filler = some container ∧ rest = [] ∧ step.isNaming = true ∧
          document.Picks step place gap ∧ document.IsVacant gap ∧ segment ∈ next.segments container ∧
          target = gap ++ [segment] := by
  constructor
  · rintro (⟨mid, leads, picked⟩ | ⟨container, last, gap, segment, filled, isLast, isGap, isIn, rfl⟩)
    · exact .inl ⟨mid, leads, .inl picked⟩
    · cases rest with
      | nil =>
          rcases Option.some.inj isLast with rfl
          exact .inr ⟨container, gap, segment, filled, rfl, isGap.1, isGap.2.1, isGap.2.2, isIn, rfl⟩
      | cons last' rest =>
          rcases isGap with ⟨mid, leads, isGap⟩
          rw [List.getLast?_cons_cons] at isLast
          exact .inl ⟨mid, leads, .inr ⟨container, last, gap, segment, filled, isLast, isGap, isIn, rfl⟩⟩
  · rintro (⟨mid, leads, picked | ⟨container, last, gap, segment, filled, isLast, isGap, isIn, rfl⟩⟩ |
      ⟨container, gap, segment, filled, rfl, naming, picks, isVacant, isIn, rfl⟩)
    · exact .inl ⟨mid, leads, picked⟩
    · refine .inr ⟨container, last, gap, segment, filled, ?_, ?_, isIn, rfl⟩
      · rwa [List.getLast?_cons_cons]
      · cases rest with
        | nil => exact isGap.elim
        | cons last' rest => exact ⟨mid, leads, isGap⟩
    · exact .inr ⟨container, next, gap, segment, filled, rfl, ⟨naming, picks, isVacant⟩, isIn, rfl⟩

theorem isTarget_singleton {filler : Option Value} {target : Location} :
    document.IsTarget filler [step] place target ↔ document.Picks step place target := by
  constructor
  · rintro (picked | ⟨_, _, _, _, _, _, isGap, _⟩)
    · exact picked
    · exact isGap.elim
  · exact .inl

theorem leads_anchor {mid : Location} (anchor : step.isAnchor = true) : document.Leads step [] mid ↔ mid = [] := by
  have atRoot : mid = [] → (document.at? mid).isSome = true := by
    rintro rfl
    rfl
  cases step with
  | root => exact ⟨fun leads => leads.2, fun here => ⟨atRoot here, here⟩⟩
  | current => exact ⟨fun leads => leads.2, fun here => ⟨atRoot here, here⟩⟩
  | _ => cases anchor

theorem isNaming_of_isAnchor (anchor : step.isAnchor = true) : step.isNaming = false := by
  cases step with
  | root => rfl
  | current => rfl
  | _ => cases anchor

/-- The anchor at the head of a path leads from the root to the root. -/
theorem isTarget_anchor {filler : Option Value} {target : Location} (anchor : step.isAnchor = true)
    (more : steps ≠ []) :
    document.IsTarget filler (step :: steps) [] target ↔ document.IsTarget filler steps [] target := by
  cases steps with
  | nil => exact absurd rfl more
  | cons next rest =>
      rw [isTarget_cons]
      simp [leads_anchor anchor, isNaming_of_isAnchor anchor]

theorem isGap_anchor {gap : Location} (anchor : step.isAnchor = true) :
    document.IsGap (step :: steps) [] gap ↔ document.IsGap steps [] gap := by
  match steps with
  | [] => rfl
  | [last] => simp [IsGap, isNaming_of_isAnchor anchor]
  | next :: last :: rest => simp [IsGap, leads_anchor anchor]

/-- A descent goes on from the place itself, and then from each container right below it. -/
theorem isTarget_descent {rest : List Step} {target : Location} (plain : ∀ step ∈ rest, step.isAnchor = false) :
    document.IsTarget none (.descent :: rest) place target ↔
      document.IsTarget none rest place target ∨ ∃ segment,
        document.isContainerAt (place ++ [segment]) = true ∧
          document.IsTarget none (.descent :: rest) (place ++ [segment]) target := by
  cases rest with
  | nil =>
      simp only [isTarget_singleton]
      constructor
      · rintro ⟨_, _, _, isIn, _⟩
        cases isIn
      · rintro (isTarget | ⟨_, _, _, _, _, isIn, _⟩)
        · rcases isTarget with picked | ⟨_, _, _, _, filled, _⟩
          · exact picked.elim
          · cases filled
        · cases isIn
  | cons next rest =>
      simp only [isTarget_cons, reduceCtorEq, false_and, exists_false, or_false]
      constructor
      · rintro ⟨mid, ⟨exists', below⟩, isTarget⟩
        rcases below with ⟨_ | ⟨segment, below⟩, rfl⟩
        · rw [List.append_nil] at isTarget
          exact .inl isTarget
        · have split : place ++ segment :: below = place ++ [segment] ++ below := by simp
          rw [split] at exists' isTarget
          have within := List.prefix_append (place ++ [segment]) below
          exact .inr ⟨segment, isContainerAt_of_above within (isTarget.below plain).1, _,
            ⟨exists', within⟩, isTarget⟩
      · rintro (isTarget | ⟨segment, -, mid, ⟨exists', below⟩, isTarget⟩)
        · have container := (isTarget.below plain).1
          refine ⟨place, ⟨?_, List.prefix_refl _⟩, isTarget⟩
          rw [isContainerAt] at container
          cases found : document.at? place with
          | none => simp [found] at container
          | some node => rfl
        · exact ⟨mid, ⟨exists', (List.prefix_append _ _).trans below⟩, isTarget⟩

end Value

end TreePath

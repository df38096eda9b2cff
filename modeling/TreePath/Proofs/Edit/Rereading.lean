import TreePath.Proofs.Edit.Errors
import TreePath.Proofs.Edit.Order
import TreePath.Proofs.Edit.Selection
import TreePath.Regex.Standard

/-!
# Reading after an edit

What a path without filters selects after it was used for an edit. The query finds nothing but what is picked, and a
location that is picked afterwards either was picked before, and then it was overwritten, or it stands within something
that was overwritten.
-/

namespace TreePath

/-! ## What the query finds -/

section Reading

variable {document : Value} {step : Step} {site found : Site}

theorem Step.picks_of_mem_sites (wellFormed : document.WellFormed) (stands : site.StandsIn document)
    (plain : step.isAnchor = false) (walks : step.isDescent = false) (unfiltered : step.isFilter = false)
    (isFound : found ∈ step.sites document site) : document.Picks step site.location found.location := by
  rw [Step.sites_eq_choices (stands.wellFormed wellFormed) plain walks] at isFound
  rcases List.mem_filterMap.1 isFound with ⟨segment, isIn, isChild⟩
  have choices_eq : step.choices document site.value = step.segments site.value := by
    cases step with
    | filter test => cases unfiltered
    | _ => rfl
  rw [choices_eq] at isIn
  exact ⟨site.value, segment, stands, isIn, (Site.child?_eq_some.1 isChild).1⟩

theorem Step.leads_of_mem_sites (wellFormed : document.WellFormed) (stands : site.StandsIn document)
    (walks : step.isDescent = false) (unfiltered : step.isFilter = false)
    (isFound : found ∈ step.sites document site) : document.Leads step site.location found.location := by
  have isThere : (document.at? found.location).isSome = true :=
    Option.isSome_of_eq_some (stands.of_mem_sites wellFormed isFound)
  cases anchor : step.isAnchor with
  | true =>
      cases step with
      | root =>
          rcases List.mem_singleton.1 isFound with rfl
          exact ⟨isThere, rfl⟩
      | current =>
          rcases List.mem_singleton.1 isFound with rfl
          exact ⟨isThere, rfl⟩
      | _ => cases anchor
  | false =>
      exact (Value.leads_iff anchor walks).2
        ⟨isThere, Step.picks_of_mem_sites wellFormed stands anchor walks unfiltered isFound⟩

/-- What is found by going down is found from a site at or below the one to start from. -/
theorem Site.exists_of_mem_spread (wellFormed : document.WellFormed) {enters : Value → Bool} {f : Site → List Site}
    (stands : site.StandsIn document) (isFound : found ∈ site.spread enters f) :
    ∃ mid, mid.StandsIn document ∧ site.location <+: mid.location ∧ found ∈ f mid := by
  induction site using Site.induction_children with
  | holds site ih =>
      rw [Site.spread_eq] at isFound
      rcases List.mem_append.1 isFound with here | below
      · exact ⟨site, stands, List.prefix_refl _, here⟩
      · rcases List.mem_flatMap.1 below with ⟨child, isEntered, isFound⟩
        have isChild := List.mem_of_mem_filter isEntered
        rcases ih child isChild (stands.of_mem_children wellFormed isChild) isFound with
          ⟨mid, midStands, isBelow, isAtMid⟩
        rcases List.mem_map.1 isChild with ⟨⟨segment, value⟩, -, rfl⟩
        exact ⟨mid, midStands, (List.prefix_append _ _).trans isBelow, isAtMid⟩

/-- What is found along steps that an edit can follow is picked by them. -/
theorem isPicked_of_mem_findSites (wellFormed : document.WellFormed) {steps : List Step}
    (unfiltered : ∀ step ∈ steps, step.isFilter = false)
    (assignable : ∀ last ∈ steps.getLast?, last.isAssignable = true) (stands : site.StandsIn document)
    (isFound : found ∈ findSites document steps site) : document.IsPicked steps site.location found.location := by
  induction steps generalizing site with
  | nil => cases isFound
  | cons step steps ih =>
      have unfilteredHere := unfiltered step List.mem_cons_self
      cases steps with
      | nil =>
          rcases isDescent_of_isAssignable (assignable step rfl) with ⟨walks, plain⟩
          rw [findSites_last document site (ne_descent walks)] at isFound
          exact Step.picks_of_mem_sites wellFormed stands plain walks unfilteredHere isFound
      | cons next rest =>
          rw [List.getLast?_cons_cons] at assignable
          have onward {mid : Site} (midStands : mid.StandsIn document)
              (isFound : found ∈ findSites document (next :: rest) mid) :
              document.IsPicked (next :: rest) mid.location found.location :=
            ih (fun other isIn => unfiltered other (List.mem_cons_of_mem _ isIn)) assignable midStands isFound
          by_cases descent : step = .descent
          · subst descent
            rcases Site.exists_of_mem_spread wellFormed stands isFound with ⟨mid, midStands, below, isFound⟩
            exact ⟨mid.location, ⟨Option.isSome_of_eq_some midStands, below⟩, onward midStands isFound⟩
          · have walks : step.isDescent = false := by
              cases step with
              | descent => exact absurd rfl descent
              | _ => rfl
            rw [findSites_cons document site descent (List.cons_ne_nil next rest)] at isFound
            rcases List.mem_flatMap.1 isFound with ⟨mid, isMid, isFound⟩
            exact ⟨mid.location, Step.leads_of_mem_sites wellFormed stands walks unfilteredHere isMid,
              onward (stands.of_mem_sites wellFormed isMid) isFound⟩

end Reading

/-! ## Behind the anchor -/

/-- The same steps as others, but for the anchor that these may have at their head. -/
structure Unanchored (steps walked : List Step) : Prop where
  plain : ∀ step ∈ walked, step.isAnchor = false
  subset : ∀ step ∈ walked, step ∈ steps
  last : walked.getLast? = steps.getLast?
  isTarget_iff : ∀ (document : Value) (filler : Option Value) (target : Location),
    document.IsTarget filler steps [] target ↔ document.IsTarget filler walked [] target
  isGap_iff : ∀ (document : Value) (gap : Location), document.IsGap steps [] gap ↔ document.IsGap walked [] gap

theorem Editable.exists_unanchored {steps : List Step} (editable : Editable steps) :
    ∃ walked, Unanchored steps walked := by
  rcases anchored_or_plain (by rw [List.drop_one]; exact editable.plain) with ⟨head, here, anchor⟩ | plain
  · have more := editable.drop_one_ne_nil here anchor
    cases steps with
    | nil => cases here
    | cons step rest =>
        rcases Option.some.inj here with rfl
        refine ⟨rest, editable.plain, fun other isIn => List.mem_cons_of_mem _ isIn, ?_, ?_, ?_⟩
        · exact (List.getLast?_cons_of_ne_nil more).symm
        · exact fun document filler target => Value.isTarget_anchor anchor more
        · exact fun document gap => Value.isGap_anchor anchor
  · exact ⟨steps, plain, fun _ => id, rfl, fun _ _ _ => Iff.rfl, fun _ _ => Iff.rfl⟩

theorem Value.isTarget_none {document : Value} {steps : List Step} {place target : Location} :
    document.IsTarget none steps place target ↔ document.IsPicked steps place target := by
  simp [IsTarget]

theorem Unanchored.isPicked_iff {steps walked : List Step} (unanchored : Unanchored steps walked) (document : Value)
    (target : Location) : document.IsPicked steps [] target ↔ document.IsPicked walked [] target := by
  rw [← Value.isTarget_none, ← Value.isTarget_none, unanchored.isTarget_iff]

theorem isDescent_of_filler? {steps : List Step} (isSome : (filler? steps).isSome = true) :
    ∀ step ∈ steps, step.isDescent = false := by
  rw [filler?] at isSome
  split at isSome
  · cases isSome
  · rename_i level
    rw [Bool.not_eq_true, List.any_eq_false] at level
    intro step isIn
    exact Bool.eq_false_iff.2 (level step isIn)

namespace Path

/-- All that can be found where something was deleted is null in the place of an item. -/
theorem eq_null_of_leftover {place rest : Location} {found : Value}
    (isFound : (place.getLast?.bind Value.leftover).bind (·.at? rest) = some found) :
    found = .null ∧ ∃ i, place.getLast? = some (.index i) := by
  rcases Option.bind_eq_some_iff.1 isFound with ⟨left, isLeft, isBelow⟩
  rcases Option.bind_eq_some_iff.1 isLeft with ⟨segment, isLast, isLeft⟩
  cases segment with
  | field name => cases isLeft
  | index i =>
      rcases Option.some.inj isLeft with rfl
      refine ⟨?_, i, isLast⟩
      cases rest with
      | nil => exact (Option.some.inj isBelow).symm
      | cons segment rest => cases segment <;> cases isBelow

section Rereading

variable [RegexSyntax] {path : Path} {document value : Value}

/-- What the path selects in a document stands at locations that it picks. -/
theorem exists_isPicked_of_mem_get (wellFormed : document.WellFormed)
    (unfiltered : ∀ fragment ∈ path.fragments, fragment.isFilter = false)
    (assignable : ∀ target ∈ path.fragments.getLast?, target.isAssignable = true) {found : Value}
    (isFound : found ∈ path.get document) :
    ∃ location, document.IsPicked path.steps [] location ∧ document.at? location = some found := by
  rw [← path.map_value_sites document] at isFound
  rcases List.mem_map.1 isFound with ⟨site, isSite, rfl⟩
  have stands := Site.rootSite_standsIn document
  exact ⟨site.location,
    isPicked_of_mem_findSites wellFormed (unfiltered_steps unfiltered) (assignable_steps assignable) stands isSite,
    findSites_standsIn wellFormed stands site isSite⟩

/-- Setting a value fills the gaps and then overwrites all that is picked. -/
structure Writes (walked : List Step) (filler : Option Value) (document prepared later value : Value) : Prop where
  filled : Overlay document prepared (fun gap => filler.isSome = true ∧ document.IsGap walked [] gap) fun _ => filler
  stored : Overlay prepared later (prepared.IsPicked walked []) fun _ => some value

theorem exists_writes {walked : List Step} {count : Nat} (path_wellFormed : path.WellFormed)
    (unfiltered : ∀ fragment ∈ path.fragments, fragment.isFilter = false) (unanchored : Unanchored path.steps walked)
    (succeeds : (path.set value document).outcome = .ok count) :
    ∃ prepared, Writes walked (filler? path.steps) document prepared (path.set value document).document value := by
  rcases overlays_of_edit path_wellFormed unfiltered rfl succeeds with ⟨prepared, filled, stored⟩
  have level (isSome : (filler? path.steps).isSome = true) : ∀ step ∈ walked, step.isDescent = false :=
    fun step isIn => isDescent_of_filler? isSome step (unanchored.subset step isIn)
  have filled : Overlay document prepared
      (fun gap => (filler? path.steps).isSome = true ∧ document.IsGap walked [] gap) fun _ => filler? path.steps := by
    simp only [unanchored.isGap_iff] at filled
    exact filled
  have picked_iff (target : Location) :
      prepared.IsPicked walked [] target ↔ document.IsTarget (filler? path.steps) path.steps [] target := by
    rw [unanchored.isTarget_iff, Value.isPicked_iff_isTarget unanchored.plain level filled]
  refine ⟨prepared, filled, stored.congr ?_ ?_⟩
  · intro target isDue
    exact (picked_iff target).2 isDue.1
  · intro target outermost
    exact ⟨(picked_iff target).1 outermost.1, .inl rfl⟩

/-- Deleting overwrites all that is picked and exists, by what is left of it. -/
theorem overlay_of_delete {walked : List Step} {count : Nat} (path_wellFormed : path.WellFormed)
    (unfiltered : ∀ fragment ∈ path.fragments, fragment.isFilter = false) (unanchored : Unanchored path.steps walked)
    (succeeds : (path.delete document).outcome = .ok count) :
    Overlay document (path.delete document).document
      (fun target => document.IsPicked walked [] target ∧ (document.at? target).isSome = true)
      (fun target => target.getLast?.bind Value.leftover) := by
  rcases overlays_of_edit path_wellFormed unfiltered rfl succeeds with ⟨prepared, filled, removed⟩
  have noFiller : (path.plan (Action.delete : Action Unit) none).filler = none := rfl
  have same : prepared = document := by
    apply Option.some.inj
    apply filled.same []
    rintro _ ⟨isSome, -⟩
    rw [noFiller] at isSome
    cases isSome
  rw [same] at removed
  have due_iff (target : Location) : (path.plan (Action.delete : Action Unit) none).Due 0 document target ↔
      document.IsPicked walked [] target ∧ (document.at? target).isSome = true := by
    rw [Plan.Due, Plan.Aims, noFiller, Value.isTarget_none, ← unanchored.isPicked_iff]
    exact and_congr_right fun _ => or_iff_right (by simp [plan, Action.isSet, Action.operation])
  exact removed.congr (fun target => (due_iff target).1) fun target outermost => (due_iff target).2 outermost.1

/-- What is picked after a deletion stands within something that was deleted. -/
theorem found_after_delete {count : Nat} (path_wellFormed : path.WellFormed)
    (unfiltered : ∀ fragment ∈ path.fragments, fragment.isFilter = false) (wellFormed : document.WellFormed)
    (succeeds : (path.delete document).outcome = .ok count) {found : Value}
    (isFound : found ∈ path.get (path.delete document).document) :
    found = .null ∧ ∀ name, path.fragments.getLast? ≠ some (.child name) := by
  rcases edit_eq_ok rfl succeeds with ⟨_, assignable, -, -⟩
  rcases (editable_steps path_wellFormed assignable).exists_unanchored with ⟨walked, unanchored⟩
  have overlay := overlay_of_delete path_wellFormed unfiltered unanchored succeeds
  have laterWellFormed : (path.delete document).document.WellFormed :=
    path.edit_wellFormed .delete trivial none () wellFormed
  rcases exists_isPicked_of_mem_get laterWellFormed unfiltered assignable isFound with ⟨location, picked, stands⟩
  rw [unanchored.isPicked_iff] at picked
  have within : Within (fun target => document.IsPicked walked [] target ∧ (document.at? target).isSome = true)
      location := by
    apply Classical.byContradiction
    intro outside
    have wasPicked := (overlay.isPicked_iff unanchored.plain outside).1 picked
    have wasThere := overlay.isSome_at?_eq outside
    rw [stands] at wasThere
    exact outside ⟨location, ⟨wasPicked, wasThere.symm⟩, List.prefix_refl _⟩
  rcases within.exists_outermost with ⟨place, outermost, rest, rfl⟩
  rw [Value.at?_append, overlay.stored place outermost] at stands
  rcases eq_null_of_leftover stands with ⟨isNull, i, isIndex⟩
  refine ⟨isNull, ?_⟩
  intro name isChild
  have isLast : walked.getLast? = some (.child name) := by
    rw [unanchored.last, getLast?_steps, isChild]
    rfl
  rcases outermost.1.1.exists_last with ⟨last, parent, isEnd, node, segment, -, isIn, rfl⟩
  rcases Option.some.inj (isLast.symm.trans isEnd) with rfl
  rw [List.getLast?_concat] at isIndex
  rcases Option.some.inj isIndex with rfl
  cases node <;> simp [Step.segments, Selector.segments] at isIn

/-- What is picked after setting a value without a descent was written, since all that is picked is equally deep. -/
theorem found_after_set {count : Nat} (path_wellFormed : path.WellFormed)
    (unfiltered : ∀ fragment ∈ path.fragments, fragment.isFilter = false)
    (level : ∀ fragment ∈ path.fragments, fragment.isDescent = false) (wellFormed : document.WellFormed)
    (isOrdered : value.WellFormed) (succeeds : (path.set value document).outcome = .ok count) {found : Value}
    (isFound : found ∈ path.get (path.set value document).document) : found = value := by
  rcases edit_eq_ok rfl succeeds with ⟨_, assignable, -, -⟩
  rcases (editable_steps path_wellFormed assignable).exists_unanchored with ⟨walked, unanchored⟩
  rcases exists_writes path_wellFormed unfiltered unanchored succeeds with ⟨prepared, writes⟩
  have laterWellFormed : (path.set value document).document.WellFormed :=
    path.edit_wellFormed (.set value) isOrdered none () wellFormed
  have walkedLevel (step : Step) (isIn : step ∈ walked) : step.isDescent = false :=
    level_steps level step (unanchored.subset step isIn)
  rcases exists_isPicked_of_mem_get laterWellFormed unfiltered assignable isFound with ⟨location, picked, stands⟩
  rw [unanchored.isPicked_iff] at picked
  have within : Within (prepared.IsPicked walked []) location := by
    apply Classical.byContradiction
    intro outside
    exact outside ⟨location, (writes.stored.isPicked_iff unanchored.plain outside).1 picked, List.prefix_refl _⟩
  rcases within.exists_outermost with ⟨place, outermost, above⟩
  have sameLength : place.length = location.length := by
    rw [outermost.1.length_eq unanchored.plain walkedLevel, picked.length_eq unanchored.plain walkedLevel]
  rcases above.eq_of_length sameLength
  rw [writes.stored.stored location outermost] at stands
  exact (Option.some.inj stands).symm

/--
Reading after an edit along a path that was read and has no filters. Once a deletion went well, the path selects nothing
but null, and nothing at all if it ends in a name. Once a value was set along a path without descents, the path selects
nothing but that value.
-/
theorem get_after_delete_and_set {text : String} {path : Path} (parsed : Path.parse text = .ok path)
    (unfiltered : ∀ fragment ∈ path.fragments, fragment.isFilter = false) {document value : Value}
    (wellFormed : document.WellFormed) (isOrdered : value.WellFormed) :
    (∀ count, (path.delete document).outcome = .ok count →
      (∀ found ∈ path.get (path.delete document).document, found = .null) ∧
        ∀ name, path.fragments.getLast? = some (.child name) → path.get (path.delete document).document = []) ∧
      ((∀ fragment ∈ path.fragments, fragment.isDescent = false) →
        ∀ count, (path.set value document).outcome = .ok count →
          ∀ found ∈ path.get (path.set value document).document, found = value) := by
  have path_wellFormed := wellFormed_of_parse parsed
  constructor
  · intro count succeeds
    constructor
    · intro found isFound
      exact (found_after_delete path_wellFormed unfiltered wellFormed succeeds isFound).1
    · intro name isChild
      apply List.eq_nil_iff_forall_not_mem.2
      intro found isFound
      exact (found_after_delete path_wellFormed unfiltered wellFormed succeeds isFound).2 name isChild
  · intro level count succeeds found isFound
    exact found_after_set path_wellFormed unfiltered level wellFormed isOrdered succeeds isFound

end Rereading

/-- The path to the members `c` of the members `a` and `b`. -/
def membersOfPair : Path where
  fragments := [.root, .union [.key "a", .key "b"], .child "c"]

/-- A document in which only one member of the pair exists. -/
def halfPair : Value :=
  .object [("a", .object [("c", .integer 1), ("d", .null)])]

theorem get_after_delete_and_set_membersOfPair :
    Path.parse membersOfPair.text = .ok membersOfPair ∧
      (∀ fragment ∈ membersOfPair.fragments, fragment.isFilter = false) ∧ halfPair.WellFormed ∧
      (Value.boolean true).WellFormed ∧
      (membersOfPair.delete halfPair).outcome = .ok 1 ∧
      (∀ found ∈ membersOfPair.get (membersOfPair.delete halfPair).document, found = .null) ∧
      membersOfPair.fragments.getLast? = some (.child "c") ∧
      membersOfPair.get (membersOfPair.delete halfPair).document = [] ∧
      (∀ fragment ∈ membersOfPair.fragments, fragment.isDescent = false) ∧
      (membersOfPair.set (.boolean true) halfPair).outcome = .ok 2 ∧
      (membersOfPair.get (membersOfPair.set (.boolean true) halfPair).document).length = 2 ∧
      ∀ found ∈ membersOfPair.get (membersOfPair.set (.boolean true) halfPair).document, found = .boolean true := by
  have parsed : Path.parse membersOfPair.text = .ok membersOfPair :=
    parse_text_of_wellFormed ⟨by simp [membersOfPair, Fragment.WellFormed], by simp [membersOfPair, Fragment.isAnchor]⟩
  have unfiltered : ∀ fragment ∈ membersOfPair.fragments, fragment.isFilter = false := by
    simp [membersOfPair, Fragment.isFilter]
  have level : ∀ fragment ∈ membersOfPair.fragments, fragment.isDescent = false := by
    simp [membersOfPair, Fragment.isDescent]
  have wellFormed : halfPair.WellFormed := by
    simp only [halfPair, Value.WellFormed, Value.WellFormedMembers, Members.Ordered, and_true]
    decide
  have isDeleted : (membersOfPair.delete halfPair).outcome = .ok 1 := by cbv
  have isSet : (membersOfPair.set (.boolean true) halfPair).outcome = .ok 2 := by cbv
  have isRead : (membersOfPair.get (membersOfPair.set (.boolean true) halfPair).document).length = 2 := by cbv
  have isOrdered : (Value.boolean true).WellFormed := trivial
  have rereads := get_after_delete_and_set parsed unfiltered wellFormed isOrdered
  exact ⟨parsed, unfiltered, wellFormed, isOrdered, isDeleted, (rereads.1 1 isDeleted).1, rfl,
    (rereads.1 1 isDeleted).2 "c" rfl, level, isSet, isRead, rereads.2 level 2 isSet⟩

end Path

end TreePath

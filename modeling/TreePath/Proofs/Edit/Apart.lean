import TreePath.Proofs.Edit.Choices
import TreePath.Proofs.Edit.Errors

/-!
# Sites apart from each other

Steps that go on to children by what they are called, without descents and filters, find no site within another one, as long
as no union among them resolves two selectors to one child of a node: two sites part at some step, and the step goes on to
different children.
-/

namespace TreePath

/-- Neither of two locations is within the other. -/
def Unrelated (location other : Location) : Prop :=
  ¬ location <+: other ∧ ¬ other <+: location

/-- What is below unrelated locations is unrelated. -/
theorem Unrelated.below {location other below otherBelow : Location} (unrelated : Unrelated location other)
    (within : location <+: below) (otherWithin : other <+: otherBelow) : Unrelated below otherBelow := by
  constructor
  · intro above
    rcases List.prefix_or_prefix_of_prefix (within.trans above) otherWithin with first | second
    · exact unrelated.1 first
    · exact unrelated.2 second
  · intro above
    rcases List.prefix_or_prefix_of_prefix within (otherWithin.trans above) with first | second
    · exact unrelated.1 first
    · exact unrelated.2 second

theorem unrelated_of_length_eq {location other : Location} (level : location.length = other.length)
    (different : location ≠ other) : Unrelated location other :=
  ⟨fun above => different (above.eq_of_length level), fun above => different (above.eq_of_length level.symm).symm⟩

theorem unrelated_children (location : Location) {segment other : Segment} (different : segment ≠ other) :
    Unrelated (location ++ [segment]) (location ++ [other]) := by
  apply unrelated_of_length_eq (by simp)
  intro same
  exact different (List.singleton_inj.1 (List.append_cancel_left same))

/-- The children that a step goes on to are apart from each other, if it picks none of those that are there twice. -/
theorem Step.pairwise_sites {root : Value} {site : Site} {step : Step} (wellFormed : site.value.WellFormed)
    (plain : step.isAnchor = false) (flat : step.isDescent = false)
    (distinct : ((step.choices root site.value).filter fun segment => (site.value.child? segment).isSome).Nodup) :
    (step.sites root site).Pairwise fun found other => Unrelated found.location other.location := by
  rw [sites_eq_choices wellFormed plain flat]
  apply List.pairwise_filterMap.2
  apply (List.pairwise_filter.1 distinct).imp
  intro segment other different found isFound another isAnother
  rcases Site.child?_eq_some.1 isFound with ⟨isHere, isChild⟩
  rcases Site.child?_eq_some.1 isAnother with ⟨isThere, isOther⟩
  rw [isHere, isThere]
  exact unrelated_children site.location
    (different (Option.isSome_of_eq_some isChild) (Option.isSome_of_eq_some isOther))

/-- A step that goes on to children by what they are called, and does not look at anything else. -/
structure Step.IsDirect (step : Step) : Prop where
  plain : step.isAnchor = false
  flat : step.isDescent = false
  unfiltered : step.isFilter = false

theorem Step.IsDirect.choices_eq {step : Step} (direct : step.IsDirect) (root node : Value) :
    step.choices root node = step.segments node := by
  rcases direct with ⟨-, -, unfiltered⟩
  cases step <;> first | rfl | cases unfiltered

theorem Step.IsDirect.sites_eq {step : Step} (direct : step.IsDirect) (root : Value) {site : Site}
    (wellFormed : site.value.WellFormed) :
    step.sites root site = (step.segments site.value).filterMap site.child? := by
  rw [Step.sites_eq_choices wellFormed direct.plain direct.flat, direct.choices_eq]

theorem Step.IsDirect.of_mem_sites {step : Step} (direct : step.IsDirect) {root : Value} {site found : Site}
    (wellFormed : site.value.WellFormed) (isFound : found ∈ step.sites root site) :
    found.value.WellFormed ∧ ∃ segment ∈ step.segments site.value,
      found.location = site.location ++ [segment] ∧ site.value.child? segment = some found.value := by
  rw [direct.sites_eq root wellFormed] at isFound
  rcases List.mem_filterMap.1 isFound with ⟨segment, isIn, isChild⟩
  rcases Site.child?_eq_some.1 isChild with ⟨isHere, isChild⟩
  exact ⟨wellFormed.of_mem_children (Value.mem_children_of_child? isChild), segment, isIn, isHere, isChild⟩

/-! ## Unions -/

/-- The children of a node to which selectors resolve, one after the other. -/
def Value.slots (node : Value) (selectors : List Selector) : List Segment :=
  (selectors.flatMap (Selector.segments node)).filter fun segment => (node.child? segment).isSome

/-- No union among steps resolves two selectors to the same child of a node that the steps before it reach. -/
def NamesOnce (root : Value) (steps : List Step) (node : Value) : Prop :=
  ∀ k selectors, steps[k]? = some (.union selectors) → ∀ found ∈ reached root (steps.take k) node,
    (found.slots selectors).Nodup

namespace NamesOnce

variable {root node : Value} {step : Step} {pending : List Step}

theorem nodup_choices (once : NamesOnce root (step :: pending) node) (wellFormed : node.WellFormed) :
    ((step.choices root node).filter fun segment => (node.child? segment).isSome).Nodup := by
  by_cases isUnion : ∃ selectors, step = .union selectors
  · rcases isUnion with ⟨selectors, rfl⟩
    exact once 0 selectors rfl node (List.mem_singleton_self node)
  · exact (Step.nodup_choices wellFormed.isOrdered fun selectors same => absurd ⟨selectors, same⟩ isUnion).filter _

theorem next (once : NamesOnce root (step :: pending) node) (walks : step.isDescent = false) {child : Value}
    (isPicked : child ∈ step.pick root node) : NamesOnce root pending child := by
  intro k selectors isUnion found isFound
  refine once (k + 1) selectors isUnion found ?_
  rw [List.take_succ_cons, reached_cons walks]
  exact List.mem_flatMap.2 ⟨child, isPicked, isFound⟩

theorem of_child (once : NamesOnce root (step :: pending) node) (direct : step.IsDirect) (wellFormed : node.WellFormed)
    {segment : Segment} {child : Value} (isIn : segment ∈ step.segments node)
    (isChild : node.child? segment = some child) : NamesOnce root pending child := by
  apply once.next direct.flat
  rw [← Step.map_value_sites root ⟨[], node⟩, direct.sites_eq root wellFormed]
  refine List.mem_map.2 ⟨⟨[segment], child⟩, ?_, rfl⟩
  exact List.mem_filterMap.2 ⟨segment, isIn, Site.child?_eq_some.2 ⟨rfl, isChild⟩⟩

end NamesOnce

theorem Path.namesOnce_steps [RegexSyntax] {path : Path} {document : Value}
    (unions : ∀ k selectors, path.fragments[k]? = some (.union selectors) → ∀ node ∈ path.nodes document k,
      (node.slots selectors).Nodup) : NamesOnce document path.steps document := by
  intro k selectors isUnion found isFound
  rw [getElem?_steps] at isUnion
  rcases Option.map_eq_some_iff.1 isUnion with ⟨fragment, isFragment, isUnion⟩
  rw [reached_take (List.getElem?_eq_some_iff.1 isFragment).1] at isFound
  cases fragment with
  | union others =>
      rcases Fragment.union.inj isUnion with rfl
      exact unions k others isFragment found isFound
  | _ => cases isUnion

/-! ## Sites apart from each other -/

theorem findSites_within {document : Value} {steps : List Step} {site : Site} (wellFormed : site.value.WellFormed)
    (direct : ∀ step ∈ steps, step.IsDirect) :
    ∀ found ∈ findSites document steps site, site.location <+: found.location := by
  induction steps generalizing site with
  | nil =>
      intro found isFound
      cases isFound
  | cons step pending ih =>
      rcases List.forall_mem_cons.1 direct with ⟨here, others⟩
      have below : ∀ found ∈ step.sites document site, site.location <+: found.location := by
        intro found isFound
        rcases here.of_mem_sites wellFormed isFound with ⟨-, segment, -, isHere, -⟩
        rw [isHere]
        exact List.prefix_append _ _
      intro found isFound
      cases pending with
      | nil =>
          rw [findSites_last document site (ne_descent here.flat)] at isFound
          exact below found isFound
      | cons next rest =>
          rw [findSites_cons document site (ne_descent here.flat) (List.cons_ne_nil next rest)] at isFound
          rcases List.mem_flatMap.1 isFound with ⟨mid, isMid, isFound⟩
          exact (below mid isMid).trans (ih (here.of_mem_sites wellFormed isMid).1 others found isFound)

/-- What steps find is apart from each other, since they part at some step and go on to different children there. -/
theorem findSites_pairwise {document : Value} {steps : List Step} {site : Site} (wellFormed : site.value.WellFormed)
    (direct : ∀ step ∈ steps, step.IsDirect) (once : NamesOnce document steps site.value) :
    (findSites document steps site).Pairwise fun found other => Unrelated found.location other.location := by
  induction steps generalizing site with
  | nil => exact List.Pairwise.nil
  | cons step pending ih =>
      rcases List.forall_mem_cons.1 direct with ⟨here, others⟩
      have children := Step.pairwise_sites wellFormed here.plain here.flat (once.nodup_choices wellFormed)
      cases pending with
      | nil =>
          rw [findSites_last document site (ne_descent here.flat)]
          exact children
      | cons next rest =>
          rw [findSites_cons document site (ne_descent here.flat) (List.cons_ne_nil next rest)]
          have below : ∀ found ∈ step.sites document site, found.value.WellFormed ∧
              NamesOnce document (next :: rest) found.value := by
            intro found isFound
            rcases here.of_mem_sites wellFormed isFound with ⟨isWellFormed, segment, isIn, -, isChild⟩
            exact ⟨isWellFormed, once.of_child here wellFormed isIn isChild⟩
          apply List.pairwise_flatMap.2
          constructor
          · intro found isFound
            exact ih (below found isFound).1 others (below found isFound).2
          · apply children.imp_of_mem
            intro found other isFound isOther unrelated one isOne another isAnother
            exact unrelated.below (findSites_within (below found isFound).1 others one isOne)
              (findSites_within (below other isOther).1 others another isAnother)

end TreePath

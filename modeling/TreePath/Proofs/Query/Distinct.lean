import TreePath.Proofs.Edit.Apart
import TreePath.Proofs.Edit.Matches
import TreePath.Proofs.Query.Composition
import TreePath.Regex.Standard

/-!
# No location is found twice

What is found from different children of a node is apart. So steps find no location twice as long as no union among them
resolves two selectors to the same child. A descent stops at sites within each other, but the steps behind it lead equally
far down from all of them: what they find from a site is not as deep as what they find from the sites below it.
-/

namespace TreePath

/-- Sites at different locations, which are all within a location and at least so many segments below it. -/
structure Occupies (location : Location) (depth : Nat) (sites : List Site) : Prop where
  nodup : (sites.map Site.location).Nodup
  within : ∀ found ∈ sites, location <+: found.location
  deep : ∀ found ∈ sites, location.length + depth ≤ found.location.length

namespace Occupies

variable {location : Location} {depth : Nat} {sites front back : List Site}

theorem nil (location : Location) (depth : Nat) : Occupies location depth [] :=
  ⟨List.nodup_nil, List.forall_mem_nil _, List.forall_mem_nil _⟩

theorem singleton (site : Site) : Occupies site.location 0 [site] :=
  ⟨List.nodup_singleton _, by simp, by simp⟩

theorem of_length (occupies : Occupies location 0 sites)
    (level : ∀ found ∈ sites, found.location.length = location.length + depth) : Occupies location depth sites :=
  ⟨occupies.nodup, occupies.within, fun found isFound => Nat.le_of_eq (level found isFound).symm⟩

theorem mono {less : Nat} (occupies : Occupies location depth sites) (le : less ≤ depth) :
    Occupies location less sites :=
  ⟨occupies.nodup, occupies.within,
    fun found isFound => Nat.le_trans (Nat.add_le_add_left le _) (occupies.deep found isFound)⟩

/-- What is on one level, and what is further down. -/
theorem append (here : Occupies location 0 front)
    (level : ∀ found ∈ front, found.location.length = location.length + depth)
    (below : Occupies location (depth + 1) back) : Occupies location depth (front ++ back) := by
  have here := here.of_length level
  have lower := below.mono (Nat.le_succ depth)
  constructor
  · rw [List.map_append]
    apply here.nodup.append below.nodup
    intro place isHere isBelow
    rcases List.mem_map.1 isHere with ⟨found, isFound, rfl⟩
    rcases List.mem_map.1 isBelow with ⟨other, isOther, same⟩
    have deeper := below.deep other isOther
    rw [same, level found isFound] at deeper
    omega
  · exact List.forall_mem_append.2 ⟨here.within, lower.within⟩
  · exact List.forall_mem_append.2 ⟨here.deep, lower.deep⟩

/-- What is within children that are apart from each other. -/
theorem flatMap {children : List Site} {f : Site → List Site}
    (apart : children.Pairwise fun child other => Unrelated child.location other.location)
    (areChildren : ∀ child ∈ children, ∃ segment, child.location = location ++ [segment])
    (each : ∀ child ∈ children, Occupies child.location depth (f child)) :
    Occupies location (depth + 1) (children.flatMap f) := by
  constructor
  · rw [List.map_flatMap]
    apply List.nodup_flatMap.2 ⟨fun child isChild => (each child isChild).nodup, _⟩
    apply apart.imp_of_mem
    intro child other isChild isOther unrelated place isWithin isWithinOther
    rcases List.mem_map.1 isWithin with ⟨found, isFound, rfl⟩
    rcases List.mem_map.1 isWithinOther with ⟨another, isAnother, same⟩
    have different := unrelated.below ((each child isChild).within found isFound)
      ((each other isOther).within another isAnother)
    rw [same] at different
    exact different.1 (List.prefix_refl _)
  · intro found isFound
    rcases List.mem_flatMap.1 isFound with ⟨child, isChild, isFound⟩
    rcases areChildren child isChild with ⟨segment, isHere⟩
    have below := (each child isChild).within found isFound
    rw [isHere] at below
    exact (List.prefix_append _ _).trans below
  · intro found isFound
    rcases List.mem_flatMap.1 isFound with ⟨child, isChild, isFound⟩
    rcases areChildren child isChild with ⟨segment, isHere⟩
    have deep := (each child isChild).deep found isFound
    rw [isHere, List.length_append, List.length_singleton] at deep
    omega

end Occupies

/-- What is found by going down from a site, if the same number of segments leads there from each site on the way. -/
theorem Site.occupies_spread {enters : Value → Bool} {f : Site → List Site} (depth : Nat) (Holds : Value → Prop)
    (wellFormed : ∀ node, Holds node → node.WellFormed)
    (onward : ∀ node, Holds node → ∀ child ∈ node.children, enters child = true → Holds child)
    (each : ∀ site : Site, Holds site.value → Occupies site.location 0 (f site) ∧
      ∀ found ∈ f site, found.location.length = site.location.length + depth)
    {site : Site} (holds : Holds site.value) : Occupies site.location depth (site.spread enters f) := by
  induction site using induction_children with
  | holds site ih =>
      rw [spread_eq]
      rcases each site holds with ⟨here, level⟩
      apply here.append level
      have children : site.children.Pairwise fun child other => Unrelated child.location other.location :=
        @Step.pairwise_sites site.value site .wildcard (wellFormed _ holds) rfl rfl
          ((wellFormed _ holds).isOrdered.nodup_segments.filter _)
      apply Occupies.flatMap (children.sublist List.filter_sublist)
      · intro child isChild
        exact @Step.exists_segment_of_mem_sites site.value .wildcard site child rfl rfl (List.mem_of_mem_filter isChild)
      · intro child isChild
        rcases List.mem_filter.1 isChild with ⟨isChild, isEntered⟩
        have isBelow : child.value ∈ site.value.children := by
          rw [← site.map_value_children]
          exact List.mem_map_of_mem isChild
        exact ih child isChild (onward _ holds _ isBelow isEntered)

/-! ## Steps -/

theorem mem_reached_descent {root node found : Value} {pending : List Step} :
    found ∈ reached root (.descent :: pending) node ↔ found ∈ reached root pending node ∨
      ∃ child ∈ node.children, (pending = [] ∨ child.isContainer = true) ∧
        found ∈ reached root (.descent :: pending) child := by
  simp only [reached, List.isEmpty_cons, Bool.false_eq_true, if_false]
  by_cases alone : pending = []
  · simp [alone, findings_last_descent root node]
  · simp [alone, findings_descent root node alone, and_assoc]

namespace NamesOnce

variable {root node : Value} {pending : List Step}

theorem behind (once : NamesOnce root (.descent :: pending) node) : NamesOnce root pending node :=
  fun k selectors isUnion found isFound =>
    once (k + 1) selectors isUnion found (mem_reached_descent.2 (.inl isFound))

theorem below (once : NamesOnce root (.descent :: pending) node) {child : Value} (isChild : child ∈ node.children)
    (container : child.isContainer = true) : NamesOnce root (.descent :: pending) child := by
  intro k selectors isUnion found isFound
  rcases k with _ | k
  · cases isUnion
  · exact once (k + 1) selectors isUnion found (mem_reached_descent.2 (.inr ⟨child, isChild, .inr container, isFound⟩))

end NamesOnce

/-- A step that is no descent finds different locations if the steps behind it do so at each child that it picks. -/
theorem occupies_findSites_cons {root : Value} {step : Step} {pending : List Step} (isPlain : step.isAnchor = false)
    (walks : step.isDescent = false) {site : Site} (wellFormed : site.value.WellFormed)
    (once : NamesOnce root (step :: pending) site.value)
    (behind : ∀ child ∈ step.sites root site, child.value.WellFormed → NamesOnce root pending child.value →
      Occupies child.location 0 (findSites root pending child)) :
    Occupies site.location 1 (findSites root (step :: pending) site) := by
  have apart := Step.pairwise_sites wellFormed isPlain walks (once.nodup_choices wellFormed)
  have areChildren : ∀ child ∈ step.sites root site, ∃ segment, child.location = site.location ++ [segment] :=
    fun child => Step.exists_segment_of_mem_sites isPlain walks
  by_cases more : pending = []
  · rw [more, findSites_last root site (ne_descent walks), ← List.flatMap_singleton' (step.sites root site)]
    exact .flatMap apart areChildren fun child _ => .singleton child
  · rw [findSites_cons root site (ne_descent walks) more]
    refine .flatMap apart areChildren fun child isChild => ?_
    have isPicked : child.value ∈ step.pick root site.value := by
      rw [← Step.map_value_sites]
      exact List.mem_map_of_mem isChild
    refine behind child isChild ?_ (once.next walks isPicked)
    rw [Step.sites_eq_choices wellFormed isPlain walks] at isChild
    rcases List.mem_filterMap.1 isChild with ⟨segment, -, isChild⟩
    exact wellFormed.of_mem_children (Value.mem_children_of_child? (Site.child?_eq_some.1 isChild).2)

/-- A descent finds different locations if the steps behind it do so at each node, and all at the same depth below it. -/
theorem occupies_findSites_descent {root : Value} {pending : List Step} {site : Site}
    (plain : ∀ step ∈ pending, step.isAnchor = false ∧ step.isDescent = false) (wellFormed : site.value.WellFormed)
    (once : NamesOnce root (.descent :: pending) site.value)
    (behind : ∀ found : Site, found.value.WellFormed → NamesOnce root pending found.value →
      Occupies found.location 0 (findSites root pending found)) :
    Occupies site.location 0 (findSites root (.descent :: pending) site) := by
  cases pending with
  | nil =>
      apply Site.occupies_spread 0 Value.WellFormed (fun _ => id)
        (fun _ wellFormed _ isChild _ => wellFormed.of_mem_children isChild) _ wellFormed
      intro site _
      exact ⟨.singleton site, by simp⟩
  | cons next rest =>
      refine Occupies.mono (Site.occupies_spread (next :: rest).length
        (fun node => node.WellFormed ∧ NamesOnce root (.descent :: next :: rest) node) (fun _ => And.left)
        ?_ ?_ ⟨wellFormed, once⟩) (Nat.zero_le _)
      · rintro node ⟨wellFormed, once⟩ child isChild container
        exact ⟨wellFormed.of_mem_children isChild, once.below isChild container⟩
      · rintro site ⟨wellFormed, once⟩
        exact ⟨behind site wellFormed once.behind, fun found => length_of_mem_findSites plain⟩

/-- Steps of which at most one is a descent find different locations. -/
theorem occupies_findSites {root : Value} {steps : List Step} (plain : ∀ step ∈ steps, step.isAnchor = false)
    (single : steps.countP Fragment.isDescent ≤ 1) {site : Site} (wellFormed : site.value.WellFormed)
    (once : NamesOnce root steps site.value) : Occupies site.location 0 (findSites root steps site) := by
  induction steps generalizing site with
  | nil => exact .nil _ _
  | cons step pending ih =>
      rcases List.forall_mem_cons.1 plain with ⟨isPlain, others⟩
      cases walks : step.isDescent with
      | false =>
          rw [List.countP_cons_of_neg (by simp [walks])] at single
          exact (occupies_findSites_cons isPlain walks wellFormed once fun child _ => ih others single).mono (Nat.zero_le 1)
      | true =>
          have isDescent : step = .descent := by
            cases step with
            | descent => rfl
            | _ => cases walks
          subst isDescent
          have none : pending.countP Fragment.isDescent = 0 := by
            rw [List.countP_cons_of_pos rfl] at single
            omega
          have level : ∀ next ∈ pending, next.isDescent = false := by
            simpa [List.countP_eq_zero] using none
          exact occupies_findSites_descent (fun next isNext => ⟨others next isNext, level next isNext⟩) wellFormed once
            fun found => ih others (by omega)

/-- A descent at the end finds all that is in a value. -/
theorem Site.mem_spread_of_at? {site : Site} (wellFormed : site.value.WellFormed) {below : Location} {found : Value}
    (isThere : site.value.at? below = some found) :
    ⟨site.location ++ below, found⟩ ∈ site.spread (fun _ => true) fun below => [below] := by
  induction below generalizing site with
  | nil =>
      rcases Option.some.inj isThere with rfl
      rw [spread_eq, List.append_nil]
      exact List.mem_cons_self
  | cons segment below ih =>
      rw [Value.at?_cons] at isThere
      rcases Option.bind_eq_some_iff.1 isThere with ⟨child, isChild, isThere⟩
      have isSite : ⟨site.location ++ [segment], child⟩ ∈ site.children := by
        rw [children_eq wellFormed]
        apply List.mem_filterMap.2 ⟨segment, Value.mem_segments.2 (Option.isSome_of_eq_some isChild), _⟩
        exact child?_eq_some.2 ⟨rfl, isChild⟩
      have isBelow := @ih ⟨site.location ++ [segment], child⟩
        (wellFormed.of_mem_children (Value.mem_children_of_child? isChild)) isThere
      rw [List.append_assoc] at isBelow
      rw [spread_eq]
      exact List.mem_append_right _ (List.mem_flatMap.2 ⟨_, List.mem_filter.2 ⟨isSite, rfl⟩, isBelow⟩)

namespace Path

section Finding

variable [RegexSyntax] {path : Path} {document : Value}

/-- A path finds different locations, whether there is an anchor at its head or not. -/
theorem occupies_sites (path_wellFormed : path.WellFormed)
    (single : path.fragments.countP Fragment.isDescent ≤ 1) (wellFormed : document.WellFormed)
    (once : NamesOnce document path.steps document) : Occupies [] 0 (path.sites document) := by
  rw [← countP_isDescent_steps] at single
  have plainTail : ∀ step ∈ path.steps.drop 1, step.isAnchor = false := by
    rw [List.drop_one]
    exact plain_tail_steps path_wellFormed
  rw [sites]
  rcases anchored_or_plain plainTail with ⟨head, here, anchor⟩ | plain
  · generalize path.steps = steps at single plainTail once here
    cases steps with
    | nil => cases here
    | cons step pending =>
        rcases Option.some.inj here with rfl
        have walks := isDescent_of_isAnchor anchor
        have stays := sites_of_isAnchor document anchor
        by_cases alone : pending = []
        · rw [alone, findSites_last _ _ (ne_descent walks), stays]
          exact .singleton document.rootSite
        · rw [findSites_cons _ _ (ne_descent walks) alone, stays, List.flatMap_singleton]
          rw [List.countP_cons_of_neg (by simp [walks])] at single
          have isPicked : document ∈ step.pick document document := by
            rw [pick_of_isAnchor anchor]
            exact List.mem_singleton_self document
          exact @occupies_findSites _ _ plainTail single document.rootSite wellFormed (once.next walks isPicked)
  · exact @occupies_findSites _ _ plain single document.rootSite wellFormed once

theorem mem_sites_allValues (wellFormed : document.WellFormed) {location : Location} :
    location ∈ (allValues.sites document).map Site.location ↔ (document.at? location).isSome = true := by
  constructor
  · intro isFound
    rcases List.mem_map.1 isFound with ⟨site, isSite, rfl⟩
    exact Option.isSome_of_eq_some (findSites_standsIn wellFormed (Site.rootSite_standsIn document) site isSite)
  · intro isThere
    rcases Option.isSome_iff_exists.1 isThere with ⟨found, isFound⟩
    have isSite : ⟨[] ++ location, found⟩ ∈ document.rootSite.spread (fun _ => true) fun below => [below] :=
      Site.mem_spread_of_at? wellFormed isFound
    refine List.mem_map.2 ⟨⟨location, found⟩, ?_, rfl⟩
    rw [sites]
    exact List.mem_flatMap.2 ⟨document.rootSite, List.mem_singleton_self _, isSite⟩

/--
A path that was read and has at most one descent, in a document in which no union of it resolves two selectors to the same
child of a node that the fragments before it reach. The sites of the path are what it gets, with the locations where that
stands, and no two locations are the same. Those of `$..` are all locations in the document.
-/
theorem get_finds_once {text : String} (parsed : Path.parse text = .ok path)
    (single : path.fragments.countP Fragment.isDescent ≤ 1) (wellFormed : document.WellFormed)
    (unions : ∀ k selectors, path.fragments[k]? = some (.union selectors) → ∀ node ∈ path.nodes document k,
      (node.slots selectors).Nodup) :
    (path.sites document).map Site.value = path.get document ∧
    (∀ site ∈ path.sites document, document.at? site.location = some site.value) ∧
    ((path.sites document).map Site.location).Nodup ∧
    (text = "$.." → ∀ location, location ∈ (path.sites document).map Site.location ↔
      (document.at? location).isSome = true) := by
  refine ⟨path.map_value_sites document, findSites_standsIn wellFormed (Site.rootSite_standsIn document), ?_, ?_⟩
  · exact (occupies_sites (wellFormed_of_parse parsed) single wellFormed (namesOnce_steps unions)).nodup
  · rintro rfl location
    have isAllValues : Path.parse "$.." = .ok allValues := rfl
    rcases Except.ok.inj (parsed.symm.trans isAllValues) with rfl
    exact mem_sites_allValues wellFormed

end Finding

/-- The path to the items of all members `a` and `b`. -/
def itemsOfMembers : Path where
  fragments := [.root, .descent, .union [.key "a", .key "b"], .wildcard]

/-- A document with such members within each other. -/
def nestedMembers : Value :=
  .object [("a", .array [.integer 1, .object [("b", .array [.integer 2])]]), ("b", .integer 3)]

/-- A descent stops at the document, at the array and at the object in it. -/
theorem get_finds_once_itemsOfMembers :
    Path.parse itemsOfMembers.text = .ok itemsOfMembers ∧
      itemsOfMembers.fragments.countP Fragment.isDescent = 1 ∧ nestedMembers.WellFormed ∧
      (∀ k selectors, itemsOfMembers.fragments[k]? = some (.union selectors) →
        ∀ node ∈ itemsOfMembers.nodes nestedMembers k, (node.slots selectors).Nodup) ∧
      (itemsOfMembers.sites nestedMembers).map Site.location =
        [[.field "a", .index 0], [.field "a", .index 1], [.field "a", .index 1, .field "b", .index 0]] ∧
      ((itemsOfMembers.sites nestedMembers).map Site.location).Nodup := by
  have parsed : Path.parse itemsOfMembers.text = .ok itemsOfMembers :=
    parse_text_of_wellFormed ⟨by simp [itemsOfMembers, Fragment.WellFormed],
      by simp [itemsOfMembers, Fragment.isAnchor]⟩
  have wellFormed : nestedMembers.WellFormed := by
    simp only [nestedMembers, Value.WellFormed, Value.WellFormedItems, Value.WellFormedMembers, Members.Ordered, and_true,
      true_and]
    decide
  have unions : ∀ k selectors, itemsOfMembers.fragments[k]? = some (.union selectors) →
      ∀ node ∈ itemsOfMembers.nodes nestedMembers k, (node.slots selectors).Nodup := by
    intro k selectors here node _
    have isUnion : Fragment.union selectors ∈ itemsOfMembers.fragments := List.mem_of_getElem? here
    simp only [itemsOfMembers, List.mem_cons, reduceCtorEq, Fragment.union.injEq, List.not_mem_nil, false_or,
      or_false] at isUnion
    rw [isUnion]
    cases node with
    | object members => exact List.Nodup.filter _ (by simp [Selector.segments])
    | _ => exact List.nodup_nil
  exact ⟨parsed, rfl, wellFormed, unions, by cbv,
    (get_finds_once parsed (Nat.le_refl 1) wellFormed unions).2.2.1⟩

end Path

end TreePath

import Mathlib.Data.List.Basic
import TreePath.Proofs.Edit.Targets
import TreePath.Proofs.Script.Meaning

/-!
# Where things are found

A site is a value of a document together with the location where it stands. `findSites` follows steps as
`findings` does, but keeps the locations: `map_value_findSites` says that its values are the findings, in order and
with their multiplicity, and `findSites_standsIn` that each of them does stand at its location.
-/

namespace TreePath

/-- A value of a document, with the location where it stands. -/
structure Site where
  location : Location
  value : Value

/-- The root of a document. -/
def Value.rootSite (document : Value) : Site :=
  ⟨[], document⟩

namespace Site

/-- The child to which a segment leads. -/
def child? (site : Site) (segment : Segment) : Option Site :=
  (site.value.child? segment).map fun child => ⟨site.location ++ [segment], child⟩

/-- The children, in order. -/
def children (site : Site) : List Site :=
  (site.value.segments.zip site.value.children).map fun (segment, child) => ⟨site.location ++ [segment], child⟩

/-- Whether the value of a site does stand at its location in a document. -/
def StandsIn (document : Value) (site : Site) : Prop :=
  document.at? site.location = some site.value

end Site

namespace Value

theorem length_segments (value : Value) : value.segments.length = value.children.length := by
  cases value <;> simp [segments, children]

theorem count_lt_of_mem_children {value child : Value} (member : child ∈ value.children) :
    child.count < value.count := by
  cases value with
  | array items => exact Nat.lt_succ_of_le (count_le_countItems member)
  | object members =>
      rw [count]
      apply Nat.lt_succ_of_le
      rcases List.mem_map.1 member with ⟨⟨name, value⟩, isMember, rfl⟩
      clear member
      induction members with
      | nil => cases isMember
      | cons head members ih =>
          rw [countMembers]
          rcases List.mem_cons.1 isMember with rfl | later
          · exact Nat.le_add_right _ _
          · exact Nat.le_trans (ih later) (Nat.le_add_left _ _)
  | _ => cases member

/-- A property that every value has whose children have it is one of all values. -/
@[elab_as_elim]
theorem induction_children {motive : Value → Prop}
    (holds : ∀ value, (∀ child ∈ value.children, motive child) → motive value) (value : Value) : motive value :=
  holds value fun child _ => induction_children holds child
termination_by value.count
decreasing_by exact count_lt_of_mem_children ‹_›

end Value

namespace Site

theorem map_value_children (site : Site) : site.children.map value = site.value.children := by
  have values : (site.value.segments.zip site.value.children).map Prod.snd = site.value.children :=
    List.map_snd_zip (Nat.le_of_eq site.value.length_segments.symm)
  rw [children, List.map_map]
  exact values

theorem count_lt_of_mem_children {site child : Site} (member : child ∈ site.children) :
    child.value.count < site.value.count := by
  apply Value.count_lt_of_mem_children
  rw [← map_value_children]
  exact List.mem_map_of_mem member

/-- A property that every site has whose children have it is one of all sites. -/
@[elab_as_elim]
theorem induction_children {motive : Site → Prop}
    (holds : ∀ site, (∀ child ∈ site.children, motive child) → motive site) (site : Site) : motive site :=
  holds site fun child _ => induction_children holds child
termination_by site.value.count
decreasing_by exact count_lt_of_mem_children ‹_›

/--
What a function yields for a site, and after that for the sites below it in preorder, as far as they are to be
entered.
-/
def spread {α : Type} (enters : Value → Bool) (f : Site → List α) (site : Site) : List α :=
  f site ++ site.children.attach.flatMap fun ⟨child, _⟩ => if enters child.value then spread enters f child else []
termination_by site.value.count
decreasing_by exact count_lt_of_mem_children ‹_›

theorem spread_eq {α : Type} (enters : Value → Bool) (f : Site → List α) (site : Site) :
    site.spread enters f =
      f site ++ (site.children.filter (enters ·.value)).flatMap (spread enters f) := by
  rw [spread]
  congr 1
  have attached (sites : List Site) :
      (sites.attach.flatMap fun ⟨child, _⟩ => if enters child.value then spread enters f child else []) =
        (sites.filter (enters ·.value)).flatMap (spread enters f) := by
    rw [List.flatMap_subtype (g := fun child => if enters child.value then spread enters f child else [])
      (fun _ _ => rfl), List.unattach_attach]
    induction sites with
    | nil => rfl
    | cons child sites ih =>
        rw [List.flatMap_cons, ih, List.filter_cons]
        split <;> simp
  exact attached site.children

end Site

/-- What a step finds from a site, in order. A descent finds the site itself; the rest of it is found from there. -/
def Step.sites (root : Value) (site : Site) : Step → List Site
  | .root => [root.rootSite]
  | .current | .descent => [site]
  | .wildcard => site.children
  | .filter test => site.children.filter (test ·.value root)
  | step => (step.segments site.value).filterMap site.child?

/-- What steps find from a site of a document, in order. -/
def findSites (root : Value) : List Step → Site → List Site
  | [], _ => []
  | [.descent], site => site.spread (fun _ => true) fun below => [below]
  | [step], site => step.sites root site
  | .descent :: pending, site => site.spread Value.isContainer (findSites root pending)
  | step :: pending, site => (step.sites root site).flatMap (findSites root pending)

/-- What a path finds in a document, in order. -/
def Path.sites [RegexSyntax] (path : Path) (document : Value) : List Site :=
  findSites document path.steps document.rootSite

section Equations

variable (root : Value) (site : Site)

theorem findSites_last {step : Step} (plain : step ≠ .descent) :
    findSites root [step] site = step.sites root site := by
  cases step <;> first | rfl | exact absurd rfl plain

theorem findSites_cons {step : Step} (plain : step ≠ .descent) {pending : List Step} (more : pending ≠ []) :
    findSites root (step :: pending) site = (step.sites root site).flatMap (findSites root pending) := by
  cases pending with
  | nil => exact absurd rfl more
  | cons next pending => cases step <;> first | rfl | exact absurd rfl plain

theorem sites_of_isAnchor {step : Step} (anchor : step.isAnchor = true) :
    step.sites root root.rootSite = [root.rootSite] := by
  cases step <;> first | rfl | cases anchor

/-- The anchor at the head of a path finds the root, from which the other steps are followed. -/
theorem findSites_anchor {steps : List Step} {head : Step} (here : steps[0]? = some head)
    (anchor : head.isAnchor = true) (more : steps.drop 1 ≠ []) :
    findSites root steps root.rootSite = findSites root (steps.drop 1) root.rootSite := by
  cases steps with
  | nil => cases here
  | cons step rest =>
      rcases Option.some.inj here with rfl
      rw [List.drop_one, List.tail_cons] at more ⊢
      have walks : step ≠ .descent := by
        rintro rfl
        cases anchor
      rw [findSites_cons root root.rootSite walks more, sites_of_isAnchor root anchor, List.flatMap_singleton]

/-- A descent in front of other steps, which are followed from the site, and then for each container in it. -/
theorem findSites_descent {pending : List Step} (more : pending ≠ []) :
    findSites root (.descent :: pending) site =
      findSites root pending site ++
        (site.children.filter (·.value.isContainer)).flatMap (findSites root (.descent :: pending)) := by
  cases pending with
  | nil => exact absurd rfl more
  | cons step pending =>
      have spread_findSites : findSites root (.descent :: step :: pending) =
          Site.spread Value.isContainer (findSites root (step :: pending)) := by
        funext below
        rfl
      rw [spread_findSites]
      exact Site.spread_eq _ _ _

end Equations

/-! ## The values of sites -/

theorem Selector.map_value_segments (selector : Selector) (site : Site) :
    ((selector.segments site.value).filterMap site.child?).map Site.value =
      (selector.pick? site.value).toList := by
  rcases site with ⟨location, node⟩
  cases selector with
  | key name =>
      cases node with
      | object members =>
          cases found : Members.get? members name <;>
            simp [segments, pick?, Site.child?, Value.child?, found]
      | _ => rfl
  | index i =>
      cases node with
      | array items =>
          cases resolved : resolveIndex i items.length with
          | none => simp [segments, pick?, resolved]
          | some position =>
              cases found : items[position]? <;>
                simp [segments, pick?, Site.child?, Value.child?, resolved, found]
      | _ => rfl

theorem Step.map_value_sites (root : Value) (site : Site) (step : Step) :
    (step.sites root site).map Site.value = step.pick root site.value := by
  cases step with
  | root => rfl
  | current => rfl
  | descent => rfl
  | child name => exact Selector.map_value_segments (.key name) site
  | nth i => exact Selector.map_value_segments (.index i) site
  | wildcard => exact site.map_value_children
  | slice start stop step =>
      rcases site with ⟨location, node⟩
      cases node with
      | array items =>
          simp only [sites, segments, pick, List.filterMap_map, List.map_filterMap]
          congr 1
          funext i
          simp only [Function.comp_apply, Site.child?, Value.child?, Option.map_map]
          cases items[i]? <;> rfl
      | _ => rfl
  | union selectors =>
      simp only [sites, segments, pick]
      induction selectors with
      | nil => rfl
      | cons selector selectors ih =>
          rw [List.flatMap_cons, List.filterMap_append, List.map_append, ih, Selector.map_value_segments,
            List.filterMap_cons]
          cases selector.pick? site.value <;> rfl
  | filter test =>
      rw [sites, pick, ← site.map_value_children, List.filter_map]
      rfl

theorem Site.map_value_filter_children (site : Site) (keep : Value → Bool) :
    (site.children.filter (keep ·.value)).map value = site.value.children.filter keep := by
  rw [← site.map_value_children, List.filter_map]
  rfl

/-- The values that spreading over sites yields, if the values of what it yields for one site are known. -/
theorem Site.map_value_spread {enters : Value → Bool} {f : Site → List Site} {g total : Value → List Value}
    (values : ∀ site, (f site).map value = g site.value)
    (total_eq : ∀ node, total node = g node ++ (node.children.filter enters).flatMap total) (site : Site) :
    (site.spread enters f).map value = total site.value := by
  induction site using induction_children with
  | holds site ih =>
      have below : ∀ child ∈ site.children.filter (enters ·.value),
          (child.spread enters f).map value = total child.value :=
        fun child member => ih child (List.mem_of_mem_filter member)
      rw [spread_eq, List.map_append, values, List.map_flatMap, List.flatMap_congr below, total_eq,
        ← map_value_filter_children, List.flatMap_map]

theorem map_value_findSites (root : Value) (steps : List Step) (site : Site) :
    (findSites root steps site).map Site.value = findings root steps site.value := by
  induction steps generalizing site with
  | nil => rfl
  | cons step pending ih =>
      by_cases descent : step = .descent
      · subst descent
        cases pending with
        | nil =>
            apply Site.map_value_spread (g := fun node => [node])
            · exact fun _ => rfl
            · intro node
              have all_children : node.children.filter (fun _ => true) = node.children :=
                List.filter_eq_self.2 fun _ _ => rfl
              rw [findings_last_descent, all_children]
              rfl
        | cons next rest =>
            apply Site.map_value_spread (g := findings root (next :: rest))
            · exact ih
            · intro node
              exact findings_descent root node (List.cons_ne_nil next rest)
      · cases pending with
        | nil => rw [findSites_last root site descent, findings_last root _ descent, Step.map_value_sites]
        | cons next rest =>
            have more := List.cons_ne_nil next rest
            rw [findSites_cons root site descent more, findings_cons root _ descent more, List.map_flatMap,
              List.flatMap_congr fun found _ => ih found, ← Step.map_value_sites, List.flatMap_map]

/-- The values of the sites that a path finds are the values that it gets. -/
theorem Path.map_value_sites [RegexSyntax] (path : Path) (document : Value) :
    (path.sites document).map Site.value = path.get document := by
  rw [sites, map_value_findSites, Path.get_eq, Path.findings, steps, stepsOf_eq_meaning]
  rfl

/-! ## The locations of sites -/

theorem Members.get?_eq_some_of_mem {members : List (String × Value)} (ordered : Members.Ordered members)
    {name : String} {value : Value} (member : (name, value) ∈ members) :
    Members.get? members name = some value := by
  induction members with
  | nil => cases member
  | cons head members ih =>
      rcases List.pairwise_cons.1 ordered with ⟨first, others⟩
      rw [Members.get?]
      rcases List.mem_cons.1 member with rfl | later
      · exact if_pos rfl
      · have different : name ≠ head.1 := by
          rintro rfl
          exact String.lt_irrefl _ (first (head.1, value) later)
        rw [if_neg different]
        exact ih others later

namespace Value

theorem WellFormed.of_mem_children {value child : Value} (wellFormed : value.WellFormed)
    (member : child ∈ value.children) : child.WellFormed := by
  cases value with
  | array items =>
      rw [WellFormed] at wellFormed
      simp only [children] at member
      induction items with
      | nil => cases member
      | cons item items ih =>
          rw [WellFormedItems] at wellFormed
          rcases List.mem_cons.1 member with rfl | later
          · exact wellFormed.1
          · exact ih wellFormed.2 later
  | object members =>
      rw [WellFormed] at wellFormed
      rcases wellFormed with ⟨-, wellFormed⟩
      rcases List.mem_map.1 member with ⟨⟨name, value⟩, isMember, rfl⟩
      clear member
      induction members with
      | nil => cases isMember
      | cons head members ih =>
          rw [WellFormedMembers] at wellFormed
          rcases List.mem_cons.1 isMember with rfl | later
          · exact wellFormed.1
          · exact ih wellFormed.2 later
  | _ => cases member

theorem mem_children_of_child? {value child : Value} {segment : Segment} (found : value.child? segment = some child) :
    child ∈ value.children := by
  cases value with
  | array items =>
      cases segment with
      | index i => exact List.mem_of_getElem? found
      | field name => cases found
  | object members =>
      cases segment with
      | field name => exact List.mem_map.2 ⟨_, Members.mem_of_get? found, rfl⟩
      | index i => cases found
  | _ => cases segment <;> cases found

theorem WellFormed.at? {value found : Value} {location : Location} (wellFormed : value.WellFormed)
    (isFound : value.at? location = some found) : found.WellFormed := by
  induction location generalizing value with
  | nil =>
      rcases Option.some.inj isFound with rfl
      exact wellFormed
  | cons segment location ih =>
      rw [at?_cons] at isFound
      rcases Option.bind_eq_some_iff.1 isFound with ⟨child, isChild, isFound⟩
      exact ih (wellFormed.of_mem_children (mem_children_of_child? isChild)) isFound

theorem WellFormed.child?_of_mem_zip {value child : Value} {segment : Segment} (wellFormed : value.WellFormed)
    (paired : (segment, child) ∈ value.segments.zip value.children) : value.child? segment = some child := by
  cases value with
  | array items =>
      rcases List.mem_iff_getElem?.1 paired with ⟨i, found⟩
      simp only [segments, children, List.getElem?_zip_eq_some, List.getElem?_map] at found
      rcases found with ⟨isIndex, isItem⟩
      rcases Option.map_eq_some_iff.1 isIndex with ⟨position, isPosition, rfl⟩
      rcases List.getElem?_eq_some_iff.1 isPosition with ⟨within, rfl⟩
      rwa [List.getElem_range]
  | object members =>
      have zipped : (Value.object members).segments.zip (Value.object members).children =
          members.map fun member => (.field member.1, member.2) := List.zip_map' ..
      rw [zipped] at paired
      rcases List.mem_map.1 paired with ⟨⟨name, other⟩, member, same⟩
      rcases Prod.mk.inj same with ⟨rfl, rfl⟩
      rw [WellFormed] at wellFormed
      exact Members.get?_eq_some_of_mem wellFormed.1 member
  | _ => cases paired

end Value

namespace Site

variable {document : Value} {site found : Site}

theorem child?_eq_some {segment : Segment} :
    site.child? segment = some found ↔
      found.location = site.location ++ [segment] ∧ site.value.child? segment = some found.value := by
  rw [child?, Option.map_eq_some_iff]
  constructor
  · rintro ⟨child, isChild, rfl⟩
    exact ⟨rfl, isChild⟩
  · rintro ⟨isHere, isChild⟩
    refine ⟨found.value, isChild, ?_⟩
    rw [← isHere]

theorem children_eq (wellFormed : site.value.WellFormed) :
    site.children = site.value.segments.filterMap site.child? := by
  have first : (site.value.segments.zip site.value.children).map Prod.fst = site.value.segments :=
    List.map_fst_zip (Nat.le_of_eq site.value.length_segments)
  have each : ∀ pair ∈ site.value.segments.zip site.value.children,
      site.child? pair.1 = some ⟨site.location ++ [pair.1], pair.2⟩ := by
    rintro ⟨segment, child⟩ paired
    exact child?_eq_some.2 ⟨rfl, wellFormed.child?_of_mem_zip paired⟩
  conv => rhs; rw [← first, List.filterMap_map]
  rw [children, ← List.filterMap_eq_map]
  exact List.filterMap_congr fun pair paired => (each pair paired).symm

theorem rootSite_standsIn (document : Value) : document.rootSite.StandsIn document := rfl

theorem StandsIn.wellFormed (wellFormed : document.WellFormed) (stands : site.StandsIn document) :
    site.value.WellFormed :=
  wellFormed.at? stands

theorem StandsIn.child {segment : Segment} (stands : site.StandsIn document)
    (isChild : site.child? segment = some found) : found.StandsIn document := by
  rcases child?_eq_some.1 isChild with ⟨isHere, isChild⟩
  rw [StandsIn, isHere, Value.at?_concat, stands, Option.bind_some, isChild]

theorem StandsIn.of_mem_children (wellFormed : document.WellFormed) (stands : site.StandsIn document)
    (member : found ∈ site.children) : found.StandsIn document := by
  rw [children_eq (stands.wellFormed wellFormed)] at member
  rcases List.mem_filterMap.1 member with ⟨segment, -, isChild⟩
  exact stands.child isChild

theorem StandsIn.of_mem_sites (wellFormed : document.WellFormed) (stands : site.StandsIn document) {step : Step}
    (member : found ∈ step.sites document site) : found.StandsIn document := by
  have picked (member : found ∈ (step.segments site.value).filterMap site.child?) : found.StandsIn document := by
    rcases List.mem_filterMap.1 member with ⟨segment, -, isChild⟩
    exact stands.child isChild
  cases step with
  | root =>
      rcases List.mem_singleton.1 member with rfl
      exact rootSite_standsIn document
  | current =>
      rcases List.mem_singleton.1 member with rfl
      exact stands
  | descent =>
      rcases List.mem_singleton.1 member with rfl
      exact stands
  | wildcard => exact stands.of_mem_children wellFormed member
  | filter test => exact stands.of_mem_children wellFormed (List.mem_of_mem_filter member)
  | _ => exact picked member

theorem StandsIn.of_mem_spread (wellFormed : document.WellFormed) {enters : Value → Bool} {f : Site → List Site}
    (keeps : ∀ site, site.StandsIn document → ∀ found ∈ f site, found.StandsIn document)
    (stands : site.StandsIn document) (member : found ∈ site.spread enters f) : found.StandsIn document := by
  induction site using induction_children with
  | holds site ih =>
      rw [spread_eq] at member
      rcases List.mem_append.1 member with here | below
      · exact keeps site stands found here
      · rcases List.mem_flatMap.1 below with ⟨child, isEntered, isFound⟩
        have isChild := List.mem_of_mem_filter isEntered
        exact ih child isChild (stands.of_mem_children wellFormed isChild) isFound

end Site

/-- What steps find from a site of a well-formed document stands in that document. -/
theorem findSites_standsIn {document : Value} (wellFormed : document.WellFormed) {steps : List Step} {site : Site}
    (stands : site.StandsIn document) :
    ∀ found ∈ findSites document steps site, found.StandsIn document := by
  induction steps generalizing site with
  | nil =>
      intro found member
      cases member
  | cons step pending ih =>
      intro found member
      by_cases descent : step = .descent
      · subst descent
        cases pending with
        | nil =>
            refine Site.StandsIn.of_mem_spread wellFormed ?_ stands member
            intro below standsBelow _ isBelow
            rwa [List.mem_singleton.1 isBelow]
        | cons next rest => exact Site.StandsIn.of_mem_spread wellFormed (fun _ => ih) stands member
      · cases pending with
        | nil =>
            rw [findSites_last document site descent] at member
            exact stands.of_mem_sites wellFormed member
        | cons next rest =>
            rw [findSites_cons document site descent (List.cons_ne_nil next rest)] at member
            rcases List.mem_flatMap.1 member with ⟨mid, isMid, isFound⟩
            exact ih (stands.of_mem_sites wellFormed isMid) found isFound

end TreePath

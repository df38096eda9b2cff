import TreePath.Proofs.Query.Sites
import TreePath.Proofs.Value.Outline

/-!
# The order of members

Storing, removing and changing children keeps the members of all objects in order, and so do edits. In well-formed
values there is nothing more to tell apart than what stands at each location: `WellFormed.ext`.
-/

namespace TreePath

namespace Members

variable {α : Type} {members others : List (String × α)} {name : String}

theorem lt_of_not_lt {name other : String} (different : name ≠ other) (notBefore : ¬ name < other) : other < name := by
  apply Classical.byContradiction
  intro notAfter
  exact different (String.le_antisymm (String.not_lt.1 notAfter) (String.not_lt.1 notBefore))

theorem mem_insert {value : α} {member : String × α} (isIn : member ∈ insert members name value) :
    member = (name, value) ∨ member ∈ members := by
  induction members with
  | nil => exact .inl (List.mem_singleton.1 isIn)
  | cons head members ih =>
      rcases head with ⟨other, old⟩
      rw [insert] at isIn
      split at isIn
      · exact (List.mem_cons.1 isIn).imp_right (List.mem_cons_of_mem _)
      · split at isIn
        · exact List.mem_cons.1 isIn
        · rcases List.mem_cons.1 isIn with rfl | later
          · exact .inr List.mem_cons_self
          · exact (ih later).imp_right (List.mem_cons_of_mem _)

theorem Ordered.insert (ordered : Ordered members) (name : String) (value : α) :
    Ordered (Members.insert members name value) := by
  induction members with
  | nil => exact List.pairwise_singleton _ _
  | cons head members ih =>
      rcases head with ⟨other, old⟩
      rcases List.pairwise_cons.1 ordered with ⟨first, rest⟩
      rw [Members.insert]
      split
      · rename_i same
        subst same
        exact List.pairwise_cons.2 ⟨first, rest⟩
      · rename_i different
        split
        · rename_i before
          refine List.pairwise_cons.2 ⟨?_, ordered⟩
          intro member isIn
          rcases List.mem_cons.1 isIn with rfl | later
          · exact before
          · exact String.lt_trans before (first member later)
        · rename_i notBefore
          refine List.pairwise_cons.2 ⟨?_, ih rest⟩
          intro member isIn
          rcases mem_insert isIn with rfl | isOld
          · exact lt_of_not_lt different notBefore
          · exact first member isOld

theorem Ordered.erase (ordered : Ordered members) (name : String) : Ordered (Members.erase members name) :=
  List.Pairwise.filter _ ordered

theorem mem_update {f : α → α} {member : String × α} (isIn : member ∈ update members name f) :
    ∃ old, (member.1, old) ∈ members ∧ (member.2 = old ∨ member.2 = f old) := by
  induction members with
  | nil => cases isIn
  | cons head members ih =>
      rcases head with ⟨other, old⟩
      rw [update] at isIn
      split at isIn
      · rcases List.mem_cons.1 isIn with rfl | later
        · exact ⟨old, List.mem_cons_self, .inr rfl⟩
        · exact ⟨member.2, List.mem_cons_of_mem _ later, .inl rfl⟩
      · rcases List.mem_cons.1 isIn with rfl | later
        · exact ⟨old, List.mem_cons_self, .inl rfl⟩
        · rcases ih later with ⟨found, isFound, isValue⟩
          exact ⟨found, List.mem_cons_of_mem _ isFound, isValue⟩

theorem Ordered.get?_eq_none {value : α} (ordered : Ordered ((name, value) :: members)) {other : String}
    (notAfter : ¬ name < other) : get? members other = none := by
  cases found : get? members other with
  | none => rfl
  | some _ => exact absurd ((List.pairwise_cons.1 ordered).1 _ (mem_of_get? found)) notAfter

/-- A name that comes before the first one is not there. -/
theorem Ordered.get?_eq_none_of_before {value : α} (ordered : Ordered ((name, value) :: members)) {other : String}
    (before : other < name) : get? ((name, value) :: members) other = none := by
  have different : other ≠ name := by
    rintro rfl
    exact String.lt_irrefl _ before
  rw [get?, if_neg different]
  exact ordered.get?_eq_none (String.lt_asymm before)

/-- Members in order are determined by what is found under each name. -/
theorem Ordered.ext (ordered : Ordered members) (ordered' : Ordered others)
    (same : ∀ name, get? members name = get? others name) : members = others := by
  induction members generalizing others with
  | nil =>
      cases others with
      | nil => rfl
      | cons other others =>
          have found := same other.1
          rw [get?, get?, if_pos rfl] at found
          cases found
  | cons member members ih =>
      rcases member with ⟨name, value⟩
      cases others with
      | nil =>
          have found := same name
          rw [get?, get?, if_pos rfl] at found
          cases found
      | cons other others =>
          rcases other with ⟨first, old⟩
          have isFirst : name = first := by
            apply Classical.byContradiction
            intro different
            by_cases before : name < first
            · have found := same name
              rw [ordered'.get?_eq_none_of_before before, get?, if_pos rfl] at found
              cases found
            · have found := same first
              rw [ordered.get?_eq_none_of_before (lt_of_not_lt different before), get?, if_pos rfl] at found
              cases found
          subst isFirst
          have isValue := same name
          rw [get?, get?, if_pos rfl, if_pos rfl] at isValue
          rcases Option.some.inj isValue with rfl
          congr 1
          refine ih (List.pairwise_cons.1 ordered).2 (List.pairwise_cons.1 ordered').2 ?_
          intro next
          by_cases isName : next = name
          · subst isName
            rw [ordered.get?_eq_none (String.lt_irrefl _), ordered'.get?_eq_none (String.lt_irrefl _)]
          · have found := same next
            rwa [get?, get?, if_neg isName, if_neg isName] at found

end Members

namespace Value

variable {value node : Value}

/-- A value is well-formed if its own members are in order, and all its children are well-formed. -/
theorem wellFormed_iff : value.WellFormed ↔ value.IsOrdered ∧ ∀ child ∈ value.children, child.WellFormed := by
  refine ⟨fun wellFormed => ⟨wellFormed.isOrdered, fun _ => wellFormed.of_mem_children⟩, ?_⟩
  rintro ⟨ordered, below⟩
  cases value with
  | array items =>
      rw [WellFormed]
      clear ordered
      induction items with
      | nil => trivial
      | cons item items ih =>
          exact ⟨below item List.mem_cons_self, ih fun child isIn => below child (List.mem_cons_of_mem _ isIn)⟩
  | object members =>
      refine ⟨ordered, ?_⟩
      clear ordered
      induction members with
      | nil => trivial
      | cons member members ih =>
          exact ⟨below member.2 List.mem_cons_self, ih fun child isIn => below child (List.mem_cons_of_mem _ isIn)⟩
  | _ => trivial

theorem WellFormed.null : null.WellFormed := trivial

theorem WellFormed.place {stored : Value} (wellFormed : node.WellFormed) (isStored : stored.WellFormed)
    (segment : Segment) : (place stored node segment).WellFormed := by
  rcases wellFormed_iff.1 wellFormed with ⟨ordered, below⟩
  cases node with
  | array items =>
      cases segment with
      | index i =>
          refine wellFormed_iff.2 ⟨trivial, ?_⟩
          intro child isChild
          rcases List.mem_or_eq_of_mem_set isChild with isOld | rfl
          · exact below child isOld
          · exact isStored
      | field name => exact wellFormed
  | object members =>
      cases segment with
      | field name =>
          refine wellFormed_iff.2 ⟨Members.Ordered.insert ordered name stored, ?_⟩
          intro child isChild
          rcases List.mem_map.1 isChild with ⟨member, isIn, rfl⟩
          rcases Members.mem_insert isIn with rfl | isOld
          · exact isStored
          · exact below _ (List.mem_map_of_mem isOld)
      | index i => exact wellFormed
  | _ => exact wellFormed

theorem WellFormed.remove (wellFormed : node.WellFormed) (segment : Segment) : (remove node segment).WellFormed := by
  rcases wellFormed_iff.1 wellFormed with ⟨ordered, below⟩
  cases node with
  | array items =>
      cases segment with
      | index i => exact wellFormed.place WellFormed.null (.index i)
      | field name => exact wellFormed
  | object members =>
      cases segment with
      | field name =>
          refine wellFormed_iff.2 ⟨Members.Ordered.erase ordered name, ?_⟩
          intro child isChild
          rcases List.mem_map.1 isChild with ⟨member, isIn, rfl⟩
          exact below _ (List.mem_map_of_mem (List.mem_of_mem_filter isIn))
      | index i => exact wellFormed
  | _ => exact wellFormed

theorem WellFormed.updateChild {f : Value → Value} (wellFormed : node.WellFormed)
    (keeps : ∀ child : Value, child.WellFormed → (f child).WellFormed) (segment : Segment) :
    (node.updateChild f segment).WellFormed := by
  rcases wellFormed_iff.1 wellFormed with ⟨ordered, below⟩
  cases node with
  | array items =>
      cases segment with
      | index i =>
          refine wellFormed_iff.2 ⟨trivial, ?_⟩
          intro child isChild
          rcases List.mem_iff_getElem?.1 isChild with ⟨position, found⟩
          rw [updateChild, children, List.getElem?_modify] at found
          rcases Option.map_eq_some_iff.1 found with ⟨old, isOld, rfl⟩
          have oldWellFormed := below old (List.mem_of_getElem? isOld)
          split
          · exact keeps old oldWellFormed
          · exact oldWellFormed
      | field name => exact wellFormed
  | object members =>
      cases segment with
      | field name =>
          refine wellFormed_iff.2 ⟨Members.Ordered.of_names ordered (Members.names_update members name f), ?_⟩
          intro child isChild
          rcases List.mem_map.1 isChild with ⟨member, isIn, rfl⟩
          rcases Members.mem_update isIn with ⟨old, isOld, isValue⟩
          have oldWellFormed := below old (List.mem_map.2 ⟨_, isOld, rfl⟩)
          rcases isValue with isValue | isValue
          · rwa [isValue]
          · rw [isValue]
            exact keeps old oldWellFormed
      | index i => exact wellFormed
  | _ => exact wellFormed

theorem WellFormed.updateAt {f : Value → Value} (wellFormed : node.WellFormed)
    (keeps : ∀ child : Value, child.WellFormed → (f child).WellFormed) (location : Location) :
    (node.updateAt f location).WellFormed := by
  induction location generalizing node with
  | nil => exact keeps node wellFormed
  | cons segment location ih => exact wellFormed.updateChild (fun _ => ih) segment

/-- Well-formed values are equal if at each location there is the same in both, but for the children. -/
theorem WellFormed.ext {other : Value} (wellFormed : value.WellFormed) (wellFormed' : other.WellFormed)
    (same : ∀ location, (value.at? location).map face = (other.at? location).map face) : value = other := by
  induction value using induction_children generalizing other with
  | holds value ih =>
      have faces : value.face = other.face := Option.some.inj (same [])
      have child?_eq (segment : Segment) : value.child? segment = other.child? segment := by
        have exists_iff := congrArg Option.isSome (same [segment])
        rw [Option.isSome_map, Option.isSome_map, at?_cons, at?_cons] at exists_iff
        cases found : value.child? segment with
        | none =>
            cases found' : other.child? segment with
            | none => rfl
            | some child' =>
                rw [found, found'] at exists_iff
                cases exists_iff
        | some child =>
            cases found' : other.child? segment with
            | none =>
                rw [found, found'] at exists_iff
                cases exists_iff
            | some child' =>
                have isChild := mem_children_of_child? found
                congr 1
                refine ih child isChild (wellFormed.of_mem_children isChild)
                  (wellFormed'.of_mem_children (mem_children_of_child? found')) ?_
                intro location
                have below := same (segment :: location)
                rwa [at?_cons, at?_cons, found, found'] at below
      cases value with
      | array items =>
          cases other with
          | array others =>
              congr 1
              exact List.ext_getElem? fun i => child?_eq (.index i)
          | _ => cases faces
      | object members =>
          cases other with
          | object others =>
              congr 1
              exact Members.Ordered.ext wellFormed.isOrdered wellFormed'.isOrdered fun name => child?_eq (.field name)
          | _ => cases faces
      | _ => cases other <;> first | exact faces | cases faces

end Value

end TreePath

import TreePath.Value.Location

/-!
# Looking up changed values

What `child?` and `at?` find after a child or a value at a location has been changed, and which locations of a
changed value hold containers.
-/

namespace TreePath

namespace Value

theorem child?_updateChild_self (f : Value → Value) (value : Value) (segment : Segment) :
    (value.updateChild f segment).child? segment = (value.child? segment).map f := by
  cases value <;> cases segment <;>
    simp [updateChild, child?, Members.get?_update_self]

theorem child?_updateChild_of_ne (f : Value → Value) (value : Value) {segment other : Segment}
    (different : other ≠ segment) : (value.updateChild f segment).child? other = value.child? other := by
  cases value <;> cases segment <;> cases other <;>
    simp_all [updateChild, child?, Members.get?_update_of_ne]
  exact List.getElem?_modify_ne _ _ (Ne.symm different)

@[simp]
theorem isContainer_updateChild (f : Value → Value) (value : Value) (segment : Segment) :
    (value.updateChild f segment).isContainer = value.isContainer := by
  cases value <;> cases segment <;> rfl

theorem child?_place_of_ne (stored value : Value) {segment other : Segment} (different : other ≠ segment) :
    (place stored value segment).child? other = value.child? other := by
  cases value <;> cases segment <;> cases other <;>
    simp_all [place, child?, Members.get?_insert_of_ne, List.getElem?_set]
  omega

@[simp]
theorem isContainer_place (stored value : Value) (segment : Segment) :
    (place stored value segment).isContainer = value.isContainer := by
  cases value <;> cases segment <;> rfl

theorem child?_remove_of_ne (value : Value) {segment other : Segment} (different : other ≠ segment) :
    (remove value segment).child? other = value.child? other := by
  cases value <;> cases segment <;> cases other <;>
    simp_all [remove, child?, Members.get?_erase_of_ne, List.getElem?_set]
  omega

@[simp]
theorem isContainer_remove (value : Value) (segment : Segment) :
    (remove value segment).isContainer = value.isContainer := by
  cases value <;> cases segment <;> rfl

/-- Whether there is an array or object at a location. -/
def isContainerAt (value : Value) (location : Location) : Bool :=
  (value.at? location).any isContainer

@[simp]
theorem isContainerAt_nil (value : Value) : value.isContainerAt [] = value.isContainer := rfl

theorem isContainerAt_cons (value : Value) (segment : Segment) (location : Location) :
    value.isContainerAt (segment :: location) =
      (value.child? segment).any (·.isContainerAt location) := by
  simp only [isContainerAt, at?]
  cases value.child? segment <;> rfl

/-- A child that is removed is gone or null. -/
theorem isContainerAt_remove_self (value : Value) (segment : Segment) (location : Location) :
    (remove value segment).isContainerAt (segment :: location) = false := by
  rw [isContainerAt_cons]
  cases value <;> cases segment <;>
    simp [remove, child?, Members.get?_erase_self, List.getElem?_set]
  split
  · cases location <;> rfl
  · rfl

/--
A change at a location makes a container out of nothing else, as long as the function that is applied there does
not, apart from some locations.
-/
theorem isContainerAt_of_updateAt {f : Value → Value} (excepted : Location → Prop)
    (kept : ∀ value location, ¬ excepted location →
      (f value).isContainerAt location = true → value.isContainerAt location = true) :
    ∀ (place : Location) (value : Value) (location : Location),
      (∀ rest, location = place ++ rest → ¬ excepted rest) →
      (value.updateAt f place).isContainerAt location = true → value.isContainerAt location = true := by
  intro place
  induction place with
  | nil =>
    intro value location allowed
    exact kept value location (allowed location rfl)
  | cons segment place ih =>
    intro value location allowed holds
    rw [updateAt] at holds
    cases location with
    | nil => simpa using holds
    | cons other location =>
      rw [isContainerAt_cons] at holds ⊢
      by_cases same : other = segment
      · subst same
        rw [child?_updateChild_self] at holds
        cases found : value.child? other with
        | none => simp [found] at holds
        | some child =>
          simp only [found, Option.map_some, Option.any_some] at holds ⊢
          exact ih child location (fun rest eq => allowed rest (by rw [eq]; rfl)) holds
      · rwa [child?_updateChild_of_ne _ value same] at holds

/-! ## Depth -/

theorem count_pos (value : Value) : 0 < value.count := by
  cases value <;> simp [count]

theorem count_le_countItems {item : Value} {items : List Value} (member : item ∈ items) :
    item.count ≤ countItems items := by
  induction items with
  | nil => simp at member
  | cons head items ih =>
    rw [countItems]
    rcases List.mem_cons.1 member with rfl | later
    · omega
    · have := ih later
      omega

theorem count_le_countMembers {name : String} {value : Value} {members : List (String × Value)}
    (found : Members.get? members name = some value) : value.count ≤ countMembers members := by
  induction members with
  | nil => simp [Members.get?] at found
  | cons member members ih =>
    rcases member with ⟨other, old⟩
    rw [countMembers]
    rw [Members.get?] at found
    split at found
    · rcases Option.some.inj found with rfl
      omega
    · have := ih found
      omega

/-- A child holds fewer values than the value that holds it. -/
theorem count_child?_lt {value child : Value} {segment : Segment} (found : value.child? segment = some child) :
    child.count < value.count := by
  cases value <;> cases segment <;> simp only [child?, reduceCtorEq] at found
  · rw [count]
    exact Nat.lt_succ_of_le (count_le_countItems (List.mem_of_getElem? found))
  · rw [count]
    exact Nat.lt_succ_of_le (count_le_countMembers found)

/-- A location in a value is shorter than the number of values in it. -/
theorem length_lt_count {value found : Value} {location : Location} (at_location : value.at? location = some found) :
    location.length < value.count := by
  induction location generalizing value with
  | nil => exact count_pos value
  | cons segment location ih =>
    rw [at?] at at_location
    split at at_location
    · rename_i child isChild
      have := ih at_location
      have := count_child?_lt isChild
      simp only [List.length_cons]
      omega
    · simp at at_location

end Value

end TreePath

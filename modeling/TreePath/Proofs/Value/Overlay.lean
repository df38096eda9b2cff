import TreePath.Value.Lemmas

/-!
# Documents that differ at some places

`Overlay` compares a document with a later one, of which some places were overwritten. A place within another one
does not count, since what stood there went with it. The comparison is made location by location. At a
location that has a place below it the value cannot stay the same, but its `face` does: all that can be said of a
value without its children.
-/

namespace TreePath

namespace Value

/-! ## Faces -/

/-- A value without its children: the length of an array is kept, but nothing of the members of an object. -/
def face : Value → Value
  | array items => array (List.replicate items.length null)
  | object _ => object []
  | value => value

theorem isContainer_face (value : Value) : value.face.isContainer = value.isContainer := by
  cases value <;> rfl

theorem any_isContainer_face (found : Option Value) : (found.map face).any isContainer = found.any isContainer := by
  cases found with
  | none => rfl
  | some value => exact isContainer_face value

theorem all_isNull_face (found : Option Value) : (found.map face).all isNull = found.all isNull := by
  cases found with
  | none => rfl
  | some value => cases value <;> rfl

theorem exists_of_face_eq {found : Option Value} {node : Value} (faces : (some node).map face = found.map face) :
    ∃ other, found = some other ∧ other.face = node.face :=
  Option.map_eq_some_iff.1 faces.symm

@[simp]
theorem face_updateChild (f : Value → Value) (value : Value) (segment : Segment) :
    (value.updateChild f segment).face = value.face := by
  cases value <;> cases segment <;> simp [updateChild, face]

@[simp]
theorem face_place (stored value : Value) (segment : Segment) :
    (place stored value segment).face = value.face := by
  cases value <;> cases segment <;> simp [place, face]

@[simp]
theorem face_remove (value : Value) (segment : Segment) : (remove value segment).face = value.face := by
  cases value <;> cases segment <;> simp [remove, face]

/-- Whether a child can be stored under a segment: any member of an object, or a slot that an array has. -/
def admits : Value → Segment → Bool
  | object _, .field _ => true
  | array items, .index i => decide (i < items.length)
  | _, _ => false

theorem admits_face (value : Value) (segment : Segment) : value.face.admits segment = value.admits segment := by
  cases value <;> cases segment <;> simp [face, admits]

theorem admits_of_child? {value child : Value} {segment : Segment} (found : value.child? segment = some child) :
    value.admits segment = true := by
  cases value with
  | array items =>
      cases segment with
      | index i => exact decide_eq_true (List.getElem?_eq_some_iff.1 found).1
      | field name => cases found
  | object members =>
      cases segment with
      | field name => rfl
      | index i => cases found
  | _ => cases segment <;> cases found

theorem child?_place_self {value : Value} {segment : Segment} (admitted : value.admits segment = true)
    (stored : Value) : (place stored value segment).child? segment = some stored := by
  cases value <;> cases segment <;> simp_all [admits, place, child?, Members.get?_insert_self]

/-- What is left of a removed child: no member, or null in the slot of an array. -/
def leftover (segment : Segment) : Option Value :=
  match segment with
  | .field _ => none
  | .index _ => some null

theorem child?_remove_self {value : Value} {segment : Segment} (admitted : value.admits segment = true) :
    (remove value segment).child? segment = leftover segment := by
  cases value <;> cases segment <;>
    simp_all [admits, remove, child?, leftover, Members.get?_erase_self]

/-! ## Looking up -/

theorem at?_cons (value : Value) (segment : Segment) (location : Location) :
    value.at? (segment :: location) = (value.child? segment).bind (·.at? location) := by
  rw [at?]
  cases value.child? segment <;> rfl

theorem at?_append (value : Value) (place below : Location) :
    value.at? (place ++ below) = (value.at? place).bind (·.at? below) := by
  induction place generalizing value with
  | nil => rfl
  | cons segment place ih =>
      rw [List.cons_append, at?_cons, at?_cons]
      cases value.child? segment with
      | none => rfl
      | some child => exact ih child

theorem at?_concat (value : Value) (place : Location) (segment : Segment) :
    value.at? (place ++ [segment]) = (value.at? place).bind (·.child? segment) := by
  rw [at?_append]
  cases value.at? place with
  | none => rfl
  | some node =>
      simp only [Option.bind_some, at?_cons]
      cases node.child? segment <;> rfl

/-- What holds children stands on the way to anything below it. -/
theorem isContainerAt_of_below {value : Value} {place : Location} {segment : Segment} {below : Location}
    (found : (value.at? (place ++ segment :: below)).isSome) : value.isContainerAt place = true := by
  rw [at?_append] at found
  cases here : value.at? place with
  | none =>
      rw [here] at found
      cases found
  | some node =>
      rw [here, Option.bind_some, at?_cons] at found
      rw [isContainerAt, here, Option.any_some]
      cases node with
      | array items => rfl
      | object members => rfl
      | _ => cases segment <;> cases found

/-! ## Looking up after a change -/

theorem at?_updateAt_append (f : Value → Value) (value : Value) (place below : Location) :
    (value.updateAt f place).at? (place ++ below) = (value.at? place).bind fun node => (f node).at? below := by
  induction place generalizing value with
  | nil => rfl
  | cons segment place ih =>
      rw [updateAt, List.cons_append, at?_cons, at?_cons, child?_updateChild_self]
      cases value.child? segment with
      | none => rfl
      | some child => exact ih child

theorem at?_updateAt_above (f : Value → Value) (value : Value) (above rest : Location) :
    (value.updateAt f (above ++ rest)).at? above = (value.at? above).map (·.updateAt f rest) := by
  induction above generalizing value with
  | nil => rfl
  | cons segment above ih =>
      rw [List.cons_append, updateAt, at?_cons, at?_cons, child?_updateChild_self]
      cases value.child? segment with
      | none => rfl
      | some child => exact ih child

theorem at?_updateAt_beside (f : Value → Value) (value : Value) {place location : Location}
    (notBelow : ¬ place <+: location) (notAbove : ¬ location <+: place) :
    (value.updateAt f place).at? location = value.at? location := by
  induction place generalizing value location with
  | nil => exact absurd List.nil_prefix notBelow
  | cons segment place ih =>
      cases location with
      | nil => exact absurd List.nil_prefix notAbove
      | cons other location =>
          rw [updateAt, at?_cons, at?_cons]
          by_cases same : other = segment
          · subst same
            rw [child?_updateChild_self]
            cases value.child? other with
            | none => rfl
            | some child =>
                apply ih
                · intro isBelow
                  exact notBelow (List.cons_prefix_cons.2 ⟨rfl, isBelow⟩)
                · intro isAbove
                  exact notAbove (List.cons_prefix_cons.2 ⟨rfl, isAbove⟩)
          · rw [child?_updateChild_of_ne _ value same]

theorem face_updateAt_cons (f : Value → Value) (value : Value) (segment : Segment) (rest : Location) :
    (value.updateAt f (segment :: rest)).face = value.face :=
  face_updateChild _ _ _

end Value

/-! ## Places -/

/-- A location is, or lies within, one of the places. -/
def Within (places : Location → Prop) (location : Location) : Prop :=
  ∃ place, places place ∧ place <+: location

/-- A location has no place above it, at it, or below it. -/
def Beside (places : Location → Prop) (location : Location) : Prop :=
  ∀ place, places place → ¬ place <+: location ∧ ¬ location <+: place

/-- A place that lies within no other place. -/
def Outermost (places : Location → Prop) (location : Location) : Prop :=
  places location ∧ ∀ place, places place → place <+: location → place = location

theorem Within.mono {places others : Location → Prop} {location : Location} (within : Within places location)
    (subset : ∀ place, places place → others place) : Within others location := by
  rcases within with ⟨place, isPlace, above⟩
  exact ⟨place, subset place isPlace, above⟩

theorem Within.trans {places : Location → Prop} {location below : Location} (within : Within places location)
    (isBelow : location <+: below) : Within places below := by
  rcases within with ⟨place, isPlace, above⟩
  exact ⟨place, isPlace, above.trans isBelow⟩

/-- What lies within places lies within an outermost one, by induction on the length of the place. -/
theorem Within.exists_outermost {places : Location → Prop} {location : Location} (within : Within places location) :
    Within (Outermost places) location := by
  rcases within with ⟨place, isPlace, above⟩
  generalize isLength : place.length = length
  induction length using Nat.strongRecOn generalizing place with
  | ind length ih =>
      by_cases inner : ∃ other, places other ∧ other <+: place ∧ other ≠ place
      · rcases inner with ⟨other, isOther, isAbove, different⟩
        apply ih other.length _ other isOther (isAbove.trans above) rfl
        rw [← isLength]
        apply Nat.lt_of_le_of_ne isAbove.length_le
        intro sameLength
        exact different (isAbove.eq_of_length sameLength)
      · refine ⟨place, ⟨isPlace, ?_⟩, above⟩
        intro other isOther isAbove
        apply Decidable.byContradiction
        intro different
        exact inner ⟨other, isOther, isAbove, different⟩

/-! ## Overlays -/

/-- The later document is the earlier one with a result at each outermost place, and nothing else changed. -/
structure Overlay (earlier later : Value) (places : Location → Prop) (result : Location → Option Value) : Prop where
  stored : ∀ location, Outermost places location → later.at? location = result location
  /-- Where a location is not within a place, all but the children is as before. -/
  kept : ∀ location, ¬ Within places location →
    (later.at? location).map Value.face = (earlier.at? location).map Value.face
  /-- A value that holds no place is as before as a whole. -/
  same : ∀ location, Beside places location → later.at? location = earlier.at? location

namespace Overlay

variable {earlier middle later : Value} {places others : Location → Prop} {result : Location → Option Value}

theorem refl (document : Value) (result : Location → Option Value) :
    Overlay document document (fun _ => False) result := by
  constructor
  · intro location outermost
    exact outermost.1.elim
  · intro location _
    rfl
  · intro location _
    rfl

/-- Places that lie within others can be added or left out. -/
theorem congr (overlay : Overlay earlier later places result) (subset : ∀ place, places place → others place)
    (outer : ∀ place, Outermost others place → places place) : Overlay earlier later others result := by
  constructor
  · intro location outermost
    apply overlay.stored
    refine ⟨outer location outermost, ?_⟩
    intro place isPlace above
    exact outermost.2 place (subset place isPlace) above
  · intro location notWithin
    apply overlay.kept
    intro within
    exact notWithin (within.mono subset)
  · intro location beside
    apply overlay.same
    intro place isPlace
    exact beside place (subset place isPlace)

/-- More places are overwritten, none of which lies within one of the places before. -/
theorem trans (overlay : Overlay earlier middle places result) (change : Overlay middle later others result)
    (outer : ∀ place other, places place → others other → place <+: other → place = other) :
    Overlay earlier later (fun location => others location ∨ places location) result := by
  constructor
  · intro location outermost
    by_cases here : others location
    · apply change.stored
      refine ⟨here, ?_⟩
      intro other isOther above
      exact outermost.2 other (.inl isOther) above
    · have isPlace : places location := outermost.1.resolve_left here
      rw [change.same, overlay.stored]
      · refine ⟨isPlace, ?_⟩
        intro place isPlace above
        exact outermost.2 place (.inr isPlace) above
      · intro other isOther
        constructor
        · intro above
          exact here (outermost.2 other (.inl isOther) above ▸ isOther)
        · intro below
          exact here (outer location other isPlace isOther below ▸ isOther)
  · intro location notWithin
    rw [change.kept, overlay.kept]
    · intro within
      exact notWithin (within.mono fun _ => .inr)
    · intro within
      exact notWithin (within.mono fun _ => .inl)
  · intro location beside
    rw [change.same, overlay.same]
    · intro place isPlace
      exact beside place (.inr isPlace)
    · intro other isOther
      exact beside other (.inl isOther)

/-- One more place is overwritten, which does not lie within one of the places before. -/
theorem cons {place : Location} (overlay : Overlay earlier middle places result)
    (change : Overlay middle later (· = place) result)
    (outer : ∀ other, places other → other <+: place → other = place) :
    Overlay earlier later (fun location => location = place ∨ places location) result := by
  apply overlay.trans change
  rintro other _ isPlace rfl above
  exact outer other isPlace above

/-- A function that changes one child of the node to which it is applied overwrites the place of that child. -/
theorem of_updateAt {document node : Value} {location : Location} {segment : Segment} {f : Value → Value}
    (found : document.at? location = some node) (keepsFace : (f node).face = node.face)
    (stores : (f node).child? segment = result (location ++ [segment]))
    (keeps : ∀ other, other ≠ segment → (f node).child? other = node.child? other) :
    Overlay document (document.updateAt f location) (· = location ++ [segment]) result := by
  -- Below the node, but not within the child that is changed.
  have elsewhere (other : Segment) (below : Location) (different : other ≠ segment) :
      (document.updateAt f location).at? (location ++ other :: below) =
        document.at? (location ++ other :: below) := by
    rw [Value.at?_updateAt_append, Value.at?_append, found, Option.bind_some, Option.bind_some, Value.at?_cons,
      Value.at?_cons, keeps other different]
  constructor
  · rintro _ ⟨rfl, _⟩
    rw [Value.at?_updateAt_append, found, Option.bind_some, Value.at?_cons, stores]
    cases result (location ++ [segment]) <;> rfl
  · intro place notWithin
    by_cases below : location <+: place
    · rcases below with ⟨rest, rfl⟩
      cases rest with
      | nil =>
          have here := Value.at?_updateAt_append f document location []
          rw [found, Option.bind_some, List.append_nil] at here
          rw [List.append_nil, here, found, Value.at?, Option.map_some, Option.map_some, keepsFace]
      | cons other rest =>
          rw [elsewhere other rest]
          rintro rfl
          exact notWithin ⟨_, rfl, ⟨rest, by simp⟩⟩
    · by_cases above : place <+: location
      · rcases above with ⟨rest, rfl⟩
        rw [Value.at?_updateAt_above, Option.map_map]
        cases rest with
        | nil => exact absurd ⟨[], by simp⟩ below
        | cons other rest =>
            congr 1
            funext value
            exact Value.face_updateAt_cons f value other rest
      · rw [Value.at?_updateAt_beside f document below above]
  · intro place beside
    have notAround := beside _ rfl
    by_cases below : location <+: place
    · rcases below with ⟨rest, rfl⟩
      cases rest with
      | nil => exact absurd ⟨[segment], by simp⟩ notAround.2
      | cons other rest =>
          apply elsewhere
          rintro rfl
          exact notAround.1 ⟨rest, by simp⟩
    · apply Value.at?_updateAt_beside f document below
      intro above
      exact notAround.2 (above.trans (List.prefix_append _ _))

/-- The same change of a child beside all places, made in both documents. -/
theorem updateAt_both {location : Location} {segment : Segment} {f : Value → Value}
    {stored : Location → Option Value} (overlay : Overlay earlier later places result)
    (beside : Beside places (location ++ [segment]))
    (first : Overlay earlier (earlier.updateAt f location) (· = location ++ [segment]) stored)
    (second : Overlay later (later.updateAt f location) (· = location ++ [segment]) stored) :
    Overlay (earlier.updateAt f location) (later.updateAt f location) places result := by
  have outermost : Outermost (· = location ++ [segment]) (location ++ [segment]) :=
    ⟨rfl, fun _ isPlace _ => isPlace⟩
  have inside {place : Location} (within : location ++ [segment] <+: place) :
      (later.updateAt f location).at? place = (earlier.updateAt f location).at? place := by
    rcases within with ⟨rest, rfl⟩
    rw [Value.at?_append, Value.at?_append _ (location ++ [segment]), second.stored _ outermost,
      first.stored _ outermost]
  have outside {place : Location} (notWithin : ¬ location ++ [segment] <+: place) :
      ¬ Within (· = location ++ [segment]) place := by
    rintro ⟨_, rfl, within⟩
    exact notWithin within
  constructor
  · intro place isOutermost
    rw [second.same, overlay.stored place isOutermost]
    rintro _ rfl
    exact (beside place isOutermost.1).symm
  · intro place notWithin
    by_cases within : location ++ [segment] <+: place
    · rw [inside within]
    · rw [second.kept place (outside within), first.kept place (outside within), overlay.kept place notWithin]
  · intro place isBeside
    by_cases within : location ++ [segment] <+: place
    · exact inside within
    · by_cases above : place <+: location
      · rcases above with ⟨rest, rfl⟩
        rw [Value.at?_updateAt_above, Value.at?_updateAt_above, overlay.same place isBeside]
      · have notAround : Beside (· = location ++ [segment]) place := by
          rintro _ rfl
          refine ⟨within, ?_⟩
          intro isAbove
          rcases List.prefix_concat_iff.1 isAbove with rfl | isAbove
          · exact within (List.prefix_refl _)
          · exact above isAbove
        rw [second.same place notAround, first.same place notAround, overlay.same place isBeside]

theorem isContainerAt_eq (overlay : Overlay earlier later places result) {location : Location}
    (notWithin : ¬ Within places location) :
    later.isContainerAt location = earlier.isContainerAt location := by
  have faces := overlay.kept location notWithin
  rw [Value.isContainerAt, Value.isContainerAt]
  cases laterFound : later.at? location with
  | none =>
      cases earlierFound : earlier.at? location with
      | none => rfl
      | some node => simp [laterFound, earlierFound] at faces
  | some other =>
      cases earlierFound : earlier.at? location with
      | none => simp [laterFound, earlierFound] at faces
      | some node =>
          simp only [laterFound, earlierFound, Option.map_some, Option.some.injEq] at faces
          rw [Option.any_some, Option.any_some, ← Value.isContainer_face other, faces, Value.isContainer_face]

theorem isSome_at?_eq (overlay : Overlay earlier later places result) {location : Location}
    (notWithin : ¬ Within places location) : (later.at? location).isSome = (earlier.at? location).isSome := by
  have faces := congrArg Option.isSome (overlay.kept location notWithin)
  rwa [Option.isSome_map, Option.isSome_map] at faces

/-- An overlay is determined, location by location, by its places and what is stored there. -/
theorem face_eq {other : Value} (first : Overlay earlier later places result)
    (second : Overlay earlier other places result) (location : Location) :
    (later.at? location).map Value.face = (other.at? location).map Value.face := by
  by_cases within : Within places location
  · rcases within.exists_outermost with ⟨place, outermost, rest, rfl⟩
    rw [Value.at?_append, Value.at?_append, first.stored place outermost, second.stored place outermost]
  · rw [first.kept location within, second.kept location within]

end Overlay

end TreePath

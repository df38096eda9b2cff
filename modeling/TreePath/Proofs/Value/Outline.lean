import Mathlib.Data.List.Nodup
import TreePath.Proofs.Edit.Operations

/-!
# Outlines of values

The outline of a value is all that can be said of it without the values of its children, the segments to them included.
Putting a new value in the place of a child leaves the outlines of all values that are not within that child.
-/

namespace TreePath

theorem Members.Ordered.of_names {α β : Type} {members : List (String × α)} {others : List (String × β)}
    (ordered : Members.Ordered members) (names : others.map (·.1) = members.map (·.1)) : Members.Ordered others := by
  have asNames : (others.map (·.1)).Pairwise (· < ·) := by
    rw [names]
    exact List.pairwise_map.2 ordered
  exact List.pairwise_map.1 asNames

theorem Members.names_insert {α : Type} {members : List (String × α)} (ordered : Members.Ordered members)
    {name : String} (isThere : (Members.get? members name).isSome = true) (value : α) :
    (Members.insert members name value).map (·.1) = members.map (·.1) := by
  induction members with
  | nil => cases isThere
  | cons head members ih =>
      rcases head with ⟨other, old⟩
      rcases List.pairwise_cons.1 ordered with ⟨first, ordered⟩
      rw [Members.get?] at isThere
      rw [Members.insert]
      by_cases same : name = other
      · simp [same]
      · rw [if_neg same] at isThere
        rcases Option.isSome_iff_exists.1 isThere with ⟨found, isFound⟩
        have after : other < name := first _ (Members.mem_of_get? isFound)
        rw [if_neg same, if_neg (String.lt_asymm after), List.map_cons, ih ordered isThere, List.map_cons]

theorem Members.names_update {α : Type} (members : List (String × α)) (name : String) (f : α → α) :
    (Members.update members name f).map (·.1) = members.map (·.1) := by
  induction members with
  | nil => rfl
  | cons head members ih =>
      rw [Members.update]
      split
      · rfl
      · rw [List.map_cons, List.map_cons, ih]

namespace Value

/-- A value without its children, and the segments that lead to them. -/
def outline (value : Value) : Value × List Segment :=
  (value.face, value.segments)

/-- The members of an object are in order. -/
def IsOrdered : Value → Prop
  | object members => Members.Ordered members
  | _ => True

theorem WellFormed.isOrdered {value : Value} (wellFormed : value.WellFormed) : value.IsOrdered := by
  cases value with
  | object members =>
      rw [WellFormed] at wellFormed
      exact wellFormed.1
  | _ => trivial

theorem segments_object (members : List (String × Value)) :
    (object members).segments = (members.map (·.1)).map Segment.field := by
  rw [List.map_map]
  rfl

theorem IsOrdered.of_outline {value other : Value} (ordered : value.IsOrdered)
    (same : other.outline = value.outline) : other.IsOrdered := by
  rcases Prod.mk.inj same with ⟨faces, names⟩
  cases other with
  | object others =>
      cases value with
      | object members =>
          rw [segments_object, segments_object] at names
          exact Members.Ordered.of_names ordered
            (List.map_injective_iff.2 (fun _ _ => Segment.field.inj) names)
      | _ => cases faces
  | _ => trivial

theorem IsOrdered.nodup_segments {value : Value} (ordered : value.IsOrdered) : value.segments.Nodup := by
  cases value with
  | array items => exact List.Nodup.map (fun _ _ => Segment.index.inj) List.nodup_range
  | object members =>
      rw [segments_object]
      apply List.Nodup.map (fun _ _ => Segment.field.inj)
      apply List.Pairwise.imp _ (List.pairwise_map.2 ordered)
      rintro name _ before rfl
      exact String.lt_irrefl name before
  | _ => exact List.nodup_nil

theorem segments_updateChild (f : Value → Value) (value : Value) (segment : Segment) :
    (value.updateChild f segment).segments = value.segments := by
  cases value with
  | array items => cases segment <;> simp [updateChild, segments]
  | object members =>
      cases segment with
      | field name => rw [updateChild, segments_object, segments_object, Members.names_update]
      | index i => rfl
  | _ => rfl

theorem outline_updateAt_cons (f : Value → Value) (value : Value) (segment : Segment) (rest : Location) :
    (value.updateAt f (segment :: rest)).outline = value.outline :=
  Prod.ext (face_updateChild _ _ _) (segments_updateChild _ _ _)

theorem outline_place {node old : Value} {segment : Segment} (ordered : node.IsOrdered)
    (found : node.child? segment = some old) (new : Value) : (place new node segment).outline = node.outline := by
  apply Prod.ext (face_place new node segment)
  show (place new node segment).segments = node.segments
  cases node with
  | array items => cases segment <;> simp [place, segments]
  | object members =>
      cases segment with
      | field name =>
          have isThere : (Members.get? members name).isSome = true := Option.isSome_of_eq_some found
          rw [place, segments_object, segments_object, Members.names_insert ordered isThere]
      | index i => rfl
  | _ => cases segment <;> cases found

/-- A change at a location leaves the outlines of all other values that are not deeper. -/
theorem outline_at?_updateAt (f : Value → Value) (document : Value) {place location : Location}
    (high : location.length ≤ place.length) (different : location ≠ place) :
    ((document.updateAt f place).at? location).map outline = (document.at? location).map outline := by
  by_cases above : location <+: place
  · rcases above with ⟨rest, rfl⟩
    rw [at?_updateAt_above, Option.map_map]
    cases rest with
    | nil => exact absurd (List.append_nil location).symm different
    | cons segment rest =>
        congr 1
        funext value
        exact outline_updateAt_cons f value segment rest
  · have notBelow : ¬ place <+: location := by
      intro below
      exact different (below.eq_of_length_le high).symm
    rw [at?_updateAt_beside f document notBelow above]

/-- A new value for a child that is there leaves the outlines of all values that are not within the child. -/
theorem outline_at?_place {document node old : Value} {place location : Location} {segment : Segment}
    (stands : document.at? place = some node) (ordered : node.IsOrdered)
    (found : node.child? segment = some old) (new : Value) (notWithin : ¬ place ++ [segment] <+: location) :
    ((document.updateAt (Value.place new · segment) place).at? location).map outline =
      (document.at? location).map outline := by
  by_cases above : location <+: place
  · rcases above with ⟨rest, rfl⟩
    rw [at?_updateAt_above]
    cases rest with
    | nil =>
        rw [List.append_nil] at stands
        rw [stands, Option.map_some, Option.map_some, Option.map_some]
        exact congrArg some (outline_place ordered found new)
    | cons other rest =>
        rw [Option.map_map]
        congr 1
        funext value
        exact outline_updateAt_cons _ value other rest
  · have overlay : Overlay document (document.updateAt (Value.place new · segment) place) (· = place ++ [segment])
        fun _ => some new := overlay_place ⟨node, stands, admits_of_child? found⟩ rfl
    rw [overlay.same]
    rintro _ rfl
    refine ⟨notWithin, ?_⟩
    intro isAbove
    rcases List.prefix_concat_iff.1 isAbove with rfl | isAbove
    · exact notWithin (List.prefix_refl _)
    · exact above isAbove

end Value

end TreePath

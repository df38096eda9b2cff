import TreePath.Json.Basic
import TreePath.Proofs.Query.Throughout

/-!
# What conversion to JSON keeps

JSON knows neither instants nor numbers that are not finite, and documents know no integers above the 64-bit range. These
are all that the two conversions lose, each at any depth. What has once been converted to JSON contains no such integer, so a
second conversion changes nothing more.
-/

namespace TreePath

namespace Value

/-- Whether JSON can write a value, apart from the values in it. -/
def hasJson : Value → Bool
  | time _ => false
  | value => value.isFinite

end Value

mutual

/-- No integer in the JSON value lies above the 64-bit range. -/
def Json.IsNarrow : Json → Prop
  | .integer n _ => n < 2 ^ (63 : Nat)
  | .array items => areNarrowItems items
  | .object members => areNarrowMembers members
  | _ => True

def areNarrowItems : List Json → Prop
  | [] => True
  | item :: items => item.IsNarrow ∧ areNarrowItems items

def areNarrowMembers : List (String × Json) → Prop
  | [] => True
  | (_, value) :: members => value.IsNarrow ∧ areNarrowMembers members

end

namespace Binary64

theorem same_self_of_isFinite {x : Binary64} (finite : x.isFinite = true) : x.same x = true := by
  rcases x with _ | negative | ⟨negative, code⟩
  · cases finite
  · cases finite
  · cases negative <;> simp [same, compare?, place?]

end Binary64

namespace Value

/-! ## From values and back -/

theorem throughout_array {condition : Value → Bool} {items : List Value} :
    (array items).Throughout condition ↔
      condition (array items) = true ∧ ∀ item ∈ items, item.Throughout condition :=
  throughout_iff

theorem throughout_object {condition : Value → Bool} {members : List (String × Value)} :
    (object members).Throughout condition ↔
      condition (object members) = true ∧ ∀ member ∈ members, member.2.Throughout condition := by
  rw [throughout_iff, children, List.forall_mem_map]

theorem throughout_float {condition : Value → Bool} {x : Binary64} :
    (float x).Throughout condition ↔ condition (float x) = true :=
  throughout_of_scalar rfl

/-- The value that comes back for a number. -/
theorem ofJson_toJson_float (x : Binary64) :
    ofJson (float x).toJson = if x.isFinite then float x else null := by
  rw [toJson, Json.ofFloat?]
  split <;> rfl

mutual

/-- The values that come back from JSON as they were are those that JSON can write throughout. -/
theorem ofJson_toJson_iff : ∀ value : Value, ofJson value.toJson = value ↔ value.Throughout hasJson
  | .null | .boolean _ | .string _ => iff_of_true rfl ((throughout_of_scalar rfl).2 rfl)
  | .integer n => by
      rw [toJson, Json.ofInt64, ofJson, int64?_toInt]
      exact iff_of_true rfl ((throughout_of_scalar rfl).2 rfl)
  | .float x => by
      rw [ofJson_toJson_float, throughout_float]
      cases finite : x.isFinite <;> simp [hasJson, isFinite, finite]
  | .time _ => by
      rw [throughout_of_scalar rfl, toJson, ofJson]
      simp [hasJson]
  | .array items => by
      rw [toJson, ofJson, array.injEq, ofJsonItems_toJsonItems_iff items, throughout_array]
      exact (and_iff_right rfl).symm
  | .object members => by
      rw [toJson, ofJson, object.injEq, ofJsonMembers_toJsonMembers_iff members, throughout_object]
      exact (and_iff_right rfl).symm

theorem ofJsonItems_toJsonItems_iff : ∀ items : List Value,
    ofJsonItems (toJsonItems items) = items ↔ ∀ item ∈ items, item.Throughout hasJson
  | [] => iff_of_true rfl (List.forall_mem_nil _)
  | item :: items => by
      rw [toJsonItems, ofJsonItems, List.cons.injEq, ofJson_toJson_iff item, ofJsonItems_toJsonItems_iff items,
        List.forall_mem_cons]

theorem ofJsonMembers_toJsonMembers_iff : ∀ members : List (String × Value),
    ofJsonMembers (toJsonMembers members) = members ↔ ∀ member ∈ members, member.2.Throughout hasJson
  | [] => iff_of_true rfl (List.forall_mem_nil _)
  | (name, value) :: members => by
      rw [toJsonMembers, ofJsonMembers, List.cons.injEq, Prod.mk.injEq, and_iff_right rfl, ofJson_toJson_iff value,
        ofJsonMembers_toJsonMembers_iff members, List.forall_mem_cons]

end

mutual

/-- The same holds if what comes back is compared as documents compare values. -/
theorem same_ofJson_toJson_iff : ∀ value : Value,
    (ofJson value.toJson).same value = true ↔ value.Throughout hasJson
  | .null => iff_of_true rfl ((throughout_of_scalar rfl).2 rfl)
  | .boolean _ | .string _ => iff_of_true (beq_self_eq_true _) ((throughout_of_scalar rfl).2 rfl)
  | .integer n => by
      rw [toJson, Json.ofInt64, ofJson, int64?_toInt]
      exact iff_of_true (beq_self_eq_true n) ((throughout_of_scalar rfl).2 rfl)
  | .float x => by
      rw [ofJson_toJson_float, throughout_float]
      cases finite : x.isFinite <;> simp [hasJson, isFinite, same, finite, Binary64.same_self_of_isFinite]
  | .time _ => by
      rw [throughout_of_scalar rfl, toJson, ofJson]
      simp [hasJson, same]
  | .array items => by
      rw [toJson, ofJson, same, sameItems_ofJsonItems_toJsonItems_iff items, throughout_array]
      exact (and_iff_right rfl).symm
  | .object members => by
      rw [toJson, ofJson, same, sameMembers_ofJsonMembers_toJsonMembers_iff members, throughout_object]
      exact (and_iff_right rfl).symm

theorem sameItems_ofJsonItems_toJsonItems_iff : ∀ items : List Value,
    sameItems (ofJsonItems (toJsonItems items)) items = true ↔ ∀ item ∈ items, item.Throughout hasJson
  | [] => iff_of_true rfl (List.forall_mem_nil _)
  | item :: items => by
      rw [toJsonItems, ofJsonItems, sameItems, Bool.and_eq_true, same_ofJson_toJson_iff item,
        sameItems_ofJsonItems_toJsonItems_iff items, List.forall_mem_cons]

theorem sameMembers_ofJsonMembers_toJsonMembers_iff : ∀ members : List (String × Value),
    sameMembers (ofJsonMembers (toJsonMembers members)) members = true ↔
      ∀ member ∈ members, member.2.Throughout hasJson
  | [] => iff_of_true rfl (List.forall_mem_nil _)
  | (name, value) :: members => by
      rw [toJsonMembers, ofJsonMembers, sameMembers, beq_self_eq_true, Bool.true_and, Bool.and_eq_true,
        same_ofJson_toJson_iff value, sameMembers_ofJsonMembers_toJsonMembers_iff members, List.forall_mem_cons]

end

end Value

namespace Json

/-! ## From JSON and back -/

mutual

theorem isNarrow_toJson : ∀ value : Value, value.toJson.IsNarrow
  | .null | .boolean _ | .string _ | .time _ => trivial
  | .integer n => n.toInt_lt
  | .float x => by
      rw [Value.toJson, ofFloat?]
      split <;> trivial
  | .array items => areNarrow_toJsonItems items
  | .object members => areNarrow_toJsonMembers members

theorem areNarrow_toJsonItems : ∀ items : List Value, areNarrowItems (Value.toJsonItems items)
  | [] => trivial
  | item :: items => ⟨isNarrow_toJson item, areNarrow_toJsonItems items⟩

theorem areNarrow_toJsonMembers : ∀ members : List (String × Value), areNarrowMembers (Value.toJsonMembers members)
  | [] => trivial
  | (_, value) :: members => ⟨isNarrow_toJson value, areNarrow_toJsonMembers members⟩

end

theorem toJson_ofJson_integer_iff (n : Int) (bounds : -2 ^ (63 : Nat) ≤ n ∧ n < 2 ^ (64 : Nat)) :
    (Value.ofJson (integer n bounds)).toJson = integer n bounds ↔ n < 2 ^ (63 : Nat) := by
  rw [Value.ofJson]
  by_cases small : n < 2 ^ (63 : Nat)
  · have narrow : int64? n = some (Int64.ofInt n) := if_pos ⟨bounds.1, small⟩
    simp only [narrow, Value.toJson, ofInt64, toInt_of_int64? narrow, small]
  · have wide : int64? n = none := if_neg fun within => small within.2
    simp only [wide, Value.toJson, ofFloat?, small, iff_false]
    split <;> simp

mutual

/-- The JSON values that come back as they were are those without integers above the 64-bit range. -/
theorem toJson_ofJson_iff : ∀ json : Json, (Value.ofJson json).toJson = json ↔ json.IsNarrow
  | .null | .boolean _ | .string _ => iff_of_true rfl trivial
  | .integer n bounds => toJson_ofJson_integer_iff n bounds
  | .real x finite => by
      rw [Value.ofJson, Value.toJson, ofFloat?, dif_pos finite]
      exact iff_of_true rfl trivial
  | .array items => by
      rw [Value.ofJson, Value.toJson, array.injEq, toJsonItems_ofJsonItems_iff items, IsNarrow]
  | .object members => by
      rw [Value.ofJson, Value.toJson, object.injEq, toJsonMembers_ofJsonMembers_iff members, IsNarrow]

theorem toJsonItems_ofJsonItems_iff : ∀ items : List Json,
    Value.toJsonItems (Value.ofJsonItems items) = items ↔ areNarrowItems items
  | [] => iff_of_true rfl trivial
  | item :: items => by
      rw [Value.ofJsonItems, Value.toJsonItems, List.cons.injEq, toJson_ofJson_iff item,
        toJsonItems_ofJsonItems_iff items, areNarrowItems]

theorem toJsonMembers_ofJsonMembers_iff : ∀ members : List (String × Json),
    Value.toJsonMembers (Value.ofJsonMembers members) = members ↔ areNarrowMembers members
  | [] => iff_of_true rfl trivial
  | (name, value) :: members => by
      rw [Value.ofJsonMembers, Value.toJsonMembers, List.cons.injEq, Prod.mk.injEq, toJson_ofJson_iff value,
        toJsonMembers_ofJsonMembers_iff members, areNarrowMembers, and_iff_right rfl]

end

end Json

/--
A value comes back from JSON as it was, and equal to what it was, if and only if no instant and no number that is not finite
is in it at any depth. A second conversion to JSON yields what the first one did. A JSON value comes back as it was if
and only if no integer above the 64-bit range is in it.
-/
theorem json_round_trips :
    (∀ value : Value,
      (Value.ofJson value.toJson = value ↔ value.Throughout Value.hasJson) ∧
      ((Value.ofJson value.toJson).same value = true ↔ value.Throughout Value.hasJson) ∧
      (Value.ofJson value.toJson).toJson = value.toJson) ∧
    ∀ json : Json, (Value.ofJson json).toJson = json ↔ json.IsNarrow :=
  ⟨fun value => ⟨value.ofJson_toJson_iff, value.same_ofJson_toJson_iff,
    (Json.toJson_ofJson_iff _).2 (Json.isNarrow_toJson value)⟩, Json.toJson_ofJson_iff⟩

end TreePath

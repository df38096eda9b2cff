import TreePath.Proofs.Number.Comparison
import TreePath.Regex.Standard

/-!
# The comparison operators

Equality and order are decided apart, each by the kinds of the two terms. They agree where two terms are in order at all:
numbers other than not-a-number are, texts are, and instants together with texts that name one. There exactly one of less,
equal and greater holds, and elsewhere none but equal can hold. Both decisions are the same from either side.
-/

namespace TreePath

/-! ## From either side -/

theorem map_swap_beq_eq (order : Option Ordering) : (order.map Ordering.swap == some .eq) = (order == some .eq) := by
  cases order with
  | none => rfl
  | some order => cases order <;> rfl

theorem Binary64.compare?_comm (x y : Binary64) : y.compare? x = (x.compare? y).map Ordering.swap := by
  unfold compare?
  cases x.place? <;> cases y.place? <;> simp [Int.compare_swap]

namespace Numeric

theorem compare?_comm (x y : Numeric) : y.compare? x = (x.compare? y).map Ordering.swap := by
  rcases x with m | x <;> rcases y with n | y <;> simp only [compare?]
  · simp [Int.compare_swap]
  all_goals exact Binary64.compare?_comm _ _

/-- Every number has a place in the order, except not-a-number. -/
theorem exists_place?_iff {x : Numeric} : (∃ place, x.place? = some place) ↔ x ≠ float .nan := by
  rcases x with n | x
  · simp
  · rcases x with _ | negative | ⟨negative, code⟩
    · simp [place?, toFloat, Binary64.place?]
    · cases negative <;> simp [place?, toFloat, Binary64.place?]
    · cases negative <;> simp [place?, toFloat, Binary64.place?]

theorem exists_compare?_iff {x y : Numeric} :
    (∃ order, x.compare? y = some order) ↔ x ≠ float .nan ∧ y ≠ float .nan := by
  by_cases integers : ∃ m n, x = integer m ∧ y = integer n
  · rcases integers with ⟨m, n, rfl, rfl⟩
    simp [compare?]
  · rw [← exists_place?_iff, ← exists_place?_iff]
    simp only [compare?_eq_some integers]
    constructor
    · rintro ⟨_, place, place', atX, atY, _⟩
      exact ⟨⟨place, atX⟩, ⟨place', atY⟩⟩
    · rintro ⟨⟨place, atX⟩, ⟨place', atY⟩⟩
      exact ⟨_, place, place', atX, atY, rfl⟩

end Numeric

theorem Instant.compare_swap (x y : Instant) : (x.compare y).swap = y.compare x := by
  simp [compare, Ordering.swap_then, Int.compare_swap, Nat.compare_swap]

/-! ## Equal values -/

namespace Value

theorem same_float_comm (x y : Binary64) : x.same y = y.same x := by
  rw [Binary64.same, Binary64.same, Binary64.compare?_comm x y, map_swap_beq_eq]

mutual

theorem same_comm (left right : Value) : left.same right = right.same left := by
  cases left <;> cases right <;> simp only [same]
  case boolean.boolean x y => exact Bool.beq_comm
  case integer.integer m n => exact Bool.beq_comm
  case float.float x y => exact same_float_comm x y
  case string.string x y => exact Bool.beq_comm
  case time.time x y => exact Bool.beq_comm
  case array.array xs ys => exact sameItems_comm xs ys
  case object.object xs ys => exact sameMembers_comm xs ys

theorem sameItems_comm (left right : List Value) : sameItems left right = sameItems right left := by
  cases left <;> cases right <;> simp only [sameItems]
  case cons.cons x xs y ys => rw [same_comm x y, sameItems_comm xs ys]

theorem sameMembers_comm (left right : List (String × Value)) :
    sameMembers left right = sameMembers right left := by
  cases left <;> cases right <;> simp only [sameMembers]
  case cons.cons x xs y ys => rw [same_comm x.2 y.2, sameMembers_comm xs ys, Bool.beq_comm]

end

end Value

namespace Term

theorem compareTexts_swap (x y : String) : (compareTexts x y).swap = compareTexts y x := by
  unfold compareTexts
  rcases Std.lt_trichotomy x y with less | rfl | greater
  · simp [less, String.lt_asymm less, (String.ne_of_lt less).symm]
  · simp
  · simp [greater, String.lt_asymm greater, (String.ne_of_lt greater).symm]

theorem compareTexts_beq_eq (x y : String) : (compareTexts x y == .eq) = (x == y) := by
  unfold compareTexts
  by_cases same : x = y
  · simp [same]
  · by_cases less : x < y <;> simp [same, less]

section Comparing

variable [RegexSyntax]

/-- An operator between two terms yields true. -/
def Holds (operator : Operator) (left right : Term) : Prop :=
  applyBinary operator left right = .boolean true

/-- A term is an instant, or a text that is one in the format of RFC 3339. -/
inductive NamesInstant : Term → Prop
  | time (instant : Instant) : NamesInstant (time instant)
  | text {characters : String} {instant : Instant} (names : Instant.ofText? characters.toList = some instant) :
      NamesInstant (text characters)

/-- Two terms are in order with each other. -/
inductive Comparable : Term → Term → Prop
  | numbers {x y : Numeric} (isNumber : x ≠ .float .nan) (isNumber' : y ≠ .float .nan) :
      Comparable (number x) (number y)
  | texts (x y : String) : Comparable (text x) (text y)
  | timeLeft (instant : Instant) {other : Term} (names : NamesInstant other) : Comparable (time instant) other
  | timeRight {other : Term} (names : NamesInstant other) (instant : Instant) : Comparable other (time instant)

section Laws

variable {left right : Term}

@[simp]
theorem holds_equal : Holds .equal left right ↔ left.equal right = true := by
  simp [Holds, applyBinary]

@[simp]
theorem holds_notEqual : Holds .notEqual left right ↔ ¬ Holds .equal left right := by
  simp [Holds, applyBinary]

@[simp]
theorem holds_less : Holds .less left right ↔ left.order? right = some .lt := by
  simp [Holds, applyBinary]

@[simp]
theorem holds_greater : Holds .greater left right ↔ left.order? right = some .gt := by
  simp [Holds, applyBinary]

@[simp]
theorem holds_lessOrEqual :
    Holds .lessOrEqual left right ↔ left.order? right = some .lt ∨ left.order? right = some .eq := by
  simp [Holds, applyBinary]

@[simp]
theorem holds_greaterOrEqual :
    Holds .greaterOrEqual left right ↔ left.order? right = some .gt ∨ left.order? right = some .eq := by
  simp [Holds, applyBinary]

/-! ## The order of terms -/

theorem order?_time_left (instant : Instant) (other : Term) :
    (time instant).order? other = other.toInstant?.map instant.compare := by
  cases other <;> rfl

theorem order?_time_right (other : Term) (instant : Instant) :
    other.order? (time instant) = other.toInstant?.map (·.compare instant) := by
  cases other <;> rfl

theorem order?_comm (left right : Term) : right.order? left = (left.order? right).map Ordering.swap := by
  cases left
  case time x =>
    rw [order?_time_left, order?_time_right, Option.map_map]
    exact Option.map_congr fun y _ => (Instant.compare_swap x y).symm
  all_goals
    cases right
    case time y =>
      rw [order?_time_left, order?_time_right, Option.map_map]
      exact Option.map_congr fun x _ => (Instant.compare_swap x y).symm
  case number.number x y => exact Numeric.compare?_comm x y
  case text.text x y => exact congrArg some (compareTexts_swap x y).symm
  all_goals rfl

theorem namesInstant_iff : NamesInstant left ↔ ∃ instant, left.toInstant? = some instant := by
  constructor
  · rintro (⟨instant⟩ | ⟨names⟩)
    · exact ⟨instant, rfl⟩
    · exact ⟨_, names⟩
  · rintro ⟨instant, names⟩
    cases left
    case time instant => exact .time instant
    case text characters => exact .text names
    all_goals cases names

/-- Terms are in order just where the order is decided. -/
theorem comparable_iff : Comparable left right ↔ ∃ order, left.order? right = some order := by
  constructor
  · intro comparable
    cases comparable with
    | numbers isNumber isNumber' => exact Numeric.exists_compare?_iff.2 ⟨isNumber, isNumber'⟩
    | texts x y => exact ⟨_, rfl⟩
    | timeLeft instant names =>
        rcases namesInstant_iff.1 names with ⟨other, named⟩
        exact ⟨_, by rw [order?_time_left, named, Option.map_some]⟩
    | timeRight names instant =>
        rcases namesInstant_iff.1 names with ⟨other, named⟩
        exact ⟨_, by rw [order?_time_right, named, Option.map_some]⟩
  · rintro ⟨order, ordered⟩
    cases left
    case time x =>
      rw [order?_time_left, Option.map_eq_some_iff] at ordered
      rcases ordered with ⟨y, named, -⟩
      exact .timeLeft x (namesInstant_iff.2 ⟨y, named⟩)
    all_goals
      cases right
      case time y =>
        rw [order?_time_right, Option.map_eq_some_iff] at ordered
        rcases ordered with ⟨x, named, -⟩
        exact .timeRight (namesInstant_iff.2 ⟨x, named⟩) y
    case number.number x y =>
      rcases Numeric.exists_compare?_iff.1 ⟨order, ordered⟩ with ⟨isNumber, isNumber'⟩
      exact .numbers isNumber isNumber'
    case text.text x y => exact .texts x y
    all_goals cases ordered

/-! ## Equality -/

theorem equal_time_left (instant : Instant) (other : Term) :
    (time instant).equal other = ((time instant).order? other == some .eq) := by
  rw [order?_time_left]
  cases other with
  | text characters =>
      rw [equal, toInstant?]
      cases Instant.ofText? characters.toList <;> rfl
  | _ => rfl

theorem equal_time_right (other : Term) (instant : Instant) :
    other.equal (time instant) = (other.order? (time instant) == some .eq) := by
  rw [order?_time_right]
  cases other with
  | text characters =>
      rw [equal, toInstant?]
      · cases Instant.ofText? characters.toList <;> rfl
      · intro _ isTime
        cases isTime
  | _ => rfl

theorem equal_number (x y : Numeric) :
    (number x).equal (number y) = ((number x).order? (number y) == some .eq) := rfl

/-- Where terms are in order, equality is what the order says. -/
theorem equal_of_order? {order : Ordering} (ordered : left.order? right = some order) :
    left.equal right = (order == .eq) := by
  cases comparable_iff.2 ⟨order, ordered⟩ with
  | @numbers x y =>
      rw [equal_number, ordered]
      rfl
  | texts x y =>
      rcases Option.some.inj ordered with rfl
      exact (compareTexts_beq_eq x y).symm
  | timeLeft =>
      rw [equal_time_left, ordered]
      rfl
  | timeRight =>
      rw [equal_time_right, ordered]
      rfl

theorem equal_comm (left right : Term) : left.equal right = right.equal left := by
  cases left
  case time x => rw [equal_time_left, equal_time_right, order?_comm right, map_swap_beq_eq]
  all_goals
    cases right
    case time y => rw [equal_time_left, equal_time_right, order?_comm (time y), map_swap_beq_eq]
  case number.number x y => rw [equal_number, equal_number, order?_comm (number y), map_swap_beq_eq]
  case boolean.boolean x y => exact Bool.beq_comm
  case text.text x y => exact Bool.beq_comm
  case node.node x y => exact Value.same_comm x y
  case list.list xs ys => exact Value.sameItems_comm xs ys
  case node.list value ys =>
    cases value
    case array xs => exact Value.sameItems_comm xs ys
    all_goals rfl
  case list.node xs value =>
    cases value
    case array ys => exact Value.sameItems_comm xs ys
    all_goals rfl
  all_goals rfl

/-! ## The laws of the operators -/

theorem holds_less_comm : Holds .less left right ↔ Holds .greater right left := by
  rw [holds_less, holds_greater, order?_comm left right]
  rcases left.order? right with _ | _ | _ | _ <;> simp

theorem holds_lessOrEqual_comm : Holds .lessOrEqual left right ↔ Holds .greaterOrEqual right left := by
  rw [holds_lessOrEqual, holds_greaterOrEqual, order?_comm left right]
  rcases left.order? right with _ | _ | _ | _ <;> simp

/-- What is less or greater is not equal. -/
theorem not_holds_equal_of_order? {order : Ordering} (ordered : left.order? right = some order) (differs : order ≠ .eq) :
    ¬ Holds .equal left right := by
  rw [holds_equal, equal_of_order? ordered, beq_iff_eq]
  exact differs

/-- Of two terms in order with each other the first is less, equal or greater. -/
theorem Comparable.trichotomy (comparable : Comparable left right) :
    Holds .less left right ∨ Holds .equal left right ∨ Holds .greater left right := by
  rcases comparable_iff.1 comparable with ⟨order, ordered⟩
  rw [holds_less, holds_equal, holds_greater, equal_of_order? ordered, ordered]
  cases order <;> simp

theorem Comparable.holds_lessOrEqual_iff (comparable : Comparable left right) :
    Holds .lessOrEqual left right ↔ Holds .less left right ∨ Holds .equal left right := by
  rcases comparable_iff.1 comparable with ⟨order, ordered⟩
  rw [holds_less, holds_equal, holds_lessOrEqual, equal_of_order? ordered, ordered]
  cases order <;> simp

/-- The operators that ask for the order. -/
def orderOperators : List Operator :=
  [.less, .greater, .lessOrEqual, .greaterOrEqual]

theorem not_holds_of_not_comparable (incomparable : ¬ Comparable left right) {operator : Operator}
    (asks : operator ∈ orderOperators) : ¬ Holds operator left right := by
  have undecided : left.order? right = none := by
    rw [comparable_iff, not_exists] at incomparable
    exact Option.eq_none_iff_forall_ne_some.2 incomparable
  simp only [orderOperators, List.mem_cons, List.not_mem_nil, or_false] at asks
  rcases asks with rfl | rfl | rfl | rfl <;> simp [undecided]

end Laws

/--
Equality is the same from either side, and less and less-or-equal turn into greater and greater-or-equal. No two of less,
equal and greater hold together. One of them holds between terms that are in order with each other, and there less-or-equal
is less or equal; between other terms no operator that asks for the order holds.
-/
theorem comparison_laws (left right : Term) :
    (Holds .equal left right ↔ Holds .equal right left) ∧
    (Holds .notEqual left right ↔ ¬ Holds .equal left right) ∧
    (Holds .less left right ↔ Holds .greater right left) ∧
    (Holds .lessOrEqual left right ↔ Holds .greaterOrEqual right left) ∧
    (¬ (Holds .less left right ∧ Holds .equal left right) ∧
      ¬ (Holds .equal left right ∧ Holds .greater left right) ∧
      ¬ (Holds .less left right ∧ Holds .greater left right)) ∧
    (Comparable left right →
      (Holds .less left right ∨ Holds .equal left right ∨ Holds .greater left right) ∧
      (Holds .lessOrEqual left right ↔ Holds .less left right ∨ Holds .equal left right)) ∧
    (¬ Comparable left right → ∀ operator ∈ orderOperators, ¬ Holds operator left right) := by
  refine ⟨by rw [holds_equal, holds_equal, equal_comm], holds_notEqual, holds_less_comm, holds_lessOrEqual_comm,
    ⟨?_, ?_, ?_⟩, fun comparable => ⟨comparable.trichotomy, comparable.holds_lessOrEqual_iff⟩,
    fun incomparable _ => not_holds_of_not_comparable incomparable⟩
  · rintro ⟨less, equal⟩
    exact not_holds_equal_of_order? (holds_less.1 less) (by decide) equal
  · rintro ⟨equal, greater⟩
    exact not_holds_equal_of_order? (holds_greater.1 greater) (by decide) equal
  · rintro ⟨less, greater⟩
    rw [holds_less] at less
    rw [holds_greater, less] at greater
    cases greater

end Comparing

/-- The beginning of 1970 is in order with a text that names the next second, and not with a list that holds it. -/
theorem comparison_laws_atEpoch :
    (Holds .lessOrEqual (time ⟨0, 0⟩) (text "1970-01-01T00:00:01Z") ∧
      ¬ Holds .equal (time ⟨0, 0⟩) (text "1970-01-01T00:00:01Z")) ∧
      ¬ Holds .lessOrEqual (time ⟨0, 0⟩) (list [.time ⟨0, 0⟩]) := by
  have named : Instant.ofText? "1970-01-01T00:00:01Z".toList = some ⟨1, 0⟩ := by decide +kernel
  have less : Holds .less (time ⟨0, 0⟩) (text "1970-01-01T00:00:01Z") := by
    rw [holds_less, order?_time_left, toInstant?, named]
    rfl
  have incomparable : ¬ Comparable (time ⟨0, 0⟩) (list [.time ⟨0, 0⟩]) := by
    rw [comparable_iff]
    rintro ⟨order, ordered⟩
    cases ordered
  rcases comparison_laws (time ⟨0, 0⟩) (text "1970-01-01T00:00:01Z") with ⟨-, -, -, -, exclusive, inOrder, -⟩
  have lessOrEqual := (inOrder (.timeLeft _ (.text named))).2.2 (.inl less)
  have notEqual := fun equal => exclusive.1 ⟨less, equal⟩
  rcases comparison_laws (time ⟨0, 0⟩) (list [.time ⟨0, 0⟩]) with ⟨-, -, -, -, -, -, outOfOrder⟩
  exact ⟨⟨lessOrEqual, notEqual⟩, outOfOrder incomparable _ (by decide)⟩

end Term

end TreePath

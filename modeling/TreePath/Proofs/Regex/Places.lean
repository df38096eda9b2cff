import TreePath.Regex.Search
import Mathlib.Data.Nat.Bitwise
import Mathlib.Logic.Function.Iterate

/-!
# Sets of places

The bits of a number as the set of the places where they are set. What the functions on rows yield is told bit by bit:
`testBit_image` for one step, `testBit_bounded` for a bounded number of steps, and `testBit_unbounded` for at least some
number of them, by `Iterates`. All rows lead forward and stay within the text, which is why they can be closed from the
last one to the first.
-/

namespace TreePath

/-- A number of steps of a relation, one after the other. -/
def Iterates (step : Nat → Nat → Prop) : Nat → Nat → Nat → Prop
  | 0, place, last => place = last
  | count + 1, place, last => ∃ next, step place next ∧ Iterates step count next last

/-- Any number of steps. -/
def Reaches (step : Nat → Nat → Prop) (place last : Nat) : Prop :=
  ∃ count, Iterates step count place last

namespace Iterates

variable {step other : Nat → Nat → Prop} {first second place middle last : Nat}

theorem append (front : Iterates step first place middle) (back : Iterates step second middle last) :
    Iterates step (first + second) place last := by
  induction first generalizing place with
  | zero =>
      rcases front with rfl
      rwa [Nat.zero_add]
  | succ first ih =>
      rcases front with ⟨next, isStep, front⟩
      rw [Nat.add_right_comm]
      exact ⟨next, isStep, ih front⟩

theorem split (steps : Iterates step (first + second) place last) :
    ∃ middle, Iterates step first place middle ∧ Iterates step second middle last := by
  induction first generalizing place with
  | zero =>
      rw [Nat.zero_add] at steps
      exact ⟨place, rfl, steps⟩
  | succ first ih =>
      rw [Nat.add_right_comm] at steps
      rcases steps with ⟨next, isStep, steps⟩
      rcases ih steps with ⟨middle, front, back⟩
      exact ⟨middle, ⟨next, isStep, front⟩, back⟩

/-- Steps that are also steps of another relation, as far as they are taken from some places and lead to such. -/
theorem imp (Inside : Nat → Prop)
    (implies : ∀ place next, Inside place → step place next → other place next ∧ Inside next)
    (inside : Inside place) (steps : Iterates step first place last) : Iterates other first place last := by
  induction first generalizing place with
  | zero => exact steps
  | succ first ih =>
      rcases steps with ⟨next, isStep, steps⟩
      rcases implies place next inside isStep with ⟨isOther, nextInside⟩
      exact ⟨next, isOther, ih nextInside steps⟩

/-- Steps that lead forward as far as they are taken from some places, and stay among these. -/
theorem forward {Inside : Nat → Prop}
    (keeps : ∀ place next, Inside place → step place next → place ≤ next ∧ Inside next)
    (inside : Inside place) (steps : Iterates step first place last) : place ≤ last ∧ Inside last := by
  induction first generalizing place with
  | zero =>
      rcases steps with rfl
      exact ⟨Nat.le_refl place, inside⟩
  | succ first ih =>
      rcases steps with ⟨next, isStep, steps⟩
      rcases keeps place next inside isStep with ⟨ahead, nextInside⟩
      rcases ih nextInside steps with ⟨further, lastInside⟩
      exact ⟨Nat.le_trans ahead further, lastInside⟩

end Iterates

namespace Reaches

variable {step : Nat → Nat → Prop} {place middle last : Nat}

theorem refl (place : Nat) : Reaches step place place :=
  ⟨0, rfl⟩

theorem trans (front : Reaches step place middle) (back : Reaches step middle last) : Reaches step place last := by
  rcases front with ⟨first, front⟩
  rcases back with ⟨second, back⟩
  exact ⟨first + second, front.append back⟩

/-- The first step that leads elsewhere. -/
theorem cases_head (reaches : Reaches step place last) :
    last = place ∨ ∃ next, next ≠ place ∧ step place next ∧ Reaches step next last := by
  rcases reaches with ⟨count, steps⟩
  induction count with
  | zero => exact .inl steps.symm
  | succ count ih =>
      rcases steps with ⟨next, isStep, steps⟩
      by_cases stays : next = place
      · subst stays
        exact ih steps
      · exact .inr ⟨next, stays, isStep, count, steps⟩

end Reaches

namespace Moves

variable {rows closed : Array Nat} {places reached count bound i j : Nat}

/-- All places of a set are below a bound. -/
def Below (bound places : Nat) : Prop :=
  ∀ place, places.testBit place = true → place < bound

theorem eq_zero_of_below (below : Below 0 places) : places = 0 := by
  apply Nat.eq_of_testBit_eq
  intro place
  rw [Nat.zero_testBit, Bool.eq_false_iff]
  intro isPlace
  exact Nat.not_lt_zero place (below place isPlace)

theorem testBit_without {others : Nat} :
    (without places others).testBit j = true ↔ places.testBit j = true ∧ others.testBit j = false := by
  rw [without, Nat.testBit_xor, Nat.testBit_and]
  cases places.testBit j <;> cases others.testBit j <;> simp

theorem testBit_one_shiftLeft : (1 <<< i).testBit j = true ↔ j = i := by
  rw [Nat.one_shiftLeft, Nat.testBit_two_pow, decide_eq_true_eq, eq_comm]

/-! ## The first place of a set -/

/-- Taking one away from a number clears the lowest of its bits, and all bits above stay. -/
theorem exists_lowest (some : places ≠ 0) :
    ∃ first, places ^^^ (places &&& (places - 1)) = 1 <<< first ∧ places.testBit first = true ∧
      ∀ place, places.testBit place = true → first ≤ place := by
  induction places using Nat.strongRecOn with
  | ind places ih =>
      by_cases odd : places % 2 = 1
      · have half : (places - 1) / 2 = places / 2 := by omega
        have even : (places - 1) % 2 = 0 := by omega
        refine ⟨0, ?_, by rw [Nat.testBit_zero, decide_eq_true odd], fun _ _ => Nat.zero_le _⟩
        apply Nat.eq_of_testBit_eq
        intro place
        rw [Nat.testBit_xor, Nat.testBit_and, Nat.one_shiftLeft, Nat.testBit_two_pow]
        cases place with
        | zero => simp [Nat.testBit_zero, odd, even]
        | succ place =>
            rw [Nat.testBit_add_one, Nat.testBit_add_one, half]
            simp
      · have half : (places - 1) / 2 = places / 2 - 1 := by omega
        rcases ih (places / 2) (by omega) (by omega) with ⟨first, isPower, isPlace, isFirst⟩
        refine ⟨first + 1, ?_, by rwa [Nat.testBit_add_one], ?_⟩
        · apply Nat.eq_of_testBit_eq
          intro place
          rw [Nat.testBit_xor, Nat.testBit_and, Nat.one_shiftLeft, Nat.testBit_two_pow]
          cases place with
          | zero => simp [Nat.testBit_zero, odd]
          | succ place =>
              have here := congrArg (Nat.testBit · place) isPower
              simp only [Nat.testBit_xor, Nat.testBit_and, Nat.one_shiftLeft, Nat.testBit_two_pow] at here
              rw [Nat.testBit_add_one, Nat.testBit_add_one, half, here]
              simp
        · intro place isIn
          cases place with
          | zero => simp [odd] at isIn
          | succ place =>
              rw [Nat.testBit_add_one] at isIn
              exact Nat.succ_le_succ (isFirst place isIn)

/-- The first place is one of a set, and no place comes before it. -/
theorem firstOf_spec (some : places ≠ 0) :
    places.testBit (firstOf places) = true ∧ ∀ place, places.testBit place = true → firstOf places ≤ place := by
  rcases exists_lowest some with ⟨first, isPower, isPlace, isFirst⟩
  have isFirstOf : firstOf places = first := by
    rw [firstOf, isPower, Nat.one_shiftLeft, Nat.log2_two_pow]
  rw [isFirstOf]
  exact ⟨isPlace, isFirst⟩

/-! ## One step -/

theorem le_log2_of_testBit (isPlace : places.testBit i = true) : i ≤ places.log2 := by
  have large := Nat.ge_two_pow_of_testBit isPlace
  have some : places ≠ 0 := by
    rintro rfl
    rw [Nat.zero_testBit] at isPlace
    cases isPlace
  exact (Nat.le_log2 some).2 large

theorem testBit_withRows (below : Below count places) :
    (withRows rows count places reached).testBit j = true ↔
      reached.testBit j = true ∨ ∃ i, places.testBit i = true ∧ (rowAt rows i).testBit j = true := by
  induction count generalizing places reached with
  | zero =>
      rw [eq_zero_of_below below, withRows]
      simp
  | succ count ih =>
      rw [withRows]
      by_cases none : places = 0
      · simp [none]
      · have isLast : places.testBit places.log2 = true := Nat.testBit_log2 none
        have others (place : Nat) : (places ^^^ (1 <<< places.log2)).testBit place = true ↔
            places.testBit place = true ∧ place ≠ places.log2 := by
          have one := @testBit_one_shiftLeft places.log2 place
          rw [Nat.testBit_xor]
          by_cases same : place = places.log2
          · rw [one.2 same, same, isLast]
            simp
          · rw [Bool.eq_false_iff.2 fun isOne => same (one.1 isOne)]
            simp [same]
        have belowOthers : Below count (places ^^^ (1 <<< places.log2)) := by
          intro place isIn
          rcases (others place).1 isIn with ⟨isPlace, notLast⟩
          have := le_log2_of_testBit isPlace
          have := below _ isLast
          omega
        rw [if_neg none, ih belowOthers, Nat.testBit_or, Bool.or_eq_true]
        constructor
        · rintro ((isReached | isRow) | ⟨place, isIn, isRow⟩)
          · exact .inl isReached
          · exact .inr ⟨_, isLast, isRow⟩
          · exact .inr ⟨place, ((others place).1 isIn).1, isRow⟩
        · rintro (isReached | ⟨place, isPlace, isRow⟩)
          · exact .inl (.inl isReached)
          · by_cases same : place = places.log2
            · rw [same] at isRow
              exact .inl (.inr isRow)
            · exact .inr ⟨place, (others place).2 ⟨isPlace, same⟩, isRow⟩

/-- The step that rows say. -/
def Row (rows : Array Nat) (place next : Nat) : Prop :=
  (rowAt rows place).testBit next = true

theorem testBit_image (below : Below rows.size places) :
    (image rows places).testBit j = true ↔ ∃ i, places.testBit i = true ∧ Row rows i j := by
  rw [image, testBit_withRows below, Nat.zero_testBit]
  simp [Row]

/-! ## A bounded number of steps -/

/-- All steps lead forward and stay among the places that have a row. -/
def Forward (rows : Array Nat) : Prop :=
  ∀ place next, Row rows place next → place ≤ next ∧ next < rows.size

/-- Where a step changes nothing, it changes nothing any number of times. -/
theorem iterate_eq (step : Nat → Nat) : iterate step count places = step^[count] places := by
  induction count generalizing places with
  | zero => rfl
  | succ count ih =>
      rw [iterate, Function.iterate_succ_apply]
      by_cases fixed : step places = places
      · rw [if_pos fixed, fixed, Function.iterate_fixed fixed]
      · rw [if_neg fixed, ih]

theorem Forward.image (forward : Forward rows) (below : Below rows.size places) :
    Below rows.size (Moves.image rows places) := by
  intro place isIn
  rcases (testBit_image below).1 isIn with ⟨i, _, isRow⟩
  exact (forward i place isRow).2

theorem Below.or {others : Nat} (below : Below bound places) (othersBelow : Below bound others) :
    Below bound (places ||| others) := by
  intro place isIn
  rw [Nat.testBit_or, Bool.or_eq_true] at isIn
  exact isIn.elim (below place) (othersBelow place)

theorem testBit_iterate_image (forward : Forward rows) (below : Below rows.size places) :
    (iterate (image rows) count places).testBit j = true ↔
      ∃ i, places.testBit i = true ∧ Iterates (Row rows) count i j := by
  rw [iterate_eq]
  induction count generalizing places with
  | zero => simp [Iterates]
  | succ count ih =>
      rw [Function.iterate_succ_apply, ih (forward.image below)]
      constructor
      · rintro ⟨next, isNext, steps⟩
        rcases (testBit_image below).1 isNext with ⟨i, isPlace, isStep⟩
        exact ⟨i, isPlace, next, isStep, steps⟩
      · rintro ⟨i, isPlace, next, isStep, steps⟩
        exact ⟨next, (testBit_image below).2 ⟨i, isPlace, isStep⟩, steps⟩

theorem Forward.iterate_image (forward : Forward rows) (below : Below rows.size places) :
    Below rows.size (iterate (Moves.image rows) count places) := by
  intro place isIn
  rcases (testBit_iterate_image forward below).1 isIn with ⟨i, isPlace, steps⟩
  have keeps (place next : Nat) (_ : place < rows.size) (isStep : Row rows place next) :
      place ≤ next ∧ next < rows.size := forward place next isStep
  exact (steps.forward keeps (below i isPlace)).2

theorem testBit_iterate_or_image (forward : Forward rows) (below : Below rows.size places) :
    (iterate (fun reached => reached ||| image rows reached) count places).testBit j = true ↔
      ∃ i, places.testBit i = true ∧ ∃ steps, steps ≤ count ∧ Iterates (Row rows) steps i j := by
  rw [iterate_eq]
  induction count generalizing places with
  | zero => simp [Iterates]
  | succ count ih =>
      rw [Function.iterate_succ_apply, ih (below.or (forward.image below))]
      constructor
      · rintro ⟨next, isNext, number, few, steps⟩
        rw [Nat.testBit_or, Bool.or_eq_true] at isNext
        rcases isNext with isPlace | isImage
        · exact ⟨next, isPlace, number, by omega, steps⟩
        · rcases (testBit_image below).1 isImage with ⟨i, isPlace, isStep⟩
          exact ⟨i, isPlace, number + 1, by omega, next, isStep, steps⟩
      · rintro ⟨i, isPlace, number, few, steps⟩
        cases number with
        | zero => exact ⟨i, by rw [Nat.testBit_or, isPlace, Bool.true_or], 0, by omega, steps⟩
        | succ number =>
            rcases steps with ⟨next, isStep, steps⟩
            have isImage := (testBit_image below).2 ⟨i, isPlace, isStep⟩
            exact ⟨next, by rw [Nat.testBit_or, isImage, Bool.or_true], number, by omega, steps⟩

theorem testBit_bounded {least most : Nat} (forward : Forward rows) (ordered : least ≤ most)
    (below : Below rows.size places) :
    ((bounded rows least most).reach places).testBit j = true ↔
      ∃ i, places.testBit i = true ∧ ∃ count, least ≤ count ∧ count ≤ most ∧ Iterates (Row rows) count i j := by
  rw [reach, testBit_iterate_or_image forward (forward.iterate_image below)]
  constructor
  · rintro ⟨middle, isMiddle, more, few, back⟩
    rcases (testBit_iterate_image forward below).1 isMiddle with ⟨i, isPlace, front⟩
    exact ⟨i, isPlace, least + more, by omega, by omega, front.append back⟩
  · rintro ⟨i, isPlace, count, enough, few, steps⟩
    rcases Nat.exists_eq_add_of_le enough with ⟨more, rfl⟩
    rcases steps.split with ⟨middle, front, back⟩
    exact ⟨middle, (testBit_iterate_image forward below).2 ⟨i, isPlace, front⟩, more, by omega, back⟩

/-! ## Any number of steps -/

/-- The second rows say where any number of steps leads from the places from a bound on. -/
def ClosedFrom (bound : Nat) (rows closed : Array Nat) : Prop :=
  ∀ place, bound ≤ place → place < rows.size → ∀ last, Row closed place last ↔ Reaches (Row rows) place last

/-- A place that is passed over is one to which a place before it leads, so its row brings nothing new. -/
theorem testBit_withClosed (isClosed : ClosedFrom bound rows closed)
    (within : ∀ place, places.testBit place = true →
      bound ≤ place ∧ place < rows.size ∧ rows.size ≤ place + count)
    (apart : ∀ place, places.testBit place = true → reached.testBit place = false) :
    (withClosed closed count places reached).testBit j = true ↔
      reached.testBit j = true ∨ ∃ i, places.testBit i = true ∧ Reaches (Row rows) i j := by
  induction count generalizing places reached with
  | zero =>
      have none : places = 0 := eq_zero_of_below fun place isPlace => by
        have := within place isPlace
        omega
      rw [withClosed, none]
      simp
  | succ count ih =>
      rw [withClosed]
      by_cases none : places = 0
      · simp [none]
      · rcases firstOf_spec none with ⟨isPlace, isFirst⟩
        rcases within _ isPlace with ⟨known, inside, _⟩
        have exact := isClosed (firstOf places) known inside
        have isReached (place : Nat) : (reached ||| rowAt closed (firstOf places)).testBit place = true ↔
            reached.testBit place = true ∨ Reaches (Row rows) (firstOf places) place := by
          rw [Nat.testBit_or, Bool.or_eq_true, ← exact place, Row]
        rw [if_neg none, ih, isReached]
        · constructor
          · rintro ((isReached | reaches) | ⟨place, isIn, reaches⟩)
            · exact .inl isReached
            · exact .inr ⟨_, isPlace, reaches⟩
            · exact .inr ⟨place, (testBit_without.1 isIn).1, reaches⟩
          · rintro (isReached | ⟨place, isIn, reaches⟩)
            · exact .inl (.inl isReached)
            · by_cases passed : Reaches (Row rows) (firstOf places) place
              · exact .inl (.inr (passed.trans reaches))
              · refine .inr ⟨place, testBit_without.2 ⟨isIn, ?_⟩, reaches⟩
                rw [Bool.eq_false_iff, ne_eq, isReached, apart place isIn]
                simp [passed]
        · intro place isIn
          rcases testBit_without.1 isIn with ⟨isIn, isLeft⟩
          rcases within place isIn with ⟨placeKnown, placeInside, enough⟩
          have notFirst : place ≠ firstOf places := by
            rintro rfl
            rw [(isReached _).2 (.inr (.refl _))] at isLeft
            cases isLeft
          have := isFirst place isIn
          have := within _ isPlace
          omega
        · intro place isIn
          exact (testBit_without.1 isIn).2

theorem testBit_closure (isClosed : ClosedFrom 0 rows closed) (sameSize : closed.size = rows.size)
    (below : Below rows.size places) :
    (closure closed places).testBit j = true ↔ ∃ i, places.testBit i = true ∧ Reaches (Row rows) i j := by
  rw [closure, testBit_withClosed isClosed]
  · simp
  · intro place isPlace
    have := below place isPlace
    omega
  · simp

theorem rowAt_setIfInBounds {row : Nat} (inside : i < closed.size) :
    rowAt (closed.setIfInBounds i row) j = if j = i then row else rowAt closed j := by
  rw [rowAt, Array.getElem?_setIfInBounds]
  by_cases same : i = j
  · subst same
    simp [inside]
  · simp [same, Ne.symm same, rowAt]

theorem closeBelow_spec (forward : Forward rows) (inside : bound ≤ rows.size) (sameSize : closed.size = rows.size)
    (isClosed : ClosedFrom bound rows closed) :
    ClosedFrom 0 rows (closeBelow rows bound closed) ∧ (closeBelow rows bound closed).size = rows.size := by
  induction bound generalizing closed with
  | zero => exact ⟨isClosed, sameSize⟩
  | succ bound ih =>
      rw [closeBelow]
      apply ih (by omega) (by rw [Array.size_setIfInBounds, sameSize])
      intro place known placeInside last
      rw [Row, rowAt_setIfInBounds (by omega)]
      by_cases isHere : place = bound
      · subst isHere
        rw [if_pos rfl, testBit_withClosed isClosed, testBit_one_shiftLeft]
        · constructor
          · rintro (rfl | ⟨next, isNext, reaches⟩)
            · exact .refl _
            · exact .trans ⟨1, next, (testBit_without.1 isNext).1, rfl⟩ reaches
          · intro reaches
            rcases reaches.cases_head with rfl | ⟨next, moved, isStep, reaches⟩
            · exact .inl rfl
            · refine .inr ⟨next, testBit_without.2 ⟨isStep, ?_⟩, reaches⟩
              rw [Bool.eq_false_iff, ne_eq, testBit_one_shiftLeft]
              exact moved
        · intro next isNext
          rcases testBit_without.1 isNext with ⟨isStep, moved⟩
          rw [Bool.eq_false_iff, ne_eq, testBit_one_shiftLeft] at moved
          have := forward place next isStep
          omega
        · intro next isNext
          exact (testBit_without.1 isNext).2
      · rw [if_neg isHere]
        exact isClosed place (by omega) placeInside last

theorem close_spec (forward : Forward rows) : ClosedFrom 0 rows (close rows) ∧ (close rows).size = rows.size :=
  closeBelow_spec forward (Nat.le_refl _) Array.size_replicate fun _ known inside => by omega

theorem testBit_unbounded {least : Nat} (forward : Forward rows) (below : Below rows.size places) :
    ((unbounded rows (close rows) least).reach places).testBit j = true ↔
      ∃ i, places.testBit i = true ∧ ∃ count, least ≤ count ∧ Iterates (Row rows) count i j := by
  rcases close_spec forward with ⟨isClosed, sameSize⟩
  rw [reach, testBit_closure isClosed sameSize (forward.iterate_image below)]
  constructor
  · rintro ⟨middle, isMiddle, more, back⟩
    rcases (testBit_iterate_image forward below).1 isMiddle with ⟨i, isPlace, front⟩
    exact ⟨i, isPlace, least + more, by omega, front.append back⟩
  · rintro ⟨i, isPlace, count, enough, steps⟩
    rcases Nat.exists_eq_add_of_le enough with ⟨more, rfl⟩
    rcases steps.split with ⟨middle, front, back⟩
    exact ⟨middle, (testBit_iterate_image forward below).2 ⟨i, isPlace, front⟩, more, back⟩

end Moves

end TreePath

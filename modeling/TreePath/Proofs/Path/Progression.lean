import Mathlib.Data.List.Basic
import Mathlib.Logic.Function.Iterate
import TreePath.Proofs.Edit.Choices

/-!
# Slices as progressions

The indexes of a slice are an arithmetic progression over all integers: from the first bound in equal steps, up to before the
last bound. A sum leaves the 64-bit range only where the progression has passed its end, and there the end of the range has
passed it as well. So keeping sums within the range changes no index, and the walk ends.
-/

namespace TreePath

namespace Slice

/-- A bound of a slice, moved into a range. A negative one counts from the end; the default stands for a missing one. -/
def bound (length lowest highest default : Int) : Option Int64 → Int
  | none => default
  | some value => clamp lowest highest (if value.toInt < 0 then value.toInt + length else value.toInt)

/-- Where a slice starts in an array of a length. -/
def first (step length : Int) (start : Option Int64) : Int :=
  if 0 < step then bound length 0 length 0 start else bound length (-1) (length - 1) (length - 1) start

/-- The place before which a slice ends in an array of a length. -/
def last (step length : Int) (stop : Option Int64) : Int :=
  if 0 < step then bound length 0 length length stop else bound length (-1) (length - 1) (-1) stop

/-- Whether a position comes before the end of a walk in equal steps. -/
def IsBefore (step stop position : Int) : Prop :=
  if 0 < step then position < stop else stop < position

/-- The walk upwards or downwards, as the step says. -/
def walk (step stop : Int) (turns : Nat) (position : Int) : List Nat :=
  if 0 < step then upward step stop turns position else downward step stop turns position

/-- The position of a walk after some turns, with sums kept within the 64-bit range. -/
def after (step position : Int) (turns : Nat) : Int :=
  (fun place => saturate (place + step))^[turns] position

/-- The bounds between which a walk takes place. -/
structure Fits (step stop position : Int) : Prop where
  moves : step ≠ 0
  low : -2 ^ (63 : Nat) ≤ step
  upwards : 0 < step → 0 ≤ position ∧ stop < 2 ^ (63 : Nat)
  downwards : step < 0 → -1 ≤ stop ∧ position < 2 ^ (63 : Nat)

section Walk

variable {step stop position : Int}

theorem walk_of_isBefore (before : IsBefore step stop position) (turns : Nat) :
    walk step stop (turns + 1) position = position.toNat :: walk step stop turns (saturate (position + step)) := by
  unfold IsBefore at before
  unfold walk
  split at before
  · rename_i up
    simp [up, upward, before]
  · rename_i notUp
    simp [notUp, downward, before]

theorem walk_of_not_isBefore (passed : ¬ IsBefore step stop position) (turns : Nat) :
    walk step stop turns position = [] := by
  unfold IsBefore at passed
  unfold walk
  split at passed
  · rename_i up
    cases turns <;> simp [up, upward, passed]
  · rename_i notUp
    cases turns <;> simp [notUp, downward, passed]

theorem Fits.next (fits : Fits step stop position) : Fits step stop (saturate (position + step)) := by
  rcases fits with ⟨moves, low, upwards, downwards⟩
  refine ⟨moves, low, ?_, ?_⟩
  · intro up
    rcases upwards up with ⟨notNegative, small⟩
    simp only [saturate]
    omega
  · intro down
    rcases downwards down with ⟨notLow, small⟩
    simp only [saturate]
    omega

/-- A sum that is not exact has passed the end, with and without the bound. -/
theorem Fits.exact_or_passed (fits : Fits step stop position) (before : IsBefore step stop position) :
    saturate (position + step) = position + step ∨
      ¬ IsBefore step stop (position + step) ∧ ¬ IsBefore step stop (saturate (position + step)) := by
  rcases fits with ⟨moves, low, upwards, downwards⟩
  unfold IsBefore at before ⊢
  unfold saturate
  split at before
  · rename_i up
    rcases upwards up with ⟨notNegative, small⟩
    simp only [if_pos up]
    omega
  · rename_i notUp
    rcases downwards (by omega) with ⟨notLow, small⟩
    left
    omega

/-- The number of turns that a walk can take at most. -/
def distance (step stop position : Int) : Nat :=
  if 0 < step then (stop - position).toNat else (position - stop).toNat

theorem Fits.distance_lt (fits : Fits step stop position) (before : IsBefore step stop position) :
    distance step stop (saturate (position + step)) < distance step stop position := by
  rcases fits with ⟨moves, low, upwards, downwards⟩
  unfold IsBefore at before
  unfold distance saturate
  split at before
  · rename_i up
    rcases upwards up with ⟨notNegative, small⟩
    simp only [if_pos up]
    omega
  · rename_i notUp
    rcases downwards (by omega) with ⟨notLow, small⟩
    simp only [if_neg notUp]
    omega

theorem distance_pos (before : IsBefore step stop position) : 0 < distance step stop position := by
  unfold IsBefore at before
  unfold distance
  split at before
  · rename_i up
    simp only [if_pos up]
    omega
  · rename_i notUp
    simp only [if_neg notUp]
    omega

/-- What a walk does from a position: it takes as many turns as the progression has terms before its end. -/
structure Walks (step stop position : Int) (turns : Nat) : Prop where
  isBefore : ∀ k < turns, IsBefore step stop (position + k * step)
  passed : ¬ IsBefore step stop (position + turns * step)
  same : ∀ k < turns, after step position k = position + k * step
  ended : ¬ IsBefore step stop (after step position turns)

theorem walks_zero (passed : ¬ IsBefore step stop position) : Walks step stop position 0 where
  isBefore k below := absurd below (Nat.not_lt_zero k)
  passed := by simpa using passed
  same k below := absurd below (Nat.not_lt_zero k)
  ended := passed

theorem Walks.eq_zero {turns : Nat} (walks : Walks step stop position turns) (passed : ¬ IsBefore step stop position) :
    turns = 0 := by
  by_contra some_turn
  have before := walks.isBefore 0 (Nat.pos_of_ne_zero some_turn)
  simp [passed] at before

theorem term_succ (position step : Int) (k : Nat) :
    position + ((k + 1 : Nat) : Int) * step = position + step + k * step := by
  rw [Int.natCast_add, Int.add_mul]
  omega

theorem Walks.cons {turns : Nat} (walks : Walks step stop (saturate (position + step)) turns)
    (fits : Fits step stop position) (before : IsBefore step stop position) : Walks step stop position (turns + 1) := by
  have shifted (k : Nat) : after step position (k + 1) = after step (saturate (position + step)) k := rfl
  rcases fits.exact_or_passed before with exactly | ⟨passed, ended⟩
  · rw [exactly] at walks
    constructor
    · rintro (_ | k) below
      · simpa using before
      · rw [term_succ]
        exact walks.isBefore k (Nat.lt_of_succ_lt_succ below)
    · rw [term_succ]
      exact walks.passed
    · rintro (_ | k) below
      · simp [after]
      · rw [shifted, term_succ, exactly]
        exact walks.same k (Nat.lt_of_succ_lt_succ below)
    · rw [shifted, exactly]
      exact walks.ended
  · -- the sum has left the range, and the walk ends right here
    rcases walks.eq_zero ended with rfl
    constructor
    · intro k below
      rw [Nat.lt_one_iff.1 below]
      simpa using before
    · simpa using passed
    · intro k below
      rw [Nat.lt_one_iff.1 below]
      simp [after]
    · exact ended

/-- The walk yields the terms of the progression, however many turns more it is allowed. -/
theorem exists_walks (fits : Fits step stop position) :
    ∃ turns, Walks step stop position turns ∧ ∀ allowed, distance step stop position ≤ allowed →
      walk step stop allowed position = (List.range turns).map fun k : Nat => (position + k * step).toNat := by
  generalize isDistance : distance step stop position = left
  induction left using Nat.strongRecOn generalizing position with
  | ind left ih =>
      by_cases before : IsBefore step stop position
      · have nearer := fits.distance_lt before
        rcases ih _ (isDistance ▸ nearer) fits.next rfl with ⟨turns, walks, terms⟩
        refine ⟨turns + 1, walks.cons fits before, ?_⟩
        intro allowed enough
        have positive := distance_pos before
        rcases Nat.exists_eq_add_of_le' (by omega : 1 ≤ allowed) with ⟨allowed, rfl⟩
        rw [walk_of_isBefore before, terms allowed (by omega), List.range_succ_eq_map, List.map_cons, List.map_map]
        simp only [Nat.cast_zero, Int.zero_mul, Int.add_zero, List.cons.injEq, true_and]
        apply List.map_congr_left
        intro k below
        rw [List.mem_range] at below
        simp only [Function.comp_apply, Nat.succ_eq_add_one, term_succ]
        rcases fits.exact_or_passed before with exactly | ⟨-, ended⟩
        · rw [exactly]
        · rw [walks.eq_zero ended] at below
          exact absurd below (Nat.not_lt_zero k)
      · exact ⟨0, walks_zero before, fun allowed _ => walk_of_not_isBefore before allowed⟩

end Walk

/-! ## The indexes of a slice -/

section Indices

variable {length : Nat}

theorem normalize_eq (small : (length : Int) < 2 ^ (63 : Nat)) (value : Int64) :
    normalize length value = if value.toInt < 0 then value.toInt + length else value.toInt := by
  have low := value.le_toInt
  unfold normalize saturate
  split
  · omega
  · rfl

theorem clamp_of_mem {lowest highest value : Int} (low : lowest ≤ value) (high : value ≤ highest) :
    clamp lowest highest value = value := by
  unfold clamp
  omega

theorem bound_mem {lowest highest default : Int} (ordered : lowest ≤ highest)
    (inside : lowest ≤ default ∧ default ≤ highest) (value : Option Int64) :
    lowest ≤ bound length lowest highest default value ∧ bound length lowest highest default value ≤ highest := by
  cases value with
  | none => exact inside
  | some value =>
      simp only [bound, clamp]
      omega

theorem first_mem (step : Int) (start : Option Int64) :
    (0 < step → 0 ≤ first step length start) ∧
      (¬ 0 < step → first step length start ≤ length - 1) := by
  unfold first
  constructor
  · intro up
    rw [if_pos up]
    exact (bound_mem (by omega) (by omega) start).1
  · intro notUp
    rw [if_neg notUp]
    exact (bound_mem (by omega) (by omega) start).2

theorem last_mem (step : Int) (stop : Option Int64) :
    (0 < step → last step length stop ≤ length) ∧ (¬ 0 < step → -1 ≤ last step length stop) := by
  unfold last
  constructor
  · intro up
    rw [if_pos up]
    exact (bound_mem (by omega) (by omega) stop).2
  · intro notUp
    rw [if_neg notUp]
    exact (bound_mem (by omega) (by omega) stop).1

/-- The number from one index to the next, which is one unless the slice says otherwise. -/
def stride (step : Option Int64) : Int :=
  (step.map Int64.toInt).getD 1

theorem le_stride (step : Option Int64) : -2 ^ (63 : Nat) ≤ stride step := by
  cases step with
  | none => decide
  | some step => exact step.le_toInt

theorem indices_eq_walk (small : (length : Int) < 2 ^ (63 : Nat)) (start stop : Option Int64) {step : Option Int64}
    (moves : stride step ≠ 0) :
    indices start stop step length =
      walk (stride step) (last (stride step) length stop) length (first (stride step) length start) := by
  unfold indices
  unfold stride at moves ⊢
  simp only
  generalize (step.map Int64.toInt).getD 1 = stride at moves ⊢
  by_cases empty : length = 0
  · subst empty
    simp [moves, walk, upward, downward]
  · rw [if_neg (by omega)]
    unfold walk first last
    by_cases up : 0 < stride
    · have lowest : clamp 0 length 0 = 0 := clamp_of_mem (by omega) (by omega)
      have highest : clamp 0 length length = length := clamp_of_mem (by omega) (by omega)
      cases start <;> cases stop <;> simp [up, bound, normalize_eq small, lowest, highest]
    · have highest : clamp (-1) (length - 1) (length - 1) = length - 1 := clamp_of_mem (by omega) (by omega)
      cases start <;> cases stop <;> simp [up, bound, normalize_eq small, highest]

/-- All that lies between the bounds of a slice fits into the 64-bit range. -/
theorem fits_of_length (small : (length : Int) < 2 ^ (63 : Nat)) (start stop : Option Int64) {step : Option Int64}
    (moves : stride step ≠ 0) :
    Fits (stride step) (last (stride step) length stop) (first (stride step) length start) := by
  have starts := @first_mem length (stride step) start
  have ends := @last_mem length (stride step) stop
  refine ⟨moves, le_stride step, ?_, ?_⟩
  · intro up
    exact ⟨starts.1 up, Int.lt_of_le_of_lt (ends.1 up) small⟩
  · intro down
    have notUp : ¬ 0 < stride step := by omega
    have begins := starts.2 notUp
    exact ⟨ends.2 notUp, by omega⟩

theorem distance_le_length {step : Int} (start stop : Option Int64) :
    distance step (last step length stop) (first step length start) ≤ length := by
  have starts := @first_mem length step start
  have ends := @last_mem length step stop
  unfold distance
  split
  · rename_i up
    have begins := starts.1 up
    have finishes := ends.1 up
    omega
  · rename_i notUp
    have begins := starts.2 notUp
    have finishes := ends.2 notUp
    omega

/-- The terms of a progression before its end are places in an array. -/
theorem term_mem {step : Int} {start stop : Option Int64} {k : Nat}
    (before : IsBefore step (last step length stop) (first step length start + k * step)) :
    0 ≤ first step length start + k * step ∧ first step length start + k * step < length := by
  have starts := @first_mem length step start
  have ends := @last_mem length step stop
  unfold IsBefore at before
  split at before
  · rename_i up
    have begins := starts.1 up
    have finishes := ends.1 up
    have forward : 0 ≤ (k : Int) * step := Int.mul_nonneg (Int.natCast_nonneg k) (Int.le_of_lt up)
    omega
  · rename_i notUp
    have begins := starts.2 notUp
    have finishes := ends.2 notUp
    have backward : (k : Int) * step ≤ 0 := Int.mul_nonpos_of_nonneg_of_nonpos (Int.natCast_nonneg k) (by omega)
    omega

/--
The indexes of a slice are the terms of a progression over all integers, from the first bound in equal steps and before the last
bound. Keeping the sums within the 64-bit range changes none of them, and the walk ends with the progression. Each index is
a place in the array, and they grow or shrink as the step says.
-/
theorem indices_eq_progression (start stop step : Option Int64) {length : Nat}
    (small : (length : Int) < 2 ^ (63 : Nat)) :
    (stride step = 0 → indices start stop step length = []) ∧
    (stride step ≠ 0 → ∃ turns,
      Walks (stride step) (last (stride step) length stop) (first (stride step) length start) turns ∧
      (indices start stop step length).map Int.ofNat =
        (List.range turns).map (fun k : Nat => first (stride step) length start + k * stride step) ∧
      ∀ allowed, length ≤ allowed →
        walk (stride step) (last (stride step) length stop) allowed (first (stride step) length start) =
          indices start stop step length) ∧
    (∀ i ∈ indices start stop step length, i < length) ∧ (indices start stop step length).Nodup ∧
    (0 < stride step → (indices start stop step length).Pairwise (· < ·)) ∧
    (stride step < 0 → (indices start stop step length).Pairwise (· > ·)) := by
  by_cases still : stride step = 0
  · have none_picked : indices start stop step length = [] := by
      unfold indices
      exact if_pos (.inl still)
    simp [none_picked, still]
  · rcases exists_walks (fits_of_length small start stop still) with ⟨turns, walks, terms⟩
    have near := @distance_le_length length (stride step) start stop
    have sameWalk := indices_eq_walk small start stop still
    have picked := sameWalk.trans (terms length near)
    have inside : ∀ k ∈ List.range turns, _ := fun k below => term_mem (walks.isBefore k (List.mem_range.1 below))
    refine ⟨fun isStill => absurd isStill still, fun _ => ⟨turns, walks, ?_, ?_⟩, ?_, ?_, ?_, ?_⟩
    · rw [picked, List.map_map]
      apply List.map_congr_left
      intro k below
      exact Int.toNat_of_nonneg (inside k below).1
    · intro allowed enough
      rw [picked, terms allowed (Nat.le_trans near enough)]
    · intro i isIndex
      rw [picked] at isIndex
      rcases List.mem_map.1 isIndex with ⟨k, below, rfl⟩
      have place := inside k below
      omega
    · exact nodup_indices start stop step length
    · intro up
      have fits := (fits_of_length small start stop still).upwards up
      rw [sameWalk, walk, if_pos up]
      exact (upward_sorted up fits.2 length fits.1).1
    · intro down
      have fits := (fits_of_length small start stop still).downwards down
      rw [sameWalk, walk, if_neg (by omega)]
      exact (downward_sorted down (le_stride step) fits.1 length fits.2).1

/-- The second step would leave the 64-bit range, and the walk has passed the end of the array by then. -/
theorem indices_eq_progression_longestStep :
    ((3 : Nat) : Int) < 2 ^ (63 : Nat) ∧ stride (some 9223372036854775807) ≠ 0 ∧
      indices (some 1) none (some 9223372036854775807) 3 = [1] ∧
      ∃ turns, Walks (stride (some 9223372036854775807)) 3 1 turns ∧
        [1] = (List.range turns).map fun k : Nat => (1 : Int) + k * stride (some 9223372036854775807) := by
  have small : ((3 : Nat) : Int) < 2 ^ (63 : Nat) := by decide
  have moves : stride (some 9223372036854775807) ≠ 0 := by decide
  have picked : indices (some 1) none (some 9223372036854775807) 3 = [1] := by decide
  rcases (indices_eq_progression (some 1) none (some 9223372036854775807) small).2.1 moves with ⟨turns, walks, terms, -⟩
  rw [picked] at terms
  exact ⟨small, moves, picked, turns, walks, terms⟩

end Indices

end Slice

end TreePath

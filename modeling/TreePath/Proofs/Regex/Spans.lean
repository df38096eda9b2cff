import TreePath.Proofs.Regex.Places

/-!
# What a regular expression matches

`Regex.Spans` says from which place of a text to which an expression matches, one constructor after the other and
without regard to how a match is found. `isMatch_iff` says that the search finds a match exactly if there is one. It
needs the expression to be proper: it has no empty literal, and no repetition that has to be made more often than it may
be.
-/

namespace TreePath

namespace Regex

/-- Whether an expression matches the characters of a text between two places. -/
def Spans (text : Array Char) : Regex → Nat → Nat → Prop
  | empty, first, last => first = last
  | literal characters, first, last => characters <+: text.toList.drop first ∧ last = first + characters.length
  | set members, first, last => (∃ c, text[first]? = some c ∧ members.contains c = true) ∧ last = first + 1
  | assertion condition, first, last => condition.holdsAt text first = true ∧ first = last
  | sequence front rest, first, last => ∃ middle, front.Spans text first middle ∧ rest.Spans text middle last
  | choice left right, first, last => left.Spans text first last ∨ right.Spans text first last
  | repetition body least most _, first, last =>
    ∃ count, least ≤ count ∧ (∀ bound ∈ most, count ≤ bound) ∧ Iterates (body.Spans text) count first last
  | group _ body, first, last => body.Spans text first last

/-- No literal is empty, and no repetition has to be made more often than it may be. -/
def IsProper : Regex → Prop
  | literal characters => characters ≠ []
  | sequence front rest => front.IsProper ∧ rest.IsProper
  | choice left right => left.IsProper ∧ right.IsProper
  | repetition body least most _ => body.IsProper ∧ ∀ bound ∈ most, least ≤ bound
  | group _ body => body.IsProper
  | empty | set _ | assertion _ => True

variable {text : Array Char} {regex : Regex} {places first last : Nat}

/-- A match leads forward and ends within the text. -/
theorem Spans.inside (spans : regex.Spans text first last) (inside : first ≤ text.size) :
    first ≤ last ∧ last ≤ text.size := by
  induction regex generalizing first last with
  | empty =>
      rcases spans with rfl
      exact ⟨Nat.le_refl _, inside⟩
  | literal characters =>
      rcases spans with ⟨isPrefix, rfl⟩
      have short := isPrefix.length_le
      rw [List.length_drop, text.length_toList] at short
      omega
  | set members =>
      rcases spans with ⟨⟨c, isHere, _⟩, rfl⟩
      rcases Array.getElem?_eq_some_iff.1 isHere with ⟨before, _⟩
      omega
  | assertion condition =>
      rcases spans with ⟨_, rfl⟩
      exact ⟨Nat.le_refl _, inside⟩
  | sequence front rest ihFront ihRest =>
      rcases spans with ⟨middle, spansFront, spansRest⟩
      rcases ihFront spansFront inside with ⟨ahead, middleInside⟩
      rcases ihRest spansRest middleInside with ⟨further, lastInside⟩
      exact ⟨Nat.le_trans ahead further, lastInside⟩
  | choice left right ihLeft ihRight =>
      exact spans.elim (fun spansLeft => ihLeft spansLeft inside) fun spansRight => ihRight spansRight inside
  | repetition body least most greedy ih =>
      rcases spans with ⟨count, _, _, steps⟩
      have keeps (place next : Nat) (inside : place ≤ text.size) (isStep : body.Spans text place next) :
          place ≤ next ∧ next ≤ text.size := ih isStep inside
      exact steps.forward keeps inside
  | group number body ih => exact ih spans inside

/-! ## The search -/

theorem testBit_placesWhere {property : Nat → Bool} {bound place : Nat} :
    (placesWhere property bound).testBit place = true ↔ place < bound ∧ property place = true := by
  induction bound with
  | zero => simp [placesWhere]
  | succ bound ih =>
      rw [placesWhere, Nat.testBit_or, Bool.or_eq_true, ih]
      by_cases holds : property bound = true
      · rw [if_pos holds, Moves.testBit_one_shiftLeft]
        constructor
        · rintro (⟨before, isPlace⟩ | rfl)
          · exact ⟨by omega, isPlace⟩
          · exact ⟨by omega, holds⟩
        · rintro ⟨before, isPlace⟩
          by_cases isLast : place = bound
          · exact .inr isLast
          · exact .inl ⟨by omega, isPlace⟩
      · rw [if_neg holds, Nat.zero_testBit]
        constructor
        · rintro (⟨before, isPlace⟩ | impossible)
          · exact ⟨by omega, isPlace⟩
          · cases impossible
        · rintro ⟨before, isPlace⟩
          have notLast : place ≠ bound := by
            rintro rfl
            exact holds isPlace
          exact .inl ⟨by omega, isPlace⟩

theorem testBit_ahead {starts count : Nat} :
    ((Moves.ahead starts count).reach places).testBit last = true ↔
      ∃ first, places.testBit first = true ∧ starts.testBit first = true ∧ last = first + count := by
  rw [Moves.reach, Nat.testBit_shiftLeft, Nat.testBit_and, Bool.and_eq_true, Bool.and_eq_true, decide_eq_true_eq]
  constructor
  · rintro ⟨enough, isPlace, isStart⟩
    exact ⟨last - count, isPlace, isStart, by omega⟩
  · rintro ⟨first, isPlace, isStart, rfl⟩
    rw [Nat.add_sub_cancel]
    exact ⟨Nat.le_add_left count first, isPlace, isStart⟩

theorem isLiteralAt_iff {characters : List Char} :
    isLiteralAt text characters first = true ↔ characters <+: text.toList.drop first := by
  induction characters generalizing first with
  | nil => simp [isLiteralAt]
  | cons c characters ih =>
      rw [isLiteralAt, Bool.and_eq_true, ih, beq_iff_eq, ← Array.getElem?_toList]
      by_cases before : first < text.toList.length
      · rw [List.drop_eq_getElem_cons before, List.getElem?_eq_getElem before, List.cons_prefix_cons, Option.some_inj,
          eq_comm]
      · rw [List.drop_eq_nil_of_le (Nat.le_of_not_lt before), List.getElem?_eq_none (Nat.le_of_not_lt before)]
        simp

/-- The rows of a repetition say where its body leads. -/
theorem row_ofFn_iff (leads : Nat → Nat) {bound : Nat} :
    Moves.Row (Array.ofFn fun place : Fin bound => leads place.val) first last ↔
      first < bound ∧ (leads first).testBit last = true := by
  rw [Moves.Row, Moves.rowAt]
  by_cases inside : first < bound
  · simp [inside]
  · simp [inside]

theorem testBit_reach_repetition {body : Regex} {least : Nat} {most : Option Nat} {greedy : Bool}
    (ordered : ∀ bound ∈ most, least ≤ bound) (below : Moves.Below (text.size + 1) places)
    (leads : ∀ first last, first ≤ text.size →
      (((body.moves text).reach (1 <<< first)).testBit last = true ↔ body.Spans text first last)) :
    (((repetition body least most greedy).moves text).reach places).testBit last = true ↔
      ∃ first, places.testBit first = true ∧ (repetition body least most greedy).Spans text first last := by
  let rows := Array.ofFn fun place : Fin (text.size + 1) => (body.moves text).reach (1 <<< place.val)
  have sizeRows : rows.size = text.size + 1 := Array.size_ofFn
  have isRow (place next : Nat) : Moves.Row rows place next ↔ place ≤ text.size ∧ body.Spans text place next := by
    rw [row_ofFn_iff fun place => (body.moves text).reach (1 <<< place), Nat.lt_succ_iff]
    exact and_congr_right (leads place next)
  have forward : Moves.Forward rows := by
    intro place next isStep
    rcases (isRow place next).1 isStep with ⟨inside, spans⟩
    rw [sizeRows]
    exact ⟨(spans.inside inside).1, Nat.lt_succ_of_le (spans.inside inside).2⟩
  -- Within the text the steps of the rows are the matches of the body.
  have sameSteps (count : Nat) {place : Nat} (inside : place ≤ text.size) :
      Iterates (Moves.Row rows) count place last ↔ Iterates (body.Spans text) count place last := by
    constructor
    · exact Iterates.imp (fun _ => True)
        (fun place next _ isStep => ⟨((isRow place next).1 isStep).2, trivial⟩) trivial
    · exact Iterates.imp (fun place => place ≤ text.size)
        (fun place next inside spans => ⟨(isRow place next).2 ⟨inside, spans⟩, (spans.inside inside).2⟩) inside
  rw [← sizeRows] at below
  have inside (first : Nat) (isPlace : places.testBit first = true) : first ≤ text.size := by
    have := below first isPlace
    omega
  cases most with
  | some most =>
      refine (Moves.testBit_bounded forward (ordered most rfl) below).trans ?_
      refine exists_congr fun first => and_congr_right fun isPlace => exists_congr fun count => ?_
      rw [sameSteps count (inside first isPlace)]
      simp
  | none =>
      refine (Moves.testBit_unbounded forward below).trans ?_
      refine exists_congr fun first => and_congr_right fun isPlace => exists_congr fun count => ?_
      rw [sameSteps count (inside first isPlace)]
      simp

/-- The search takes some places to the places where matches that begin there end. -/
theorem testBit_reach_moves (proper : regex.IsProper) (below : Moves.Below (text.size + 1) places) :
    ((regex.moves text).reach places).testBit last = true ↔
      ∃ first, places.testBit first = true ∧ regex.Spans text first last := by
  induction regex generalizing places last with
  | empty => simp [moves, Moves.reach, Spans]
  | literal characters =>
      rw [moves, testBit_ahead]
      refine exists_congr fun first => and_congr_right fun _ => and_congr_left fun _ => ?_
      rw [testBit_placesWhere, isLiteralAt_iff, and_iff_right_iff_imp]
      intro isPrefix
      have short := isPrefix.length_le
      have some := List.length_pos_iff.2 proper
      rw [List.length_drop, text.length_toList] at short
      omega
  | set members =>
      rw [moves, testBit_ahead]
      refine exists_congr fun first => and_congr_right fun _ => and_congr_left fun _ => ?_
      rw [testBit_placesWhere, Option.any_eq_true, and_iff_right_iff_imp]
      rintro ⟨c, isHere, _⟩
      rcases Array.getElem?_eq_some_iff.1 isHere with ⟨before, _⟩
      exact before
  | assertion condition =>
      rw [moves, testBit_ahead]
      refine exists_congr fun first => and_congr_right fun isPlace => ?_
      rw [testBit_placesWhere, Spans, and_iff_right (below first isPlace), @eq_comm _ last, Nat.add_zero]
  | sequence front rest ihFront ihRest =>
      have belowMiddle : Moves.Below (text.size + 1) ((front.moves text).reach places) := by
        intro middle isMiddle
        rcases (ihFront proper.1 below).1 isMiddle with ⟨first, isPlace, spans⟩
        exact Nat.lt_succ_of_le (spans.inside (Nat.le_of_lt_succ (below first isPlace))).2
      rw [moves, Moves.reach, ihRest proper.2 belowMiddle]
      constructor
      · rintro ⟨middle, isMiddle, spansRest⟩
        rcases (ihFront proper.1 below).1 isMiddle with ⟨first, isPlace, spansFront⟩
        exact ⟨first, isPlace, middle, spansFront, spansRest⟩
      · rintro ⟨first, isPlace, middle, spansFront, spansRest⟩
        exact ⟨middle, (ihFront proper.1 below).2 ⟨first, isPlace, spansFront⟩, spansRest⟩
  | choice left right ihLeft ihRight =>
      rw [moves, Moves.reach, Nat.testBit_or, Bool.or_eq_true, ihLeft proper.1 below, ihRight proper.2 below,
        ← exists_or]
      refine exists_congr fun first => ?_
      rw [Spans, and_or_left]
  | repetition body least most greedy ih =>
      refine testBit_reach_repetition proper.2 below fun first last inside => ?_
      rw [ih proper.1]
      · simp only [Moves.testBit_one_shiftLeft, exists_eq_left]
      · intro other isOther
        rw [Moves.testBit_one_shiftLeft] at isOther
        omega
  | group number body ih => exact ih proper below

/-- A search finds a match exactly if the expression matches some part of the text. -/
theorem isMatch_iff {text : String} (proper : regex.IsProper) :
    regex.isMatch text = true ↔
      ∃ first last, first ≤ text.toList.length ∧ regex.Spans text.toList.toArray first last := by
  have everywhere (place : Nat) :
      ((1 <<< (text.toList.toArray.size + 1)) - 1).testBit place = true ↔ place ≤ text.toList.length := by
    rw [Nat.one_shiftLeft, Nat.testBit_two_pow_sub_one, decide_eq_true_eq, List.size_toArray, Nat.lt_succ_iff]
  have below : Moves.Below (text.toList.toArray.size + 1) ((1 <<< (text.toList.toArray.size + 1)) - 1) := by
    intro place isPlace
    rw [List.size_toArray]
    exact Nat.lt_succ_of_le ((everywhere place).1 isPlace)
  rw [isMatch, bne_iff_ne, ne_eq]
  constructor
  · intro some
    rcases Nat.exists_testBit_of_ne_zero some with ⟨last, isLast⟩
    rcases (testBit_reach_moves proper below).1 isLast with ⟨first, isPlace, spans⟩
    exact ⟨first, last, (everywhere first).1 isPlace, spans⟩
  · rintro ⟨first, last, inside, spans⟩ none
    have isLast := (testBit_reach_moves proper below).2 ⟨first, (everywhere first).2 inside, spans⟩
    rw [none, Nat.zero_testBit] at isLast
    cases isLast

end Regex

end TreePath

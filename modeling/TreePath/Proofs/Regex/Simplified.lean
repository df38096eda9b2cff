import TreePath.Proofs.Regex.Spans

/-!
# Simplified expressions

The constructors of simplified expressions build proper expressions from proper ones. A sequence that is simplified
matches what its parts match one after the other; `spans_enclosed` says so of an expression between the beginning and
the end of a text.
-/

namespace TreePath

namespace Regex

/-- All expressions of a list are proper. -/
def AllProper (regexes : List Regex) : Prop :=
  ∀ regex ∈ regexes, regex.IsProper

section Proper

variable {regex : Regex} {regexes others : List Regex}

theorem AllProper.append (proper : AllProper regexes) (othersProper : AllProper others) :
    AllProper (regexes ++ others) := by
  intro regex member
  exact (List.mem_append.1 member).elim (proper regex) (othersProper regex)

theorem AllProper.flatMap {split : Regex → List Regex}
    (keeps : ∀ {regex : Regex}, regex.IsProper → AllProper (split regex)) (proper : AllProper regexes) :
    AllProper (regexes.flatMap split) := by
  intro part member
  rcases List.mem_flatMap.1 member with ⟨regex, isIn, isPart⟩
  exact keeps (proper regex isIn) part isPart

theorem isProper_ofSet (members : CharSet) : (ofSet members).IsProper := by
  unfold ofSet
  split
  · split
    · exact List.cons_ne_nil _ _
    · trivial
  · trivial

/-! ## Sequences -/

theorem allProper_parts (proper : regex.IsProper) : AllProper regex.parts := by
  induction regex with
  | sequence front rest _ ihRest =>
      rw [parts]
      exact List.forall_mem_cons.2 ⟨proper.1, ihRest proper.2⟩
  | _ => exact List.forall_mem_singleton.2 proper

theorem joinedParts_cons (part : Regex) (regexes : List Regex) :
    joinedParts (part :: regexes) = joinedParts regexes ∧ part = .empty ∨
      (∃ characters more others, part = .literal characters ∧ joinedParts regexes = .literal more :: others ∧
        joinedParts (part :: regexes) = .literal (characters ++ more) :: others) ∨
      joinedParts (part :: regexes) = part :: joinedParts regexes := by
  rw [joinedParts.eq_def]
  simp only
  split
  · exact .inl ⟨rfl, rfl⟩
  · rename_i characters more others joined
    exact .inr (.inl ⟨characters, more, others, rfl, joined, rfl⟩)
  · exact .inr (.inr rfl)

theorem allProper_joinedParts (proper : AllProper regexes) : AllProper (joinedParts regexes) := by
  induction regexes with
  | nil => exact proper
  | cons part regexes ih =>
      rcases List.forall_mem_cons.1 proper with ⟨properPart, properRegexes⟩
      rcases joinedParts_cons part regexes with
        ⟨same, -⟩ | ⟨characters, more, others, rfl, joined, same⟩ | same
      · rw [same]
        exact ih properRegexes
      · have properJoined := ih properRegexes
        rw [joined] at properJoined
        rw [same]
        exact List.forall_mem_cons.2
          ⟨List.append_ne_nil_of_left_ne_nil properPart more, (List.forall_mem_cons.1 properJoined).2⟩
      · rw [same]
        exact List.forall_mem_cons.2 ⟨properPart, ih properRegexes⟩

theorem isProper_inSequence (proper : AllProper regexes) : (inSequence regexes).IsProper := by
  induction regexes using inSequence.induct with
  | case1 => trivial
  | case2 part => exact List.forall_mem_singleton.1 proper
  | case3 part others notSingle ih =>
      rcases List.forall_mem_cons.1 proper with ⟨properPart, properOthers⟩
      rw [inSequence.eq_3 _ _ notSingle]
      exact ⟨properPart, ih properOthers⟩

theorem isProper_ofParts (proper : AllProper regexes) : (ofParts regexes).IsProper :=
  isProper_inSequence (allProper_joinedParts (proper.flatMap allProper_parts))

/-! ## Choices -/

theorem allProper_alternatives (proper : regex.IsProper) : AllProper regex.alternatives := by
  induction regex with
  | choice left right _ ihRight =>
      rw [alternatives]
      exact List.forall_mem_cons.2 ⟨proper.1, ihRight proper.2⟩
  | _ => exact List.forall_mem_singleton.2 proper

theorem isProper_inChoice (proper : AllProper regexes) : (inChoice regexes).IsProper := by
  induction regexes using inChoice.induct with
  | case1 => trivial
  | case2 regex => exact List.forall_mem_singleton.1 proper
  | case3 regex others notSingle ih =>
      rcases List.forall_mem_cons.1 proper with ⟨properRegex, properOthers⟩
      rw [inChoice.eq_3 _ _ notSingle]
      exact ⟨properRegex, ih properOthers⟩

theorem isProper_of_mergedChoice? (merged : mergedChoice? regexes = some regex) : regex.IsProper := by
  unfold mergedChoice? at merged
  split at merged
  · rcases Option.some.inj merged with rfl
    exact isProper_ofSet _
  · rcases Option.some.inj merged with rfl
    exact isProper_ofSet _
  · cases merged

theorem isProper_ofUnlikeAlternatives (proper : AllProper regexes) : (ofUnlikeAlternatives regexes).IsProper := by
  have properAll := proper.flatMap allProper_alternatives
  unfold ofUnlikeAlternatives
  split
  · rename_i regex single
    rw [single] at properAll
    exact List.forall_mem_singleton.1 properAll
  · cases merged : mergedChoice? (regexes.flatMap alternatives) with
    | none => exact isProper_inChoice properAll
    | some regex => exact isProper_of_mergedChoice? merged

theorem sharedParts_subset (lefts rights : List Regex) : sharedParts lefts rights ⊆ lefts := by
  induction lefts, rights using sharedParts.induct with
  | case1 lefts left rights ih =>
      rw [sharedParts, if_pos rfl]
      exact List.cons_subset_cons _ ih
  | case2 left lefts right rights different =>
      rw [sharedParts, if_neg different]
      exact List.nil_subset _
  | case3 lefts rights notBoth =>
      rw [sharedParts.eq_2 _ _ notBoth]
      exact List.nil_subset _

theorem sharedBeginning_subset (regex : Regex) (regexes : List Regex) :
    sharedBeginning (regex :: regexes) ⊆ regex.parts := by
  rw [sharedBeginning]
  split
  · exact List.foldlRecOn (motive := fun shared => shared ⊆ regex.parts) regexes _ (List.Subset.refl _)
      fun shared isShared other _ => List.Subset.trans (sharedParts_subset shared other.parts) isShared
  · exact List.nil_subset _

theorem allProper_sharedBeginning (proper : AllProper regexes) : AllProper (sharedBeginning regexes) := by
  cases regexes with
  | nil => exact proper
  | cons regex regexes =>
      intro part member
      exact allProper_parts (List.forall_mem_cons.1 proper).1 part (sharedBeginning_subset regex regexes member)

theorem isProper_ofAlternatives (proper : AllProper regexes) : (ofAlternatives regexes).IsProper := by
  have properAll := proper.flatMap allProper_alternatives
  unfold ofAlternatives
  split
  · rename_i regex single
    rw [single] at properAll
    exact List.forall_mem_singleton.1 properAll
  · split
    · rename_i regex merged
      exact isProper_of_mergedChoice? merged
    · exact isProper_inChoice properAll
    · refine isProper_ofParts ((allProper_sharedBeginning properAll).append ?_)
      refine List.forall_mem_singleton.2 (isProper_ofUnlikeAlternatives ?_)
      intro rest member
      rcases List.mem_map.1 member with ⟨regex, isIn, rfl⟩
      apply isProper_ofParts
      intro part isPart
      exact allProper_parts (properAll regex isIn) part (List.mem_of_mem_drop isPart)

/-! ## Repetitions -/

theorem isProper_repeated {least : Nat} {most : Option Nat} {greedy : Bool} (proper : regex.IsProper)
    (ordered : ∀ bound ∈ most, least ≤ bound) : (repeated regex least most greedy).IsProper := by
  have proper_of_ordered (fewest : Nat) (utmost : Option Nat) (ordered : ∀ bound ∈ utmost, fewest ≤ bound) :
      (if utmost = some 0 then empty
        else if fewest = 1 ∧ utmost = some 1 then regex
        else repetition regex fewest utmost greedy).IsProper := by
    split
    · trivial
    · split
      · exact proper
      · exact ⟨proper, ordered⟩
  apply proper_of_ordered
  split
  · intro bound isBound
    rcases Option.mem_some_iff.1 isBound with rfl
    cases most with
    | none => exact Nat.min_le_right least 1
    | some most =>
        exact Nat.le_min.2 ⟨(Nat.min_le_left least 1).trans (ordered most rfl), Nat.min_le_right least 1⟩
  · exact ordered

end Proper

/-! ## What simplified sequences match -/

/-- Whether expressions match the characters of a text between two places, one after the other. -/
def SpansAll (text : Array Char) : List Regex → Nat → Nat → Prop
  | [], first, last => first = last
  | regex :: regexes, first, last => ∃ middle, regex.Spans text first middle ∧ SpansAll text regexes middle last

section Sequences

variable {text : Array Char} {regex : Regex} {regexes others : List Regex} {first last : Nat}

theorem spansAll_singleton : SpansAll text [regex] first last ↔ regex.Spans text first last := by
  simp [SpansAll]

theorem spansAll_append :
    SpansAll text (regexes ++ others) first last ↔
      ∃ middle, SpansAll text regexes first middle ∧ SpansAll text others middle last := by
  induction regexes generalizing first with
  | nil => simp [SpansAll]
  | cons regex regexes ih =>
      simp only [List.cons_append, SpansAll, ih]
      constructor
      · rintro ⟨next, spans, middle, front, back⟩
        exact ⟨middle, ⟨next, spans, front⟩, back⟩
      · rintro ⟨middle, ⟨next, spans, front⟩, back⟩
        exact ⟨next, spans, middle, front, back⟩

theorem spansAll_parts : SpansAll text regex.parts first last ↔ regex.Spans text first last := by
  induction regex generalizing first with
  | sequence front rest _ ihRest =>
      rw [parts, SpansAll, Spans]
      exact exists_congr fun middle => and_congr_right fun _ => ihRest
  | _ => exact spansAll_singleton

theorem spansAll_flatMap_parts :
    SpansAll text (regexes.flatMap parts) first last ↔ SpansAll text regexes first last := by
  induction regexes generalizing first with
  | nil => rfl
  | cons regex regexes ih =>
      rw [List.flatMap_cons, spansAll_append, SpansAll]
      exact exists_congr fun middle => and_congr spansAll_parts ih

/-- A literal that is cut in two matches as the two parts do. -/
theorem spans_literal_append {characters more : List Char} :
    (literal (characters ++ more)).Spans text first last ↔
      ∃ middle, (literal characters).Spans text first middle ∧ (literal more).Spans text middle last := by
  constructor
  · rintro ⟨⟨after, split⟩, rfl⟩
    refine ⟨first + characters.length, ⟨⟨more ++ after, by rw [← List.append_assoc, split]⟩, rfl⟩, ⟨after, ?_⟩, ?_⟩
    · rw [← List.drop_drop, ← split, List.append_assoc, List.drop_left]
    · rw [List.length_append, Nat.add_assoc]
  · rintro ⟨_, ⟨⟨rest, split⟩, rfl⟩, ⟨after, splitRest⟩, rfl⟩
    refine ⟨⟨after, ?_⟩, by rw [List.length_append, Nat.add_assoc]⟩
    rw [← List.drop_drop, ← split, List.drop_left] at splitRest
    rw [List.append_assoc, splitRest, split]

theorem spansAll_joinedParts : SpansAll text (joinedParts regexes) first last ↔ SpansAll text regexes first last := by
  induction regexes generalizing first with
  | nil => rfl
  | cons part regexes ih =>
      rcases joinedParts_cons part regexes with
        ⟨same, rfl⟩ | ⟨characters, more, others, rfl, joined, same⟩ | same
      · rw [same, ih, SpansAll]
        simp [Spans]
      · rw [same, SpansAll, SpansAll]
        simp only [← ih, joined, SpansAll, spans_literal_append]
        constructor
        · rintro ⟨next, ⟨middle, front, back⟩, rest⟩
          exact ⟨middle, front, next, back, rest⟩
        · rintro ⟨middle, front, next, back, rest⟩
          exact ⟨next, ⟨middle, front, back⟩, rest⟩
      · rw [same, SpansAll, SpansAll]
        exact exists_congr fun middle => and_congr_right fun _ => ih

theorem spans_inSequence : (inSequence regexes).Spans text first last ↔ SpansAll text regexes first last := by
  induction regexes using inSequence.induct generalizing first with
  | case1 => rfl
  | case2 part => exact spansAll_singleton.symm
  | case3 part others notSingle ih =>
      rw [inSequence.eq_3 _ _ notSingle, Spans, SpansAll]
      exact exists_congr fun middle => and_congr_right fun _ => ih

/-- A simplified sequence matches what its parts match one after the other. -/
theorem spans_ofParts : (ofParts regexes).Spans text first last ↔ SpansAll text regexes first last := by
  rw [ofParts, spans_inSequence, spansAll_joinedParts, spansAll_flatMap_parts]

/-! ## Anchors on both sides -/

/-- An expression that has to match a text from its beginning to its end. -/
def enclosed (regex : Regex) : Regex :=
  ofParts [.assertion .textStart, regex, .assertion .textEnd]

theorem spans_enclosed :
    regex.enclosed.Spans text first last ↔ first = 0 ∧ last = text.size ∧ regex.Spans text 0 text.size := by
  rw [enclosed, spans_ofParts]
  constructor
  · rintro ⟨_, ⟨isStart, rfl⟩, _, spans, _, ⟨isEnd, rfl⟩, rfl⟩
    rcases eq_of_beq isStart with rfl
    rcases eq_of_beq isEnd with rfl
    exact ⟨rfl, rfl, spans⟩
  · rintro ⟨rfl, rfl, spans⟩
    exact ⟨0, ⟨rfl, rfl⟩, text.size, spans, text.size, ⟨beq_self_eq_true _, rfl⟩, rfl⟩

theorem isProper_enclosed (proper : regex.IsProper) : regex.enclosed.IsProper := by
  apply isProper_ofParts
  intro part isPart
  simp only [List.mem_cons, List.not_mem_nil, or_false] at isPart
  rcases isPart with rfl | rfl | rfl
  · trivial
  · exact proper
  · trivial

/-- An expression that is anchored on both sides is found in a text exactly if it matches all of the text. -/
theorem isMatch_enclosed_iff {text : String} (proper : regex.IsProper) :
    regex.enclosed.isMatch text = true ↔ regex.Spans text.toList.toArray 0 text.toList.length := by
  rw [isMatch_iff (isProper_enclosed proper)]
  simp [spans_enclosed]

end Sequences

end Regex

end TreePath

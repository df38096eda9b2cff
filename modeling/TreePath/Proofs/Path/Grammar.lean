import TreePath.Proofs.Path.Legible
import TreePath.Proofs.Path.Spelling
import TreePath.Regex.Standard

/-!
# The grammar of paths without filters

A path without filters is read from exactly the texts that spell it: an optional first fragment, then fragments after
points and in brackets. Brackets are closed by the reader of fragments, so what stands inside one is treated together
with its closing bracket.
-/

namespace TreePath

/-! ## Slices and unions -/

/-- Whether a text spells the further entries of a union, each after a comma and with blanks around it. -/
def AreSelectorsSpelled : List Selector → List Char → Prop
  | [], text => text = []
  | selector :: selectors, text =>
    ∃ first others, IsPadded selector.IsSpelled first ∧ AreSelectorsSpelled selectors others ∧
      text = ',' :: first ++ others

/-- Whether a text spells the stop and the step of a slice, after its first colon. The second colon may be missing. -/
def IsSliceSpelling (stop step : Option Int64) (text : List Char) : Prop :=
  ∃ second, IsPadded (IsBoundSpelling stop) second ∧
    (step = none ∧ text = second ∨
      ∃ third, IsPadded (IsBoundSpelling step) third ∧ text = second ++ ':' :: third)

section Parts

variable {text rest : List Char}

theorem readSlice_of_isSliceSpelling [RegexSyntax] {stop step : Option Int64} (spelled : IsSliceSpelling stop step text)
    (start : Option Int64) (rest : List Char) :
    readSlice start (text ++ ']' :: rest) = .ok (.slice start stop step, ']' :: rest) := by
  rcases spelled with ⟨second, isStop, ⟨rfl, rfl⟩ | ⟨third, isStep, rfl⟩⟩
  · rw [readSlice, readBound_of_isPadded isStop rfl]
    rfl
  · rw [List.append_assoc, List.cons_append, readSlice, readBound_of_isPadded isStop rfl, ok_bind]
    simp only [readBound_of_isPadded isStep (c := ']') rfl, ok_bind]
    rfl

theorem exists_isSliceSpelling [RegexSyntax] {start : Option Int64} {fragment : Fragment Script}
    (read : readSlice start text = .ok (fragment, rest)) :
    ∃ stop step used, fragment = .slice start stop step ∧ IsSliceSpelling stop step used ∧ text = used ++ rest := by
  unfold readSlice at read
  rcases bind_eq_ok.1 read with ⟨⟨stop, afterStop⟩, readStop, readOthers⟩
  rcases exists_isBoundSpelling readStop with ⟨second, isStop, rfl⟩
  have parts : ∃ step left used, afterStop = used ++ left ∧
      (step = none ∧ used = [] ∨ ∃ third, IsPadded (IsBoundSpelling step) third ∧ used = ':' :: third) ∧
      fragment = .slice start stop step ∧ left = rest := by
    simp only at readOthers
    split at readOthers
    all_goals
      rcases bind_eq_ok.1 readOthers with ⟨⟨step, left⟩, readStep, closes⟩
      have ended : fragment = .slice start stop step ∧ left = rest := by
        simp only at closes
        split at closes
        · rcases Prod.mk.inj (Except.ok.inj closes) with ⟨rfl, rfl⟩
          exact ⟨rfl, rfl⟩
        · split at closes
          · rcases Prod.mk.inj (Except.ok.inj closes) with ⟨rfl, rfl⟩
            exact ⟨rfl, rfl⟩
          · cases closes
    · rcases exists_isBoundSpelling readStep with ⟨third, isStep, rfl⟩
      exact ⟨step, left, ':' :: third, rfl, .inr ⟨third, isStep, rfl⟩, ended⟩
    · rcases Prod.mk.inj (Except.ok.inj readStep) with ⟨rfl, rfl⟩
      exact ⟨none, _, [], rfl, .inl ⟨rfl, rfl⟩, ended⟩
  rcases parts with ⟨step, left, used, rfl, isStep, rfl, rfl⟩
  refine ⟨stop, step, second ++ used, rfl, ⟨second, isStop, ?_⟩, (List.append_assoc _ _ _).symm⟩
  rcases isStep with ⟨rfl, rfl⟩ | ⟨third, isStep, rfl⟩
  · exact .inl ⟨rfl, List.append_nil _⟩
  · exact .inr ⟨third, isStep, rfl⟩

theorem exists_endsBound {selectors : List Selector} (spelled : AreSelectorsSpelled selectors text)
    (rest : List Char) : ∃ c more, text ++ ']' :: rest = c :: more ∧ endsBound c = true := by
  cases selectors with
  | nil =>
      rcases spelled with rfl
      exact ⟨_, _, rfl, rfl⟩
  | cons selector selectors =>
      rcases spelled with ⟨first, others, -, -, rfl⟩
      exact ⟨_, _, rfl, rfl⟩

theorem readSelectors_of_areSelectorsSpelled {selectors : List Selector} {budget : Nat}
    (spelled : AreSelectorsSpelled selectors text) (enough : text.length + 1 ≤ budget) (rest : List Char) :
    readSelectors budget (text ++ ']' :: rest) = .ok (selectors, ']' :: rest) := by
  induction selectors generalizing text budget with
  | nil =>
      rcases spelled with rfl
      cases budget with
      | zero => cases enough
      | succ budget => rfl
  | cons selector selectors ih =>
      rcases spelled with ⟨first, others, ⟨before, inner, after, beforeBlank, spelled, afterBlank, rfl⟩, areOthers, rfl⟩
      simp only [List.length_cons, List.length_append] at enough
      cases budget with
      | zero => omega
      | succ budget =>
          have readOthers : readSelectors budget (others ++ ']' :: rest) = .ok (selectors, ']' :: rest) :=
            ih areOthers (by omega)
          rcases exists_endsBound areOthers rest with ⟨c, more, same, ends⟩
          rw [same] at readOthers
          have readFirst := readSelector_of_isSpelled spelled
            (stopsAt_append_of_areBlanks afterBlank (stopsAt_of_endsBound more ends))
          simp only [List.cons_append, List.append_assoc, same]
          rw [readSelectors, skipBlanks_append beforeBlank, skipBlanks_of_isSpelled spelled, readFirst, ok_bind]
          simp only [skipBlanks_append afterBlank, skipBlanks_of_endsBound more ends, readOthers, ok_bind]

theorem exists_areSelectorsSpelled {selectors : List Selector} {budget : Nat}
    (read : readSelectors budget text = .ok (selectors, rest)) :
    ∃ used, AreSelectorsSpelled selectors used ∧ text = used ++ rest := by
  induction budget generalizing text selectors with
  | zero => cases read
  | succ budget ih =>
      unfold readSelectors at read
      split at read
      · rename_i opened
        rcases bind_eq_ok.1 read with ⟨⟨selector, afterSelector⟩, readFirst, read⟩
        rcases bind_eq_ok.1 read with ⟨⟨others, left⟩, readOthers, read⟩
        rcases Prod.mk.inj (Except.ok.inj read) with ⟨rfl, rfl⟩
        rcases exists_blanks opened with ⟨before, beforeBlank, whole⟩
        rcases exists_isSpelled readFirst with ⟨inner, spelled, same⟩
        rcases exists_blanks afterSelector with ⟨after, afterBlank, closing⟩
        rcases ih readOthers with ⟨used, areOthers, split⟩
        refine ⟨_, ⟨_, used, ⟨before, inner, after, beforeBlank, spelled, afterBlank, rfl⟩, areOthers, rfl⟩, ?_⟩
        rw [whole, same, closing, split]
        simp
      · rcases Prod.mk.inj (Except.ok.inj read) with ⟨rfl, rfl⟩
        exact ⟨[], rfl, rfl⟩

end Parts

/-! ## Brackets -/

theorem exists_closing {start text rest : List Char} (closes : closeBracket start text = .ok rest) :
    ∃ blanks, AreBlanks blanks ∧ text = blanks ++ ']' :: rest := by
  rcases exists_blanks text with ⟨blanks, areBlanks, whole⟩
  unfold closeBracket at closes
  generalize skipBlanks text = left at closes whole
  split at closes
  · cases closes
  · split at closes
    · rename_i closing
      rcases Except.ok.inj closes with rfl
      exact ⟨blanks, areBlanks, closing ▸ whole⟩
    · cases closes

/-- A name or an integer in a bracket is padded by the blanks in front of it and those up to the mark behind it. -/
theorem exists_isPadded {holds : List Char → Prop} {text opened used left : List Char} (isOpened : skipBlanks text = opened)
    (same : opened = used ++ left) (spelled : holds used) :
    ∃ head, IsPadded holds head ∧ text = head ++ skipBlanks left := by
  rcases exists_blanks text with ⟨before, beforeBlank, whole⟩
  rcases exists_blanks left with ⟨after, afterBlank, closing⟩
  refine ⟨_, ((IsPadded.self spelled).prepend beforeBlank).append afterBlank, ?_⟩
  rw [List.append_assoc, List.append_assoc, ← closing, ← same, ← isOpened]
  exact whole

theorem IsSliceSpelling.append {stop step : Option Int64} {body blanks : List Char} (spelled : IsSliceSpelling stop step body)
    (areBlanks : AreBlanks blanks) : IsSliceSpelling stop step (body ++ blanks) := by
  rcases spelled with ⟨second, isStop, ⟨rfl, rfl⟩ | ⟨third, isStep, rfl⟩⟩
  · exact ⟨_, isStop.append areBlanks, .inl ⟨rfl, rfl⟩⟩
  · refine ⟨second, isStop, .inr ⟨third ++ blanks, isStep.append areBlanks, ?_⟩⟩
    rw [List.append_assoc, List.cons_append]

theorem AreSelectorsSpelled.append {selector : Selector} {selectors : List Selector} {body blanks : List Char}
    (spelled : AreSelectorsSpelled (selector :: selectors) body) (areBlanks : AreBlanks blanks) :
    AreSelectorsSpelled (selector :: selectors) (body ++ blanks) := by
  induction selectors generalizing selector body with
  | nil =>
      rcases spelled with ⟨first, others, isFirst, rfl, rfl⟩
      refine ⟨first ++ blanks, [], isFirst.append areBlanks, rfl, ?_⟩
      simp
  | cons second selectors ih =>
      rcases spelled with ⟨first, others, isFirst, areOthers, rfl⟩
      refine ⟨first, others ++ blanks, isFirst, ih areOthers, ?_⟩
      simp

section Grammar

variable [RegexSyntax]

/-- Whether a text between brackets spells a fragment without a script. -/
def Fragment.IsBracketSpelling : Fragment Script → List Char → Prop
  | child name, text => IsPadded (Selector.key name).IsSpelled text
  | nth i, text => IsPadded (Selector.index i).IsSpelled text
  | wildcard, text => IsPadded (· = ['*']) text
  | slice start stop step, text =>
    ∃ first others, IsPadded (IsBoundSpelling start) first ∧ IsSliceSpelling stop step others ∧
      text = first ++ ':' :: others
  | union (first :: second :: selectors), text =>
    ∃ head others, IsPadded first.IsSpelled head ∧ AreSelectorsSpelled (second :: selectors) others ∧
      text = head ++ others
  | _, _ => False

section Brackets

variable {budget : Nat} {start body rest : List Char} {fragment : Fragment Script}

/-- A name in a bracket and the mark behind it decide how reading goes on. -/
theorem readBracket_key {name : String} {text : List Char} (spelled : IsPadded (Selector.key name).IsSpelled text)
    {c : Char} (ends : endsBound c = true) (rest : List Char) :
    readBracket (budget + 1) start (text ++ c :: rest) =
      match c :: rest with
      | ',' :: rest => readUnion (.key name) (',' :: rest)
      | rest => .ok (.child name, rest) := by
  rcases spelled with ⟨before, inner, after, beforeBlank, ⟨quote, body, isQuote, spelled, rfl⟩, afterBlank, rfl⟩
  have read := readQuoted_of_isQuotedSpelling isQuote spelled (after ++ c :: rest)
  have notClosed : quote ≠ ']' := by rcases isQuote with rfl | rfl <;> decide
  have notBlank : isBlank quote = false := by rcases isQuote with rfl | rfl <;> rfl
  simp only [List.append_assoc, List.cons_append] at read ⊢
  rw [readBracket, skipBlanks_append beforeBlank, skipBlanks_cons notBlank]
  simp only
  rw [if_neg notClosed, if_pos isQuote, read, ok_bind]
  rcases endsBound_iff.1 ends with rfl | rfl | rfl <;>
    simp [skipBlanks_append afterBlank, skipBlanks_of_endsBound rest ends]

/-- So do an integer and the mark behind it. -/
theorem readBracket_index {i : Int64} {text : List Char} (spelled : IsPadded (Selector.index i).IsSpelled text)
    {c : Char} (ends : endsBound c = true) (rest : List Char) :
    readBracket (budget + 1) start (text ++ c :: rest) =
      match c :: rest with
      | ':' :: rest => readSlice (some i) rest
      | ',' :: rest => readUnion (.index i) (',' :: rest)
      | rest => .ok (.nth i, rest) := by
  rcases spelled with ⟨before, inner, after, beforeBlank, spelled, afterBlank, rfl⟩
  rcases exists_startsInteger spelled with ⟨first, more, rfl, starts⟩
  have read := readInteger_of_isIntegerSpelling spelled
    (stopsAt_append_of_areBlanks afterBlank (stopsAt_of_endsBound rest ends))
  have plain : ∀ other : Char, startsInteger other = false → first ≠ other :=
    fun _ => ne_of_startsInteger starts
  have notQuote : ¬(first = '\'' ∨ first = '"') := not_or.2 ⟨plain _ rfl, plain _ rfl⟩
  simp only [List.append_assoc, List.cons_append] at read ⊢
  rw [readBracket, skipBlanks_append beforeBlank, skipBlanks_cons (isBlank_of_startsInteger starts)]
  simp only
  rw [if_neg (plain ']' rfl), if_neg notQuote, if_neg (plain '*' rfl), if_neg (plain '?' rfl),
    if_neg (plain ':' rfl), if_pos starts, read, ok_bind]
  rcases endsBound_iff.1 ends with rfl | rfl | rfl <;>
    simp [skipBlanks_append afterBlank, skipBlanks_of_endsBound rest ends]

theorem readUnion_of_areSelectorsSpelled (first : Selector) {selectors : List Selector}
    (spelled : AreSelectorsSpelled selectors body) (rest : List Char) :
    readUnion first (body ++ ']' :: rest) = .ok (.union (first :: selectors), ']' :: rest) := by
  have enough : body.length + 1 ≤ (body ++ ']' :: rest).length + 1 := by
    rw [List.length_append]
    omega
  rw [readUnion, readSelectors_of_areSelectorsSpelled spelled enough]
  rfl

/-- A fragment is read from what spells it between brackets, up to its closing bracket. -/
theorem readBracket_of_isBracketSpelling (spelled : fragment.IsBracketSpelling body) (rest : List Char) :
    ∃ left, readBracket (budget + 1) start (body ++ ']' :: rest) = .ok (fragment, left) ∧
      closeBracket start left = .ok rest := by
  cases fragment with
  | child name => exact ⟨_, readBracket_key spelled rfl rest, rfl⟩
  | nth i => exact ⟨_, readBracket_index spelled rfl rest, rfl⟩
  | wildcard =>
      rcases spelled with ⟨before, inner, after, beforeBlank, rfl, afterBlank, rfl⟩
      refine ⟨after ++ ']' :: rest, ?_, ?_⟩
      · rw [List.append_assoc, List.append_assoc, readBracket, skipBlanks_append beforeBlank]
        rfl
      · rw [closeBracket, skipBlanks_append afterBlank]
        rfl
  | slice first stop step =>
      rcases spelled with ⟨head, others, isFirst, isSlice, rfl⟩
      refine ⟨']' :: rest, ?_, rfl⟩
      have read := readSlice_of_isSliceSpelling isSlice first rest
      rw [List.append_assoc, List.cons_append]
      cases first with
      | none =>
          rcases isFirst with ⟨before, inner, after, beforeBlank, rfl, afterBlank, rfl⟩
          rw [List.append_nil, List.append_assoc, readBracket, skipBlanks_append beforeBlank,
            skipBlanks_append afterBlank]
          exact read
      | some i =>
          rw [readBracket_index isFirst rfl]
          exact read
  | union selectors =>
      rcases selectors with _ | ⟨first, _ | ⟨second, selectors⟩⟩
      case nil => exact spelled.elim
      case cons.nil => exact spelled.elim
      rcases spelled with ⟨head, others, isFirst, areOthers, same⟩
      refine ⟨']' :: rest, ?_, rfl⟩
      have read := readUnion_of_areSelectorsSpelled first areOthers rest
      have opens : ∃ more, others ++ ']' :: rest = ',' :: more := by
        rcases areOthers with ⟨_, _, -, -, rfl⟩
        exact ⟨_, rfl⟩
      rcases opens with ⟨more, opens⟩
      rw [opens] at read
      rw [same, List.append_assoc, opens]
      cases first with
      | key name =>
          rw [readBracket_key isFirst rfl]
          exact read
      | index i =>
          rw [readBracket_index isFirst rfl]
          exact read
  | _ => exact spelled.elim

theorem exists_isBracketSpelling_union {first : Selector} {head text : List Char}
    (isFirst : IsPadded first.IsSpelled head) (read : readUnion first (',' :: text) = .ok (fragment, rest)) :
    ∃ used, fragment.IsBracketSpelling used ∧ head ++ ',' :: text = used ++ rest := by
  rcases union_of_readUnion read with ⟨second, selectors, rfl⟩
  rcases map_eq_ok.1 read with ⟨⟨others, left⟩, readOthers, same⟩
  simp only [Prod.mk.injEq, Fragment.union.injEq, List.cons.injEq, true_and] at same
  rcases same with ⟨rfl, rfl⟩
  rcases exists_areSelectorsSpelled readOthers with ⟨used, areOthers, whole⟩
  refine ⟨head ++ used, ⟨head, used, isFirst, areOthers, rfl⟩, ?_⟩
  rw [whole, List.append_assoc]

theorem exists_isBracketSpelling_slice {first : Option Int64} {head text : List Char}
    (isFirst : IsPadded (IsBoundSpelling first) head) (read : readSlice first text = .ok (fragment, rest)) :
    ∃ used, fragment.IsBracketSpelling used ∧ head ++ ':' :: text = used ++ rest := by
  rcases exists_isSliceSpelling read with ⟨stop, step, used, rfl, isSlice, rfl⟩
  refine ⟨head ++ ':' :: used, ⟨head, used, isFirst, isSlice, rfl⟩, ?_⟩
  rw [List.append_assoc, List.cons_append]

/-- What was read between brackets, if it is no filter, was a spelling of the fragment. -/
theorem exists_isBracketSpelling {text : List Char} (plain : fragment.isFilter = false)
    (read : readBracket budget start text = .ok (fragment, rest)) :
    ∃ used, fragment.IsBracketSpelling used ∧ text = used ++ rest := by
  rcases exists_blanks text with ⟨before, beforeBlank, whole⟩
  cases budget with
  | zero => cases read
  | succ budget =>
      cases readsBracket read with
      | key opened isQuote readName =>
          rcases exists_isSpelled_key isQuote readName with ⟨used, spelled, same⟩
          exact exists_isPadded opened same spelled
      | keys opened isQuote readName goesOn readOthers =>
          rcases exists_isSpelled_key isQuote readName with ⟨used, spelled, same⟩
          rcases exists_isPadded opened same spelled with ⟨head, padded, split⟩
          rw [split, goesOn]
          exact exists_isBracketSpelling_union padded readOthers
      | wildcard opened =>
          rw [opened] at whole
          refine ⟨before ++ ['*'], ⟨before, ['*'], [], beforeBlank, rfl, areBlanks_nil, by simp⟩, ?_⟩
          rw [whole, List.append_assoc]
          rfl
      | filter opened readScript => cases plain
      | slice opened readBounds =>
          rw [whole, opened]
          exact exists_isBracketSpelling_slice (isPadded_none beforeBlank) readBounds
      | index opened readIndex =>
          rcases exists_isIntegerSpelling readIndex with ⟨used, spelled, -, same⟩
          exact exists_isPadded opened same spelled
      | @bounds _ _ _ _ _ i _ opened readIndex goesOn readBounds =>
          rcases exists_isIntegerSpelling readIndex with ⟨used, spelled, -, same⟩
          rcases exists_isPadded opened same spelled with ⟨head, padded, split⟩
          have isBound : IsPadded (IsBoundSpelling (some i)) head := padded
          rw [split, goesOn]
          exact exists_isBracketSpelling_slice isBound readBounds
      | @indexes _ _ _ _ _ i _ opened readIndex goesOn readOthers =>
          rcases exists_isIntegerSpelling readIndex with ⟨used, spelled, -, same⟩
          rcases exists_isPadded opened same spelled with ⟨head, padded, split⟩
          have isIndex : IsPadded (Selector.index i).IsSpelled head := padded
          rw [split, goesOn]
          exact exists_isBracketSpelling_union isIndex readOthers

/-! ### Blanks in front of the closing bracket -/

theorem isBracketSpelling_append {blanks : List Char} (spelled : fragment.IsBracketSpelling body)
    (areBlanks : AreBlanks blanks) : fragment.IsBracketSpelling (body ++ blanks) := by
  cases fragment with
  | child name => exact IsPadded.append spelled areBlanks
  | nth i => exact IsPadded.append spelled areBlanks
  | wildcard => exact IsPadded.append spelled areBlanks
  | slice first stop step =>
      rcases spelled with ⟨head, others, isFirst, isSlice, rfl⟩
      refine ⟨head, others ++ blanks, isFirst, isSlice.append areBlanks, ?_⟩
      rw [List.append_assoc, List.cons_append]
  | union selectors =>
      match selectors, spelled with
      | first :: second :: selectors, ⟨head, others, isFirst, areOthers, same⟩ =>
          refine ⟨head, others ++ blanks, isFirst, areOthers.append areBlanks, ?_⟩
          rw [same, List.append_assoc]
  | _ => exact spelled.elim

/-- Up to its closing bracket, a bracket that holds no filter was a spelling of the fragment. -/
theorem exists_isBracketSpelling_closed {text left : List Char} (plain : fragment.isFilter = false)
    (read : readBracket budget start text = .ok (fragment, left)) (closes : closeBracket start left = .ok rest) :
    ∃ body, fragment.IsBracketSpelling body ∧ text = body ++ ']' :: rest := by
  rcases exists_isBracketSpelling plain read with ⟨used, spelled, rfl⟩
  rcases exists_closing closes with ⟨blanks, areBlanks, rfl⟩
  exact ⟨used ++ blanks, isBracketSpelling_append spelled areBlanks, (List.append_assoc _ _ _).symm⟩

end Brackets

/-! ## Fragments -/

/-- Whether a text spells the fragments of a path behind its head. -/
inductive AreFragmentsSpelled : List (Fragment Script) → List Char → Prop where
  | nil : AreFragmentsSpelled [] []
  | descent {fragments : List (Fragment Script)} {text : List Char} : AreFragmentsSpelled fragments text →
      AreFragmentsSpelled (.descent :: fragments) ('.' :: '.' :: text)
  /-- A name or asterisk may follow a descent at once. -/
  | bareDescent {fragment : Fragment Script} {fragments : List (Fragment Script)} {bare text : List Char} :
      fragment.IsBareSpelling bare text → AreFragmentsSpelled fragments text →
      AreFragmentsSpelled (.descent :: fragment :: fragments) ('.' :: '.' :: bare ++ text)
  | point {fragment : Fragment Script} {fragments : List (Fragment Script)} {bare text : List Char} :
      fragment.IsBareSpelling bare text → AreFragmentsSpelled fragments text →
      AreFragmentsSpelled (fragment :: fragments) ('.' :: bare ++ text)
  | wildcard {fragments : List (Fragment Script)} {text : List Char} : AreFragmentsSpelled fragments text →
      AreFragmentsSpelled (.wildcard :: fragments) ('*' :: text)
  | bracket {fragment : Fragment Script} {fragments : List (Fragment Script)} {body text : List Char} :
      fragment.IsBracketSpelling body → AreFragmentsSpelled fragments text →
      AreFragmentsSpelled (fragment :: fragments) ('[' :: body ++ ']' :: text)

section Fragments

variable {budget : Nat} {fragment : Fragment Script} {fragments : List (Fragment Script)} {text bare : List Char}

theorem readFragments_star : readFragments (budget + 1) ('*' :: text) =
    (readFragments budget text).map fun (fragments, rest) => (.wildcard :: fragments, rest) := by
  rw [readFragments]
  cases readFragments budget text <;> rfl

/-- Fragments begin with an asterisk, which is one of them, or where neither a name nor an anchor can begin. -/
theorem AreFragmentsSpelled.begins (spelled : AreFragmentsSpelled fragments text) :
    (∃ more, text = '*' :: more) ∨
      stopsAt startsBare text = true ∧ stopsAt (fun c => c == '$' || c == '@') text = true := by
  cases spelled with
  | wildcard spelled => exact .inl ⟨_, rfl⟩
  | _ => exact .inr ⟨rfl, rfl⟩

theorem length_le_of_areFragmentsSpelled (spelled : AreFragmentsSpelled fragments text) :
    fragments.length ≤ text.length := by
  induction spelled with
  | nil => exact Nat.le_refl 0
  | descent spelled ih | wildcard spelled ih =>
      simp only [List.length_cons]
      omega
  | bareDescent isBare spelled ih | point isBare spelled ih | bracket isBracket spelled ih =>
      simp only [List.length_cons, List.length_append]
      omega

/-- Where a point stands in front of a bare name or wildcard, it is no descent. -/
theorem readFragments_point {rest : List Char} (found : readBare? text = some (fragment, rest)) :
    readFragments (budget + 1) ('.' :: text) =
      (readFragments budget rest).map fun (fragments, rest) => (fragment :: fragments, rest) := by
  have after : readAfterPoint text = .ok (fragment, rest) := by
    simp only [readAfterPoint, found]
  rw [readFragments]
  · rw [after, ok_bind]
    simp only
    cases readFragments budget rest <;> rfl
  · rintro more same
    rw [same] at found
    cases found

theorem readFragments_of_areFragmentsSpelled (spelled : AreFragmentsSpelled fragments text)
    (enough : fragments.length < budget) : readFragments budget text = .ok (fragments, []) := by
  induction spelled generalizing budget with
  | nil =>
      rcases Nat.exists_eq_add_of_lt enough with ⟨least, rfl⟩
      rfl
  | @descent fragments text spelled ih =>
      rw [List.length_cons] at enough
      rcases Nat.exists_eq_add_of_le' (Nat.le_trans (by omega : 1 ≤ _) enough) with ⟨least, rfl⟩
      rw [readFragments]
      rcases spelled.begins with ⟨more, rfl⟩ | ⟨stops, -⟩
      · -- the asterisk is read together with the descent, and not as a fragment of its own
        have read : readFragments (least + 1) ('*' :: more) = .ok (fragments, []) := ih (by omega)
        rw [readFragments_star] at read
        rcases map_eq_ok.1 read with ⟨⟨others, left⟩, readOthers, same⟩
        rcases Prod.mk.inj same with ⟨rfl, rfl⟩
        simp only [readBare?, readOthers, ok_bind]
      · have read : readFragments least text = .ok (fragments, []) := ih (by omega)
        simp only [readBare?_eq_none stops, read, ok_bind]
  | @bareDescent fragment fragments bare text isBare spelled ih =>
      rw [List.length_cons, List.length_cons] at enough
      rcases Nat.exists_eq_add_of_le' (Nat.le_trans (by omega : 1 ≤ _) enough) with ⟨least, rfl⟩
      have found := readBare?_eq_some.2 ⟨bare, isBare, rfl⟩
      have read : readFragments least text = .ok (fragments, []) := ih (by omega)
      rw [List.cons_append, List.cons_append, readFragments]
      simp only [found, read, ok_bind]
  | @point fragment fragments bare text isBare spelled ih =>
      rw [List.length_cons] at enough
      rcases Nat.exists_eq_add_of_le' (Nat.le_trans (by omega : 1 ≤ _) enough) with ⟨least, rfl⟩
      rw [List.cons_append, readFragments_point (readBare?_eq_some.2 ⟨bare, isBare, rfl⟩), ih (by omega)]
      rfl
  | wildcard spelled ih =>
      rw [List.length_cons] at enough
      rcases Nat.exists_eq_add_of_le' (Nat.le_trans (by omega : 1 ≤ _) enough) with ⟨least, rfl⟩
      rw [readFragments_star, ih (by omega)]
      rfl
  | @bracket fragment fragments body text isBracket spelled ih =>
      rw [List.length_cons] at enough
      rcases Nat.exists_eq_add_of_le' (Nat.le_trans (by omega : 2 ≤ _) enough) with ⟨least, rfl⟩
      rcases readBracket_of_isBracketSpelling isBracket text with ⟨left, readBody, closes⟩
      have read : readFragments (least + 1) text = .ok (fragments, []) := ih (by omega)
      rw [List.cons_append, readFragments, readBody, ok_bind]
      simp only
      rw [closes, ok_bind, read]
      rfl

theorem areFragmentsSpelled_of_readFragments (plain : ∀ fragment ∈ fragments, fragment.isFilter = false)
    (read : readFragments budget text = .ok (fragments, [])) : AreFragmentsSpelled fragments text := by
  induction budget generalizing text fragments with
  | zero => cases read
  | succ budget ih =>
      unfold readFragments at read
      split at read
      · split at read
        · rename_i bare afterBare found
          rcases bind_eq_ok.1 read with ⟨⟨others, left⟩, readOthers, read⟩
          rcases Prod.mk.inj (Except.ok.inj read) with ⟨rfl, rfl⟩
          rcases readBare?_eq_some.1 found with ⟨used, isBare, rfl⟩
          simp only [List.mem_cons, forall_eq_or_imp] at plain
          exact .bareDescent isBare (ih plain.2.2 readOthers)
        · rcases bind_eq_ok.1 read with ⟨⟨others, left⟩, readOthers, read⟩
          rcases Prod.mk.inj (Except.ok.inj read) with ⟨rfl, rfl⟩
          simp only [List.mem_cons, forall_eq_or_imp] at plain
          exact .descent (ih plain.2 readOthers)
      · rcases bind_eq_ok.1 read with ⟨⟨fragment, afterPoint⟩, found, read⟩
        rcases bind_eq_ok.1 read with ⟨⟨others, left⟩, readOthers, read⟩
        rcases Prod.mk.inj (Except.ok.inj read) with ⟨rfl, rfl⟩
        simp only [List.mem_cons, forall_eq_or_imp] at plain
        rcases readBare?_eq_some.1 (readBare?_of_readAfterPoint found) with ⟨used, isBare, rfl⟩
        exact .point isBare (ih plain.2 readOthers)
      · rcases bind_eq_ok.1 read with ⟨⟨fragment, inBracket⟩, found, read⟩
        rcases bind_eq_ok.1 read with ⟨afterBracket, closes, read⟩
        rcases bind_eq_ok.1 read with ⟨⟨others, left⟩, readOthers, read⟩
        rcases Prod.mk.inj (Except.ok.inj read) with ⟨rfl, rfl⟩
        simp only [List.mem_cons, forall_eq_or_imp] at plain
        rcases exists_isBracketSpelling_closed plain.1 found closes with ⟨body, isBracket, rfl⟩
        exact .bracket isBracket (ih plain.2 readOthers)
      · rcases bind_eq_ok.1 read with ⟨⟨others, left⟩, readOthers, read⟩
        rcases Prod.mk.inj (Except.ok.inj read) with ⟨rfl, rfl⟩
        simp only [List.mem_cons, forall_eq_or_imp] at plain
        exact .wildcard (ih plain.2 readOthers)
      · rcases Prod.mk.inj (Except.ok.inj read) with ⟨rfl, rfl⟩
        exact .nil

end Fragments

/-! ## Paths -/

/-- Whether a text spells a path without filters. The first fragment needs no point, and an anchor is one only there. -/
inductive Path.IsSpelled : Path → List Char → Prop where
  | headless {fragments : List (Fragment Script)} {text : List Char} : AreFragmentsSpelled fragments text →
      IsSpelled ⟨fragments⟩ text
  | root {fragments : List (Fragment Script)} {text : List Char} : AreFragmentsSpelled fragments text →
      IsSpelled ⟨.root :: fragments⟩ ('$' :: text)
  | current {fragments : List (Fragment Script)} {text : List Char} : AreFragmentsSpelled fragments text →
      IsSpelled ⟨.current :: fragments⟩ ('@' :: text)
  | bare {fragment : Fragment Script} {fragments : List (Fragment Script)} {bare text : List Char} :
      fragment.IsBareSpelling bare text → AreFragmentsSpelled fragments text →
      IsSpelled ⟨fragment :: fragments⟩ (bare ++ text)

section Paths

variable {budget : Nat} {path : Path} {text : List Char}

theorem readPath_of_isSpelled (spelled : path.IsSpelled text) (enough : path.fragments.length + 2 ≤ budget) :
    readPath budget text = .ok (path, []) := by
  rcases Nat.exists_eq_add_of_le' (Nat.le_trans (by omega : 1 ≤ _) enough) with ⟨least, rfl⟩
  rw [readPath]
  cases spelled with
  | @headless fragments text spelled =>
      simp only at enough
      rcases spelled.begins with ⟨more, rfl⟩ | ⟨notBare, notAnchor⟩
      · -- the asterisk is read as the head
        have read : readFragments (least + 1) ('*' :: more) = .ok (fragments, []) :=
          readFragments_of_areFragmentsSpelled spelled (by omega)
        rw [readFragments_star] at read
        rcases map_eq_ok.1 read with ⟨⟨others, left⟩, readOthers, same⟩
        rcases Prod.mk.inj same with ⟨rfl, rfl⟩
        have found : readHead? ('*' :: more) = some (.wildcard, more) := rfl
        simp only [found, readOthers, ok_bind]
      · have read : readFragments least text = .ok (fragments, []) :=
          readFragments_of_areFragmentsSpelled spelled (by omega)
        simp only [readHead?_eq_none notBare notAnchor, read, ok_bind]
  | @root fragments text spelled | @current fragments text spelled =>
      simp only [List.length_cons] at enough
      have read : readFragments least text = .ok (fragments, []) :=
        readFragments_of_areFragmentsSpelled spelled (by omega)
      simp only [readHead?, read, ok_bind]
  | @bare fragment fragments bare text isBare spelled =>
      simp only [List.length_cons] at enough
      have found := readHead?_of_readBare? (readBare?_eq_some.2 ⟨bare, isBare, rfl⟩)
      have read : readFragments least text = .ok (fragments, []) :=
        readFragments_of_areFragmentsSpelled spelled (by omega)
      simp only [found, read, ok_bind]

theorem isSpelled_of_readPath (plain : ∀ fragment ∈ path.fragments, fragment.isFilter = false)
    (read : readPath budget text = .ok (path, [])) : path.IsSpelled text := by
  cases budget with
  | zero => cases read
  | succ budget =>
      unfold readPath at read
      split at read
      · rename_i head afterHead found
        rcases bind_eq_ok.1 read with ⟨⟨fragments, left⟩, readOthers, read⟩
        rcases Prod.mk.inj (Except.ok.inj read) with ⟨rfl, rfl⟩
        simp only [List.mem_cons, forall_eq_or_imp] at plain
        have spelled := areFragmentsSpelled_of_readFragments plain.2 readOthers
        unfold readHead? at found
        split at found
        · rcases Prod.mk.inj (Option.some.inj found) with ⟨rfl, rfl⟩
          exact .root spelled
        · rcases Prod.mk.inj (Option.some.inj found) with ⟨rfl, rfl⟩
          exact .current spelled
        · rcases readBare?_eq_some.1 found with ⟨used, isBare, rfl⟩
          exact .bare isBare spelled
      · rcases bind_eq_ok.1 read with ⟨⟨fragments, left⟩, readOthers, read⟩
        rcases Prod.mk.inj (Except.ok.inj read) with ⟨rfl, rfl⟩
        exact .headless (areFragmentsSpelled_of_readFragments plain readOthers)

theorem length_le_of_isSpelled (spelled : path.IsSpelled text) : path.fragments.length ≤ text.length := by
  cases spelled with
  | headless spelled => exact length_le_of_areFragmentsSpelled spelled
  | root spelled | current spelled =>
      have others := length_le_of_areFragmentsSpelled spelled
      simp only [List.length_cons]
      omega
  | @bare fragment fragments bare text isBare spelled =>
      have others := length_le_of_areFragmentsSpelled spelled
      have present := length_pos_of_isBareSpelling isBare
      simp only [List.length_cons, List.length_append]
      omega

end Paths

theorem parse_eq_ok {text : String} {path : Path} :
    Path.parse text = .ok path ↔ readPath (readingBudget text.toList) text.toList = .ok (path, []) := by
  rw [Path.parse, Path.parseFrom, List.drop_zero, mapError_eq_ok, readWholePath]
  constructor
  · intro parsed
    rcases bind_eq_ok.1 parsed with ⟨⟨read, rest⟩, found, ended⟩
    cases rest with
    | nil =>
        rcases Except.ok.inj ended with rfl
        exact found
    | cons c rest => cases ended
  · intro read
    rw [read]
    rfl

/-- A path without filters is read from a text exactly if the text spells it. -/
theorem parse_iff_isSpelled (text : String) {path : Path}
    (plain : ∀ fragment ∈ path.fragments, fragment.isFilter = false) :
    Path.parse text = .ok path ↔ path.IsSpelled text.toList := by
  rw [parse_eq_ok]
  constructor
  · intro read
    exact isSpelled_of_readPath plain read
  · intro spelled
    have short := length_le_of_isSpelled spelled
    apply readPath_of_isSpelled spelled
    rw [readingBudget]
    omega

end Grammar

/-- The text of `spelledPath` with an escape, other quotes, leading zeros and blanks. -/
def spelledText : String := "$[ \"\\u0061\" ,-007].b..*[1 :]"

def spelledPath : Path where
  fragments := [.root, .union [.key "a", .index (-7)], .child "b", .descent, .wildcard, .slice (some 1) none none]

theorem isSpelled_spelledText : spelledPath.IsSpelled spelledText.toList := by
  have key : (Selector.key "a").IsSpelled "\"\\u0061\"".toList :=
    ⟨'"', ['\\', 'u', '0', '0', '6', '1'], .inr rfl, .code rfl .nil, rfl⟩
  have index : (Selector.index (-7)).IsSpelled "-007".toList :=
    ⟨true, ['0', '0', '7'], rfl, by decide, List.all_eq_true.1 rfl, by decide⟩
  have start : IsBoundSpelling (some 1) ['1'] := ⟨false, ['1'], rfl, by decide, List.all_eq_true.1 rfl, by decide⟩
  have blank : AreBlanks [' '] := by
    intro c member
    rcases List.mem_singleton.1 member with rfl
    rfl
  have union : Fragment.IsBracketSpelling (.union [.key "a", .index (-7)]) " \"\\u0061\" ,-007".toList :=
    ⟨_, _, ((IsPadded.self key).prepend blank).append blank, ⟨_, _, IsPadded.self index, rfl, rfl⟩, rfl⟩
  have slice : Fragment.IsBracketSpelling (.slice (some 1) none none) "1 :".toList :=
    ⟨_, _, (IsPadded.self start).append blank, ⟨_, isPadded_none areBlanks_nil, .inl ⟨rfl, rfl⟩⟩, rfl⟩
  have name : Fragment.IsBareSpelling (.child "b" : Fragment Script) ['b'] "..*[1 :]".toList :=
    ⟨by decide, rfl, rfl⟩
  have wildcard : Fragment.IsBareSpelling (.wildcard : Fragment Script) ['*'] "[1 :]".toList := rfl
  exact .root (.bracket union (.point name (.bareDescent wildcard (.bracket slice .nil))))

theorem parse_spelledText :
    (∀ fragment ∈ spelledPath.fragments, fragment.isFilter = false) ∧ spelledPath.IsSpelled spelledText.toList ∧
      Path.parse spelledText = .ok spelledPath := by
  have plain : ∀ fragment ∈ spelledPath.fragments, fragment.isFilter = false := by
    simp [spelledPath, Fragment.isFilter]
  exact ⟨plain, isSpelled_spelledText, (parse_iff_isSpelled spelledText plain).2 isSpelled_spelledText⟩

end TreePath

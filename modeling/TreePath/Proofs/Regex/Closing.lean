import TreePath.Proofs.Reading.Appended
import TreePath.Regex.Reader

/-!
# Readers of regular expressions in front of a closing parenthesis

To match a whole text, a pattern is compiled from its source between `^(?:` and `)$`. Here each reader of a part of an
expression is shown to read the same in front of `closing` as at the end of the text. What can differ is the text that is
left out in spaced mode: a comment without an end takes in `closing`, too (`span_closing`). A reader that goes on behind it
has read no such comment, since it has found something there.
-/

namespace TreePath

namespace Regex

/-- What is written behind an enclosed source. -/
def closing : List Char :=
  [')', '$']

variable {modes : Modes} {text rest : List Char}

/-! ## Text that is left out -/

namespace Modes

variable {belongs : Char → Bool}

theorem span_nil : modes.span belongs [] = ([], []) := by
  unfold span
  split <;> rfl

theorem spacedSpan_append {inside : Bool} (left : (spacedSpan belongs inside text).2 ≠ []) (tail : List Char) :
    spacedSpan belongs inside (text ++ tail) =
      ((spacedSpan belongs inside text).1, (spacedSpan belongs inside text).2 ++ tail) := by
  fun_induction spacedSpan belongs inside text with
  | case1 => exact absurd rfl left
  | case2 c text ih => exact ih left
  | case3 c text blank ih =>
      rw [List.cons_append, spacedSpan, if_pos blank]
      exact ih left
  | case4 text blank ih =>
      rw [List.cons_append, spacedSpan, if_neg blank, if_pos rfl]
      exact ih left
  | case5 c text blank noMark isMember characters rest split ih =>
      rw [split] at ih
      rw [List.cons_append, spacedSpan, if_neg blank, if_neg noMark, if_pos isMember, ih left]
  | case6 c text blank noMark notMember =>
      rw [List.cons_append, spacedSpan, if_neg blank, if_neg noMark, if_neg notMember]

/-- Where a span ends within a text, it ends there in front of other text, too. -/
theorem span_append {characters : List Char} {c : Char} (ends : modes.span belongs text = (characters, c :: rest))
    (tail : List Char) : modes.span belongs (text ++ tail) = (characters, c :: (rest ++ tail)) := by
  have left : (modes.span belongs text).2 ≠ [] := by simp [ends]
  have appended : modes.span belongs (text ++ tail) =
      ((modes.span belongs text).1, (modes.span belongs text).2 ++ tail) := by
    unfold span at left ⊢
    split
    · rename_i spaced
      rw [if_pos spaced] at left
      exact spacedSpan_append left tail
    · rename_i notSpaced
      rw [if_neg notSpaced] at left
      rw [takeWhile_append_of_left left, dropWhile_append_of_left left]
  rw [appended, ends, List.cons_append]

theorem spacedSpan_closing (outside : belongs ')' = false) {inside : Bool}
    (left : (spacedSpan belongs inside text).2 = []) :
    spacedSpan belongs inside (text ++ closing) = ((spacedSpan belongs inside text).1, closing) ∨
      spacedSpan belongs inside (text ++ closing) = ((spacedSpan belongs inside text).1, []) := by
  fun_induction spacedSpan belongs inside text with
  | case1 inside =>
      cases inside with
      | true => exact .inr rfl
      | false =>
          have notBlank : isBlank ')' = false := by decide
          simp [spacedSpan, closing, outside, notBlank]
  | case2 c text ih => exact ih left
  | case3 c text blank ih =>
      rw [List.cons_append, spacedSpan, if_pos blank]
      exact ih left
  | case4 text blank ih =>
      rw [List.cons_append, spacedSpan, if_neg blank, if_pos rfl]
      exact ih left
  | case5 c text blank noMark isMember characters rest split ih =>
      rw [split] at ih
      rw [List.cons_append, spacedSpan, if_neg blank, if_neg noMark, if_pos isMember]
      rcases ih left with same | same
      · exact .inl (by rw [same])
      · exact .inr (by rw [same])
  | case6 => cases left

/-- Where a span goes on to the end of a text, it ends in front of `closing`, unless a comment takes that in. -/
theorem span_closing (outside : belongs ')' = false) (left : (modes.span belongs text).2 = []) :
    modes.span belongs (text ++ closing) = ((modes.span belongs text).1, closing) ∨
      modes.span belongs (text ++ closing) = ((modes.span belongs text).1, []) := by
  unfold span at left ⊢
  split
  · rename_i spaced
    rw [if_pos spaced] at left
    exact spacedSpan_closing outside left
  · rename_i notSpaced
    rw [if_neg notSpaced, List.dropWhile_eq_nil_iff] at left
    refine .inl ?_
    rw [List.takeWhile_append_of_pos left, List.dropWhile_append_of_pos left, List.takeWhile_eq_self_iff.2 left]
    simp [closing, outside]

theorem span_fst_closing (outside : belongs ')' = false) :
    (modes.span belongs (text ++ closing)).1 = (modes.span belongs text).1 := by
  cases left : (modes.span belongs text).2 with
  | nil =>
      rcases span_closing outside left with same | same
      · rw [same]
      · rw [same]
  | cons c rest => rw [span_append (Prod.ext rfl left)]

theorem skip_append {c : Char} (begins : modes.skip text = c :: rest) (tail : List Char) :
    modes.skip (text ++ tail) = c :: (rest ++ tail) :=
  congrArg Prod.snd (span_append (Prod.ext rfl begins) tail)

theorem skip_closing (left : modes.skip text = []) :
    modes.skip (text ++ closing) = closing ∨ modes.skip (text ++ closing) = [] :=
  (span_closing rfl left).imp (congrArg Prod.snd) (congrArg Prod.snd)

theorem behind?_closing {mark : Char} (outside : mark ≠ ')') :
    modes.behind? mark (text ++ closing) = (modes.behind? mark text).map (· ++ closing) := by
  unfold behind?
  cases begins : modes.skip text with
  | nil =>
      rcases skip_closing begins with same | same
      · rw [same]
        exact if_neg outside.symm
      · rw [same]
        rfl
  | cons c rest =>
      rw [skip_append begins]
      by_cases isMark : c = mark
      · simp [isMark]
      · simp [isMark]

end Modes

theorem skipBlanks_closing : skipBlanks (text ++ closing) = skipBlanks text ++ closing := by
  by_cases blank : skipBlanks text = []
  · rw [blank]
    rw [skipBlanks, List.dropWhile_eq_nil_iff] at blank
    rw [skipBlanks, List.dropWhile_append_of_pos blank]
    rfl
  · exact skipBlanks_append_of_ne_nil blank closing

/-- Beyond the text a look ahead sees the parenthesis. -/
theorem Modes.peek?_closing : modes.peek? (text ++ closing) = (modes.peek? text).or (some ')') := by
  have head?_closing (text : List Char) : (text ++ closing).head? = text.head?.or (some ')') := List.head?_append
  unfold peek?
  split
  · rw [skipBlanks_closing]
    cases skipBlanks text with
    | nil => rfl
    | cons c text =>
        by_cases mark : c = '#'
        · rcases mark with rfl
          simp only [List.cons_append]
          rw [skipBlanks_closing, head?_closing]
        · simp [mark]
  · exact head?_closing text

/-- What does not begin with a character that is not a parenthesis does not do so in front of `closing` either. -/
theorem append_closing_ne {c : Char} (outside : c ≠ ')') (notCons : ∀ more, text ≠ c :: more) (more : List Char) :
    text ++ closing ≠ c :: more := by
  cases text with
  | nil => exact fun same => outside (List.cons.inj same).1.symm
  | cons first others =>
      intro same
      exact notCons others (by rw [(List.cons.inj same).1])

/-! ## Escapes -/

theorem readDigits?_append {width value code : Nat} (reads : readDigits? modes width value text = some (code, rest)) :
    readDigits? modes width value (text ++ closing) = some (code, rest ++ closing) := by
  induction width generalizing value text with
  | zero =>
      rcases Option.some.inj reads with ⟨rfl, rfl⟩
      rfl
  | succ width ih =>
      rw [readDigits?] at reads ⊢
      split at reads
      · cases reads
      · rename_i begins
        rcases Option.bind_eq_some_iff.1 reads with ⟨digit, isDigit, reads⟩
        rw [modes.skip_append begins]
        exact Option.bind_eq_some_iff.2 ⟨digit, isDigit, ih reads⟩

theorem readBraced?_append {inside : List Char} (reads : readBraced? modes text = some (inside, rest)) :
    readBraced? modes (text ++ closing) = some (inside, rest ++ closing) := by
  unfold readBraced? at reads ⊢
  split at reads
  · rename_i closes
    rcases Option.some.inj reads with ⟨rfl, rfl⟩
    rw [modes.span_append closes]
    rfl
  · cases reads

theorem readCode?_append {width : Nat} {c : Char} (reads : readCode? modes width text = some (c, rest)) :
    readCode? modes width (text ++ closing) = some (c, rest ++ closing) := by
  unfold readCode? at reads ⊢
  rw [modes.behind?_closing (by decide)]
  cases braced : modes.behind? '{' text with
  | some inside =>
      rw [braced] at reads
      rcases Option.bind_eq_some_iff.1 reads with ⟨⟨digits, after⟩, readInside, reads⟩
      rcases Option.map_eq_some_iff.1 reads with ⟨_, isChar, same⟩
      rcases Prod.mk.inj same with ⟨rfl, rfl⟩
      simp [readBraced?_append readInside, isChar]
  | none =>
      rw [braced] at reads
      rcases Option.bind_eq_some_iff.1 reads with ⟨⟨code, after⟩, isCode, reads⟩
      rcases Option.map_eq_some_iff.1 reads with ⟨_, isChar, same⟩
      rcases Prod.mk.inj same with ⟨rfl, rfl⟩
      simp [readDigits?_append isCode, isChar]

theorem readWordBoundary?_append {condition : WordCondition}
    (reads : readWordBoundary? modes text = some (condition, rest)) :
    readWordBoundary? modes (text ++ closing) = some (condition, rest ++ closing) := by
  unfold readWordBoundary? at reads
  split at reads
  · rename_i text
    rw [List.cons_append, readWordBoundary?]
    simp only at reads ⊢
    rw [modes.span_fst_closing rfl]
    split at reads
    · rename_i noName
      rcases Option.some.inj reads with ⟨rfl, rfl⟩
      rw [if_pos noName]
      rfl
    · rename_i someName
      rw [if_neg someName]
      split at reads
      · rename_i isClosed
        rw [modes.span_append (Prod.ext rfl isClosed)]
        simp only
        split_ifs at reads ⊢
        all_goals
          rcases Option.some.inj reads with ⟨rfl, rfl⟩
          rfl
      · cases reads
  · rename_i notBraced
    rcases Option.some.inj reads with ⟨rfl, rfl⟩
    exact readWordBoundary?.eq_2 _ _ (append_closing_ne (by decide) notBraced)

theorem readPropertyName?_append {name : List Char} (reads : readPropertyName? modes text = some (name, rest)) :
    readPropertyName? modes (text ++ closing) = some (name, rest ++ closing) := by
  unfold readPropertyName? at reads ⊢
  rw [modes.behind?_closing (by decide)]
  cases braced : modes.behind? '{' text with
  | some inside =>
      rw [braced] at reads
      exact readBraced?_append reads
  | none =>
      rw [braced] at reads
      simp only at reads
      split at reads
      · cases reads
      · rename_i begins
        split at reads
        · cases reads
        · rename_i notEscape
          rcases Option.some.inj reads with ⟨rfl, rfl⟩
          simp [modes.skip_append begins, notEscape]

/-! ## Parts of classes -/

theorem behindDash?_closing : behindDash? modes (text ++ closing) = (behindDash? modes text).map (· ++ closing) := by
  unfold behindDash?
  rw [modes.behind?_closing (by decide)]
  cases modes.behind? '-' text with
  | none => rfl
  | some rest =>
      simp only [Option.map_some, Option.bind_eq_bind, Option.bind_some, modes.peek?_closing]
      cases modes.peek? rest with
      | none => simp
      | some next =>
          by_cases ends : next = ']' ∨ next = '-'
          · simp [ends]
          · simp [ends]

theorem readSetOperation?_closing {c : Char} :
    readSetOperation? (c :: text ++ closing) =
      (readSetOperation? (c :: text)).map fun (operation, rest) => (operation, rest ++ closing) := by
  cases text with
  | nil => simp [readSetOperation?, closing]
  | cons next text =>
      rw [List.cons_append, List.cons_append, readSetOperation?.eq_def, readSetOperation?.eq_def]
      split <;> simp_all

theorem splitNegation_closing :
    splitNegation (text ++ closing) = ((splitNegation text).1, (splitNegation text).2 ++ closing) := by
  cases text with
  | nil => rfl
  | cons c text =>
      by_cases caret : c = '^'
      · rcases caret with rfl
        rfl
      · simp [splitNegation, caret]

theorem behindName?_closing : behindName? (text ++ closing) = (behindName? text).map (· ++ closing) := by
  unfold behindName?
  cases left : text.dropWhile (· ≠ ':') with
  | nil =>
      rw [List.dropWhile_append_of_pos (List.dropWhile_eq_nil_iff.1 left)]
      rfl
  | cons c others =>
      rw [dropWhile_append_of_left (by rw [left]; exact List.cons_ne_nil _ _), left]
      cases others with
      | nil => simp [closing]
      | cons d others =>
          by_cases colon : c = ':'
          · by_cases bracket : d = ']'
            · rcases colon, bracket with ⟨rfl, rfl⟩
              rfl
            · simp [bracket]
          · simp [colon]

theorem readNamedSet?_closing :
    readNamedSet? (text ++ closing) =
      (readNamedSet? text).map fun (negated, members, rest) => (negated, members, rest ++ closing) := by
  cases text with
  | nil => rfl
  | cons c text =>
      by_cases colon : c = ':'
      · rcases colon with rfl
        rw [List.cons_append, readNamedSet?, readNamedSet?, splitNegation_closing]
        simp only [behindName?_closing]
        generalize (splitNegation text).2 = text
        cases found : behindName? text with
        | none => rfl
        | some rest =>
            have named : (text ++ closing).takeWhile (· ≠ ':') = text.takeWhile (· ≠ ':') := by
              refine takeWhile_append_of_left (fun nothing => ?_) _
              rw [behindName?, nothing] at found
              cases found
            rw [named]
            cases namedSet? (String.ofList (text.takeWhile (· ≠ ':'))) <;> rfl
      · simp [readNamedSet?, colon]

theorem firstMembers_append {members : Members} {c : Char} (begins : firstMembers modes text = (members, c :: rest)) :
    firstMembers modes (text ++ closing) = (members, c :: (rest ++ closing)) := by
  unfold firstMembers at begins ⊢
  split at begins
  · rename_i after noDash
    rcases Prod.mk.inj begins with ⟨rfl, rfl⟩
    rw [modes.span_append noDash]
    rfl
  · rename_i dashes after notBracket split
    rcases Prod.mk.inj begins with ⟨rfl, rfl⟩
    rw [modes.span_append split]
    cases dashes with
    | cons dash dashes => rfl
    | nil =>
        have plain : c ≠ ']' := fun same => notBracket rest rfl (same ▸ rfl)
        simp [plain]

theorem classStart_append {negated : Bool} {members : Members} {c : Char}
    (begins : classStart modes text = (negated, members, c :: rest)) :
    classStart modes (text ++ closing) = (negated, members, c :: (rest ++ closing)) := by
  rcases Prod.mk.inj begins with ⟨rfl, first⟩
  unfold classStart
  cases left : modes.skip text with
  | nil =>
      rw [left] at first
      simp [firstMembers, modes.span_nil] at first
  | cons d others =>
      rw [left] at first
      rw [modes.skip_append left, ← List.cons_append, splitNegation_closing]
      exact Prod.ext rfl (firstMembers_append first)

/-! ## Repetitions -/

theorem readCount?_append {count : Nat} {c : Char} (reads : readCount? modes text = some (count, c :: rest)) :
    readCount? modes (text ++ closing) = some (count, c :: (rest ++ closing)) := by
  unfold readCount? at reads ⊢
  simp only [skipBlanks_closing] at reads ⊢
  cases left : (modes.span isDigit (skipBlanks text)).2 with
  | nil =>
      rw [left] at reads
      split at reads
      · cases reads
      · cases reads
  | cons d others =>
      rw [modes.span_append (Prod.ext rfl left)]
      rw [left] at reads
      simp only
      split at reads
      · cases reads
      · rename_i isCount
        rcases Prod.mk.inj (Option.some.inj reads) with ⟨rfl, blanks⟩
        rw [if_neg isCount, ← List.cons_append, skipBlanks_closing, blanks]
        rfl

theorem readMost?_append {most : Option Nat} (reads : readMost? modes text = some (most, rest)) :
    readMost? modes (text ++ closing) = some (most, rest ++ closing) := by
  unfold readMost? at reads ⊢
  rw [modes.behind?_closing (by decide)]
  split at reads
  · rename_i unbounded
    rcases Option.some.inj reads with ⟨rfl, rfl⟩
    rw [unbounded]
    rfl
  · rename_i bounded
    split at reads
    · rename_i readMost
      rcases Option.some.inj reads with ⟨rfl, rfl⟩
      rw [bounded, readCount?_append readMost]
      rfl
    · cases reads

theorem readBounds?_append {least : Nat} {most : Option Nat}
    (reads : readBounds? modes text = some (least, most, rest)) :
    readBounds? modes (text ++ closing) = some (least, most, rest ++ closing) := by
  unfold readBounds? at reads ⊢
  split at reads
  · rename_i readLeast
    rcases Option.some.inj reads with ⟨rfl, rfl, rfl⟩
    rw [readCount?_append readLeast]
    rfl
  · rename_i readLeast
    rcases Option.bind_eq_some_iff.1 reads with ⟨⟨upper, left⟩, readMost, reads⟩
    simp only at reads
    split at reads
    · rename_i ordered
      rcases Option.some.inj reads with ⟨rfl, rfl, rfl⟩
      rw [readCount?_append readLeast]
      simp only [readMost?_append readMost, Option.bind_eq_bind, Option.bind_some]
      rw [if_pos ordered]
    · cases reads
  · cases reads

theorem readMarkBounds?_append {mark : Char} {least : Nat} {most : Option Nat}
    (reads : readMarkBounds? modes mark text = some (least, most, rest)) :
    readMarkBounds? modes mark (text ++ closing) = some (least, most, rest ++ closing) := by
  unfold readMarkBounds? at reads ⊢
  split at reads
  · rcases Option.some.inj reads with ⟨rfl, rfl, rfl⟩
    rfl
  · rcases Option.some.inj reads with ⟨rfl, rfl, rfl⟩
    rfl
  · rcases Option.some.inj reads with ⟨rfl, rfl, rfl⟩
    rfl
  · exact readBounds?_append reads

theorem splitLazy_closing {mark : Char} :
    splitLazy modes mark (text ++ closing) =
      ((splitLazy modes mark text).1, (splitLazy modes mark text).2 ++ closing) := by
  unfold splitLazy
  by_cases counted : mark = '{'
  · rw [if_pos counted, if_pos counted, modes.behind?_closing (by decide)]
    cases modes.behind? '?' text <;> rfl
  · rw [if_neg counted, if_neg counted]
    cases text with
    | nil => rfl
    | cons c others =>
        by_cases lazy : c = '?'
        · rcases lazy with rfl
          rfl
        · simp [lazy]

theorem readRepetition?_append {mark : Char} {least : Nat} {most : Option Nat} {isMarked : Bool}
    (reads : readRepetition? modes mark text = some (least, most, isMarked, rest)) :
    readRepetition? modes mark (text ++ closing) = some (least, most, isMarked, rest ++ closing) := by
  unfold readRepetition? at reads ⊢
  rcases Option.bind_eq_some_iff.1 reads with ⟨⟨first, second, left⟩, bounds, same⟩
  simp only [Option.some.injEq, Prod.mk.injEq] at same
  rcases same with ⟨rfl, rfl, lazy⟩
  rw [readMarkBounds?_append bounds, Option.bind_eq_bind, Option.bind_some]
  simp only [splitLazy_closing, lazy]

/-! ## Groups -/

theorem readModes?_append {modes changed : Modes} {adding : Bool} {seen : List Char}
    (reads : readModes? modes adding seen text = some (changed, rest)) :
    readModes? modes adding seen (text ++ closing) = some (changed, rest ++ closing) := by
  induction text generalizing modes adding seen with
  | nil => cases reads
  | cons c text ih =>
      rw [readModes?.eq_def] at reads
      rw [List.cons_append, readModes?.eq_def]
      simp only at reads ⊢
      split at reads
      · rename_i isEnd
        rw [if_pos isEnd]
        split at reads
        · cases reads
        · rename_i notDash
          rcases Option.some.inj reads with ⟨rfl, rfl⟩
          rw [if_neg notDash]
          rfl
      · rename_i notEnd
        rw [if_neg notEnd]
        split at reads
        · cases reads
        · rename_i new
          rw [if_neg new]
          split at reads
          case h_9 => cases reads
          all_goals exact ih reads

theorem readGroupName?_append {name : String} (reads : readGroupName? text = some (name, rest)) :
    readGroupName? (text ++ closing) = some (name, rest ++ closing) := by
  unfold readGroupName? at reads ⊢
  simp only at reads
  split at reads
  · rename_i closes
    have left : text.dropWhile (· ≠ '>') ≠ [] := by
      rw [closes]
      exact List.cons_ne_nil _ _
    split at reads
    · rename_i isName
      rcases Option.some.inj reads with ⟨rfl, rfl⟩
      simp only
      rw [takeWhile_append_of_left left, dropWhile_append_of_left left, closes]
      exact if_pos isName
    · cases reads
  · cases reads

theorem behindNameMark?_closing : behindNameMark? (text ++ closing) = (behindNameMark? text).map (· ++ closing) := by
  rcases text with _ | ⟨c, _ | ⟨d, text⟩⟩
  · rfl
  · by_cases angle : c = '<'
    · rcases angle with rfl
      rfl
    · simp [behindNameMark?, closing, angle]
  · rw [List.cons_append, List.cons_append, behindNameMark?.eq_def, behindNameMark?.eq_def]
    split <;> simp_all

theorem readGroupStart?_append {start : GroupStart} (reads : readGroupStart? modes text = some (start, rest)) :
    readGroupStart? modes (text ++ closing) = some (start, rest ++ closing) := by
  unfold readGroupStart? at reads
  split at reads
  · rename_i text
    rw [List.cons_append, readGroupStart?, behindNameMark?_closing]
    split at reads
    · rename_i named
      rcases Option.map_eq_some_iff.1 reads with ⟨⟨name, left⟩, readName, same⟩
      rcases Prod.mk.inj same with ⟨rfl, rfl⟩
      simp [named, readGroupName?_append readName]
    · rename_i unnamed
      rcases Option.bind_eq_some_iff.1 reads with ⟨⟨changed, left⟩, readChanged, same⟩
      simp only [unnamed, Option.map_none, readModes?_append readChanged, Option.bind_eq_bind, Option.bind_some]
      simp only at same
      split at same
      · rcases Option.some.inj same with ⟨rfl, rfl⟩
        rfl
      · rcases Option.some.inj same with ⟨rfl, rfl⟩
        simp
      · cases same
  · rename_i notMarked
    rcases Option.some.inj reads with ⟨rfl, rfl⟩
    exact readGroupStart?.eq_2 _ _ (append_closing_ne (by decide) notMarked)

theorem readGroupStart?_skip {start : GroupStart} {inside : List Char} (present : modes.skip text ≠ [])
    (starts : readGroupStart? modes (modes.skip text) = some (start, inside)) :
    readGroupStart? modes (modes.skip (text ++ closing)) = some (start, inside ++ closing) := by
  cases begins : modes.skip text with
  | nil => exact (present begins).elim
  | cons c others =>
      rw [begins] at starts
      rw [modes.skip_append begins]
      exact readGroupStart?_append starts

/-! ## Escapes and classes -/

variable [UnicodeProperties]

theorem readProperty?_append {negated : Bool} {members : CharSet}
    (reads : readProperty? modes negated text = some (members, rest)) :
    readProperty? modes negated (text ++ closing) = some (members, rest ++ closing) := by
  rcases Option.bind_eq_some_iff.1 reads with ⟨⟨name, after⟩, readName, reads⟩
  rcases Option.map_eq_some_iff.1 reads with ⟨_, isProperty, same⟩
  rcases Prod.mk.inj same with ⟨rfl, rfl⟩
  rw [readProperty?, readPropertyName?_append readName]
  exact Option.map_eq_some_iff.2 ⟨_, isProperty, rfl⟩

theorem readEscape?_append {escape : Escape} (reads : readEscape? modes text = some (escape, rest)) :
    readEscape? modes (text ++ closing) = some (escape, rest ++ closing) := by
  cases text with
  | nil => cases reads
  | cons c text =>
      rw [readEscape?.eq_def] at reads
      simp only at reads
      split at reads
      case h_2 | h_4 | h_6 =>
        rcases Option.map_eq_some_iff.1 reads with ⟨members, admitted, same⟩
        rcases Prod.mk.inj same with ⟨rfl, rfl⟩
        simp [readEscape?, admitted]
      case h_7 | h_8 =>
        rcases Option.map_eq_some_iff.1 reads with ⟨⟨members, left⟩, readMembers, same⟩
        rcases Prod.mk.inj same with ⟨rfl, rfl⟩
        simp [readEscape?, readProperty?_append readMembers]
      case h_15 | h_16 | h_17 =>
        rcases Option.map_eq_some_iff.1 reads with ⟨⟨c, left⟩, readC, same⟩
        rcases Prod.mk.inj same with ⟨rfl, rfl⟩
        simp [readEscape?, readCode?_append readC]
      case h_20 =>
        rcases Option.map_eq_some_iff.1 reads with ⟨⟨condition, left⟩, readCondition, same⟩
        rcases Prod.mk.inj same with ⟨rfl, rfl⟩
        simp [readEscape?, readWordBoundary?_append readCondition]
      case h_24 =>
        split at reads
        · rename_i escapable
          rcases Option.some.inj reads with ⟨rfl, rfl⟩
          simp [readEscape?, *]
        · cases reads
      all_goals
        rcases Option.some.inj reads with ⟨rfl, rfl⟩
        rfl

theorem readMember?_append {escape : Escape} (reads : readMember? modes text = some (escape, rest)) :
    readMember? modes (text ++ closing) = some (escape, rest ++ closing) := by
  unfold readMember? at reads
  split at reads
  · cases reads
  · exact readEscape?_append reads
  · rename_i c text notEscape
    rcases Option.some.inj reads with ⟨rfl, rfl⟩
    exact readMember?.eq_3 _ _ _ notEscape

theorem readRange?_append {members : CharSet} (reads : readRange? modes text = some (members, rest)) :
    readRange? modes (text ++ closing) = some (members, rest ++ closing) := by
  unfold readRange? at reads ⊢
  rcases Option.bind_eq_some_iff.1 reads with ⟨⟨first, left⟩, readFirst, reads⟩
  rw [readMember?_append readFirst, Option.bind_eq_bind, Option.bind_some]
  simp only at reads ⊢
  rw [behindDash?_closing]
  split at reads
  · rename_i behind isRange
    rcases Option.bind_eq_some_iff.1 reads with ⟨⟨last, after⟩, readLast, reads⟩
    rcases Option.map_eq_some_iff.1 reads with ⟨_, isSet, same⟩
    rcases Prod.mk.inj same with ⟨rfl, rfl⟩
    cases begins : modes.skip behind with
    | nil =>
        rw [begins] at readLast
        cases readLast
    | cons c others =>
        rw [begins] at readLast
        have again := readMember?_append readLast
        rw [List.cons_append] at again
        simp [isRange, modes.skip_append begins, again, isSet]
  · rename_i noRange
    rcases Option.map_eq_some_iff.1 reads with ⟨_, isSet, same⟩
    rcases Prod.mk.inj same with ⟨rfl, rfl⟩
    rw [noRange]
    simp [isSet]

/-- What is claimed of the readers of classes at one budget: what they read they read in front of `closing`, too, with
any larger budget. -/
structure ClosesClasses (budget : Nat) : Prop where
  whole : ∀ {more : Nat} {modes : Modes} {text rest : List Char} {members : Nested CharSet}, budget ≤ more →
    readClass? budget modes text = some (members, rest) →
      readClass? more modes (text ++ closing) = some (members, rest ++ closing)
  members : ∀ {more : Nat} {modes : Modes} {read : Members} {text rest : List Char} {members : Nested CharSet},
    budget ≤ more → readMembers? budget modes read text = some (members, rest) →
      readMembers? more modes read (text ++ closing) = some (members, rest ++ closing)

theorem readMembers?_nil {budget : Nat} {read : Members} : readMembers? budget modes read [] = none := by
  cases budget with
  | zero => rfl
  | succ budget => rw [readMembers?, Modes.skip, modes.span_nil]

theorem closesClasses (budget : Nat) : ClosesClasses budget := by
  induction budget with
  | zero =>
      constructor
      · intro _ _ _ _ _ _ reads
        cases reads
      · intro _ _ _ _ _ _ _ reads
        cases reads
  | succ budget ih =>
      constructor
      · intro more modes text rest members larger reads
        rcases Nat.exists_eq_add_of_lt larger with ⟨extra, rfl⟩
        rw [readClass?] at reads ⊢
        rcases start : classStart modes text with ⟨negated, first, inside⟩
        rw [start] at reads
        simp only at reads
        rcases Option.bind_eq_some_iff.1 reads with ⟨⟨members, left⟩, readInside, ends⟩
        cases inside with
        | nil =>
            rw [readMembers?_nil] at readInside
            cases readInside
        | cons c inside =>
            rcases Option.bind_eq_some_iff.1 ends with ⟨set, isSet, same⟩
            rcases Option.some.inj same with ⟨rfl, rfl⟩
            rw [classStart_append start]
            simp only
            rw [← List.cons_append, ih.members (Nat.le_add_right budget extra) readInside, Option.bind_eq_bind,
              Option.bind_some]
            exact Option.bind_eq_some_iff.2 ⟨set, isSet, rfl⟩
      · intro more modes read text rest members larger reads
        rcases Nat.exists_eq_add_of_lt larger with ⟨extra, rfl⟩
        have larger : budget ≤ budget + extra := Nat.le_add_right budget extra
        rw [readMembers?] at reads ⊢
        cases begins : modes.skip text with
        | nil =>
            rw [begins] at reads
            cases reads
        | cons c text =>
            rw [begins] at reads
            rw [modes.skip_append begins]
            simp only at reads ⊢
            split at reads
            · rename_i isEnd
              rcases Option.some.inj reads with ⟨rfl, rfl⟩
              rw [if_pos isEnd]
            · rename_i notEnd
              rw [if_neg notEnd]
              split at reads
              · rename_i opens
                rw [if_pos opens, readNamedSet?_closing]
                split at reads
                · rename_i negated named left readNamed
                  rcases Option.bind_eq_some_iff.1 reads with ⟨set, isSet, reads⟩
                  rw [readNamed]
                  exact Option.bind_eq_some_iff.2 ⟨set, isSet, ih.members larger reads⟩
                · rename_i notNamed
                  rcases Option.bind_eq_some_iff.1 reads with ⟨⟨inner, left⟩, readInner, reads⟩
                  rw [notNamed]
                  simp only [Option.map_none, ih.whole larger readInner, Option.bind_eq_bind, Option.bind_some]
                  exact ih.members larger reads
              · rename_i notOpens
                rw [if_neg notOpens, ← List.cons_append, readSetOperation?_closing]
                split at reads
                · rename_i operation left readOperation
                  rw [readOperation]
                  exact ih.members larger reads
                · rename_i notOperation
                  rcases Option.bind_eq_some_iff.1 reads with ⟨⟨range, left⟩, readRange, reads⟩
                  rw [notOperation]
                  simp only [Option.map_none, readRange?_append readRange, Option.bind_eq_bind, Option.bind_some]
                  exact ih.members larger reads

end Regex

end TreePath

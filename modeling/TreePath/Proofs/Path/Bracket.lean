import TreePath.Path.Printer
import TreePath.Path.Reader
import TreePath.Proofs.Reading.Numeral

/-!
# Fragments without scripts are read back

A bare name or wildcard is read back where no name can go on, and what a bracket holds is read back up to the closing
bracket.
-/

namespace TreePath

theorem skipBlanks_cons {c : Char} (plain : isBlank c = false) (text : List Char) :
    skipBlanks (c :: text) = c :: text := by
  rw [skipBlanks, List.dropWhile_cons, plain]
  rfl

theorem skipBlanks_blank (text : List Char) : skipBlanks (' ' :: text) = skipBlanks text := rfl

/-! ## Bare names and wildcards -/

/-- Whether a fragment is written without a bracket, apart from a point in front. -/
def Fragment.isPlain {Test : Type} : Fragment Test → Bool
  | child name => isBareName name
  | wildcard => true
  | _ => false

theorem isNameCharacter_of_mem {name : String} (bare : isBareName name = true) :
    ∀ c ∈ name.toList, isNameCharacter c = true := by
  rw [isBareName, Bool.and_eq_true] at bare
  exact List.all_eq_true.1 bare.2

theorem toList_ne_nil_of_isBareName {name : String} (bare : isBareName name = true) : name.toList ≠ [] := by
  rw [isBareName, Bool.and_eq_true, Bool.not_eq_true', List.isEmpty_eq_false_iff] at bare
  exact bare.1

/-- Whether a bare name or a wildcard may begin here. -/
def startsBare (c : Char) : Bool :=
  isNameCharacter c || c == '*'

theorem stopsAt_isNameCharacter {text : List Char} (stops : stopsAt startsBare text = true) :
    stopsAt isNameCharacter text = true :=
  stopsAt_of_imp (fun c inside => by rw [startsBare, inside, Bool.true_or]) stops

section Plain

variable [RegexSyntax] {fragment : Fragment Script} (tail : List Char)

theorem readBare?_render (plain : fragment.isPlain = true) (stops : stopsAt isNameCharacter tail = true) :
    readBare? (renderFragment true fragment ++ tail) = some (fragment, tail) := by
  cases fragment with
  | wildcard => rfl
  | child name =>
      have inside := isNameCharacter_of_mem plain
      have taken := takeWhile_append_of_stopsAt inside stops
      rw [Fragment.isPlain] at plain
      rw [renderFragment, if_pos plain, if_pos rfl, readBare?.eq_def]
      split
      · rename_i begins
        cases characters : name.toList with
        | nil => exact absurd characters (toList_ne_nil_of_isBareName plain)
        | cons c more =>
            rw [characters, List.cons_append] at begins
            have star := inside c (characters ▸ List.mem_cons_self)
            rw [(List.cons.inj begins).1] at star
            exact absurd star (by decide)
      · simp only [taken, List.isEmpty_eq_false_iff.2 (toList_ne_nil_of_isBareName plain), List.drop_left,
          String.ofList_toList, Bool.false_eq_true, if_false]
  | _ => cases plain

theorem readBare?_eq_none {text : List Char} (stops : stopsAt startsBare text = true) : readBare? text = none := by
  cases text with
  | nil => rfl
  | cons c text =>
      rw [stopsAt, Bool.not_eq_true', startsBare, Bool.or_eq_false_iff] at stops
      rw [readBare?.eq_def]
      split
      · rename_i begins
        rw [(List.cons.inj begins).1] at stops
        cases stops.2
      · rw [List.takeWhile_cons, stops.1]
        rfl

theorem renderFragment_false_of_isPlain (plain : fragment.isPlain = true) :
    renderFragment false fragment = '.' :: renderFragment true fragment := by
  cases fragment with
  | wildcard => rfl
  | child name =>
      rw [Fragment.isPlain] at plain
      rw [renderFragment, renderFragment, if_pos plain, if_pos plain]
      rfl
  | _ => cases plain

theorem renderFragment_true_of_not_isPlain (plain : fragment.isPlain = false) :
    renderFragment true fragment = renderFragment false fragment := by
  cases fragment with
  | wildcard => cases plain
  | child name =>
      rw [Fragment.isPlain] at plain
      rw [renderFragment, renderFragment, plain]
      rfl
  | _ => rfl

/-- A fragment begins with a character that ends every name. -/
theorem renderFragment_false_cons (fragment : Fragment Script) :
    ∃ c more, renderFragment false fragment = c :: more ∧
      ((c = '$' ∨ c = '@') ∧ fragment.isAnchor = true ∨ c = '.' ∨ c = '[') := by
  cases fragment with
  | root => exact ⟨_, _, rfl, .inl ⟨.inl rfl, rfl⟩⟩
  | current => exact ⟨_, _, rfl, .inl ⟨.inr rfl, rfl⟩⟩
  | wildcard => exact ⟨_, _, rfl, .inr (.inl rfl)⟩
  | descent => exact ⟨_, _, rfl, .inr (.inl rfl)⟩
  | child name =>
      cases bare : isBareName name with
      | true =>
          rw [@renderFragment_false_of_isPlain _ (.child name) bare]
          exact ⟨_, _, rfl, .inr (.inl rfl)⟩
      | false =>
          rw [renderFragment, bare]
          exact ⟨_, _, rfl, .inr (.inr rfl)⟩
  | nth i => exact ⟨_, _, rfl, .inr (.inr rfl)⟩
  | slice start stop step => exact ⟨_, _, rfl, .inr (.inr rfl)⟩
  | union selectors => exact ⟨_, _, rfl, .inr (.inr rfl)⟩
  | filter script => exact ⟨_, _, rfl, .inr (.inr rfl)⟩

/-- A wildcard or bare name at the beginning is the first fragment of a path. -/
theorem readHead?_of_readBare? {text : List Char} {read : Fragment Script × List Char}
    (found : readBare? text = some read) : readHead? text = some read := by
  rw [readHead?.eq_def]
  split
  · rw [readBare?_eq_none rfl] at found
    cases found
  · rw [readBare?_eq_none rfl] at found
    cases found
  · exact found

theorem readHead?_eq_none {text : List Char} (stops : stopsAt startsBare text = true)
    (notAnchor : stopsAt (fun c => c == '$' || c == '@') text = true) : readHead? text = none := by
  rw [readHead?.eq_def]
  split
  · cases notAnchor
  · cases notAnchor
  · exact readBare?_eq_none stops

end Plain

/-! ## Integers and bounds -/

theorem startsInteger_intDigits (n : Int) :
    ∃ c digits, intDigits n = c :: digits ∧ startsInteger c = true := by
  by_cases negative : n < 0
  · exact ⟨'-', natDigits n.natAbs, by simp [intDigits, negative], rfl⟩
  · cases digits : natDigits n.natAbs with
    | nil => exact absurd digits (natDigits_ne_nil _)
    | cons c more =>
        refine ⟨c, more, by simp [intDigits, negative, digits], ?_⟩
        have digit := isDigit_of_mem_natDigits (digits ▸ List.mem_cons_self : c ∈ natDigits n.natAbs)
        rw [startsInteger, digit, Bool.or_true]

theorem ne_of_startsInteger {c other : Char} (starts : startsInteger c = true)
    (plain : startsInteger other = false) : c ≠ other := by
  rintro rfl
  rw [starts] at plain
  cases plain

theorem isBlank_of_startsInteger {c : Char} (starts : startsInteger c = true) : isBlank c = false := by
  have bounds : 33 ≤ c.toNat ∧ c.toNat ≤ 132 := by
    rw [startsInteger, Bool.or_eq_true, beq_iff_eq] at starts
    rcases starts with rfl | digit
    · decide
    · rw [isDigit, Bool.and_eq_true, decide_eq_true_iff, decide_eq_true_iff] at digit
      exact ⟨Nat.le_trans (by decide) (show '0'.toNat ≤ c.toNat from digit.1),
        Nat.le_trans (show c.toNat ≤ '9'.toNat from digit.2) (by decide)⟩
  rw [isBlank, Text.blankRanges, Text.covers, if_neg (by omega), Text.covers, if_neg (by omega), Text.covers,
    if_pos (by omega), Bool.or_false, Bool.or_eq_false_iff, decide_eq_false_iff_not, decide_eq_false_iff_not]
  omega

/-- A character at which an integer or a bound of a slice ends. -/
def endsBound (c : Char) : Bool :=
  c == ':' || c == ',' || c == ']'

theorem exists_writeQuoted (text tail : List Char) : ∃ more, writeQuoted text ++ tail = '\'' :: more :=
  ⟨_, rfl⟩

section Bounds

variable {c : Char} (tail : List Char)

theorem endsBound_iff : endsBound c = true ↔ c = ':' ∨ c = ',' ∨ c = ']' := by
  simp [endsBound, or_assoc]

theorem stopsAt_of_endsBound (ends : endsBound c = true) : stopsAt continuesNumeral (c :: tail) = true := by
  rcases endsBound_iff.1 ends with rfl | rfl | rfl <;> rfl

theorem skipBlanks_of_endsBound (ends : endsBound c = true) : skipBlanks (c :: tail) = c :: tail := by
  rcases endsBound_iff.1 ends with rfl | rfl | rfl <;> rfl

theorem readBound_render (bound : Option Int64) (ends : endsBound c = true) :
    readBound (renderBound bound ++ c :: tail) = .ok (bound, c :: tail) := by
  cases bound with
  | none =>
      have plain : startsInteger c = false := by
        rcases endsBound_iff.1 ends with rfl | rfl | rfl <;> rfl
      rw [renderBound, List.nil_append, readBound, skipBlanks_of_endsBound tail ends]
      simp [plain]
  | some bound =>
      rcases startsInteger_intDigits bound.toInt with ⟨first, digits, same, starts⟩
      have read := readInteger_intDigits bound (stopsAt_of_endsBound tail ends)
      rw [same, List.cons_append] at read
      rw [renderBound, same, List.cons_append, readBound, skipBlanks_cons (isBlank_of_startsInteger starts)]
      simp only [starts, if_true, read, ok_bind, skipBlanks_of_endsBound tail ends]

theorem readSelector_render (selector : Selector) (ends : endsBound c = true) :
    readSelector (selector.render ++ c :: tail) = .ok (selector, c :: tail) := by
  cases selector with
  | key name =>
      have read := readQuoted_writeQuoted name.toList (c :: tail)
      rcases exists_writeQuoted name.toList (c :: tail) with ⟨more, same⟩
      rw [same] at read
      rw [Selector.render, same, readSelector]
      simp [read, Except.map]
  | index i =>
      rcases startsInteger_intDigits i.toInt with ⟨first, digits, same, starts⟩
      have read := readInteger_intDigits i (stopsAt_of_endsBound tail ends)
      have notQuote : ¬(first = '\'' ∨ first = '"') := by
        rintro (quote | quote)
        · exact ne_of_startsInteger starts rfl quote
        · exact ne_of_startsInteger starts rfl quote
      rw [same, List.cons_append] at read
      rw [Selector.render, same, List.cons_append, readSelector]
      simp only [notQuote, starts, if_true, if_false, read, Except.map]

theorem skipBlanks_selector (selector : Selector) :
    skipBlanks (selector.render ++ tail) = selector.render ++ tail := by
  cases selector with
  | key name => rfl
  | index i =>
      rcases startsInteger_intDigits i.toInt with ⟨first, digits, same, starts⟩
      rw [Selector.render, same]
      exact skipBlanks_cons (isBlank_of_startsInteger starts) _

end Bounds

/-! ## Slices and unions -/

section Brackets

variable (tail : List Char)

/-- The text of the last bound of a slice, with its colon. -/
def renderStep : Option Int64 → List Char
  | some step => ':' :: intDigits step.toInt
  | none => []

/-- The texts of further selectors, each after a comma. -/
def renderSelectors (selectors : List Selector) : List Char :=
  selectors.flatMap fun selector => ',' :: selector.render

theorem separated_cons (selector : Selector) (selectors : List Selector) :
    separated [','] Selector.render (selector :: selectors) = selector.render ++ renderSelectors selectors := by
  induction selectors generalizing selector with
  | nil => simp [separated, renderSelectors]
  | cons second selectors ih =>
      rw [separated, ih]
      · simp [renderSelectors]
      · simp

theorem renderSelectors_head (selectors : List Selector) :
    ∃ c more, renderSelectors selectors ++ ']' :: tail = c :: more ∧ endsBound c = true := by
  cases selectors with
  | nil => exact ⟨_, _, rfl, rfl⟩
  | cons selector selectors => exact ⟨_, _, rfl, rfl⟩

theorem readSelectors_render (selectors : List Selector) {budget : Nat}
    (enough : selectors.length + 1 ≤ budget) :
    readSelectors budget (renderSelectors selectors ++ ']' :: tail) = .ok (selectors, ']' :: tail) := by
  induction selectors generalizing budget with
  | nil =>
      cases budget with
      | zero => simp at enough
      | succ budget => rfl
  | cons selector selectors ih =>
      cases budget with
      | zero => simp at enough
      | succ budget =>
          rcases renderSelectors_head tail selectors with ⟨c, more, same, ends⟩
          have readFirst := readSelector_render more selector ends
          have readOthers := ih (Nat.le_of_succ_le_succ enough)
          rw [same] at readOthers
          rw [renderSelectors, List.flatMap_cons, List.cons_append, List.cons_append, List.append_assoc,
            ← renderSelectors, same, readSelectors, skipBlanks_selector, readFirst, ok_bind]
          simp only [skipBlanks_of_endsBound more ends, readOthers, ok_bind]

theorem length_selectors_le (selectors : List Selector) :
    selectors.length ≤ (renderSelectors selectors ++ ']' :: tail).length := by
  induction selectors with
  | nil => exact Nat.zero_le _
  | cons selector selectors ih =>
      rw [renderSelectors, List.flatMap_cons, List.cons_append, List.cons_append, List.append_assoc,
        ← renderSelectors, List.length_cons, List.length_cons, List.length_append]
      omega

theorem closeBracket_cons (start : List Char) : closeBracket start (']' :: tail) = .ok tail := rfl

variable [RegexSyntax]

theorem readSlice_render (start stop step : Option Int64) :
    readSlice start (renderBound stop ++ renderStep step ++ ']' :: tail) =
      .ok (.slice start stop step, ']' :: tail) := by
  cases step with
  | none =>
      have readStop := readBound_render tail stop (c := ']') rfl
      rw [renderStep, List.append_nil, readSlice, readStop]
      rfl
  | some step =>
      have readStop := readBound_render (intDigits step.toInt ++ ']' :: tail) stop (c := ':') rfl
      have readStep := readBound_render tail (some step) (c := ']') rfl
      rw [renderBound] at readStep
      rw [renderStep, List.append_assoc, List.cons_append, readSlice, readStop, ok_bind]
      simp only [readStep, ok_bind]
      rfl

/-- A union is read back from its first comma on. -/
theorem readUnion_render (first : Selector) (selectors : List Selector) :
    readUnion first (renderSelectors selectors ++ ']' :: tail) =
      .ok (.union (first :: selectors), ']' :: tail) := by
  have enough := length_selectors_le tail selectors
  rw [readUnion, readSelectors_render tail selectors (by omega)]
  rfl

/-! ## Brackets -/

variable (start : List Char) (budget : Nat)

theorem readBracket_child (name : String) :
    readBracket (budget + 1) start (writeQuoted name.toList ++ ']' :: tail) = .ok (.child name, ']' :: tail) := by
  have read := readQuoted_writeQuoted name.toList (']' :: tail)
  rcases exists_writeQuoted name.toList (']' :: tail) with ⟨more, same⟩
  rw [same] at read
  rw [same, readBracket, skipBlanks_cons rfl]
  simp only
  rw [if_neg (by decide), if_pos (by decide), read, ok_bind]
  simp only [skipBlanks_of_endsBound tail (c := ']') rfl, String.ofList_toList]
  rfl

theorem readBracket_integer (i : Int64) {c : Char} (ends : endsBound c = true) :
    readBracket (budget + 1) start (intDigits i.toInt ++ c :: tail) =
      match c :: tail with
      | ':' :: rest => readSlice (some i) rest
      | ',' :: rest => readUnion (.index i) (',' :: rest)
      | rest => .ok (.nth i, rest) := by
  rcases startsInteger_intDigits i.toInt with ⟨first, digits, same, starts⟩
  have read := readInteger_intDigits i (stopsAt_of_endsBound tail ends)
  rw [same, List.cons_append] at read
  rw [same, List.cons_append, readBracket, skipBlanks_cons (isBlank_of_startsInteger starts)]
  have plain : ∀ other : Char, startsInteger other = false → first ≠ other :=
    fun _ => ne_of_startsInteger starts
  have notQuote : ¬(first = '\'' ∨ first = '"') := not_or.2 ⟨plain _ rfl, plain _ rfl⟩
  simp only
  rw [if_neg (plain ']' rfl), if_neg notQuote, if_neg (plain '*' rfl), if_neg (plain '?' rfl),
    if_neg (plain ':' rfl), if_pos starts, read, ok_bind]
  rcases endsBound_iff.1 ends with rfl | rfl | rfl <;> rfl

theorem readBracket_slice (first stop step : Option Int64) :
    readBracket (budget + 1) start
        (renderBound first ++ ':' :: (renderBound stop ++ renderStep step ++ ']' :: tail)) =
      .ok (.slice first stop step, ']' :: tail) := by
  have read := readSlice_render tail first stop step
  cases first with
  | none =>
      rw [renderBound, List.nil_append, readBracket, skipBlanks_cons rfl]
      exact read
  | some first =>
      rw [renderBound, readBracket_integer _ start budget first rfl]
      exact read

theorem readBracket_union (first second : Selector) (selectors : List Selector) :
    readBracket (budget + 1) start
        (separated [','] Selector.render (first :: second :: selectors) ++ ']' :: tail) =
      .ok (.union (first :: second :: selectors), ']' :: tail) := by
  have readUnion := readUnion_render tail first (second :: selectors)
  have others : ∃ more, renderSelectors (second :: selectors) ++ ']' :: tail = ',' :: more := ⟨_, rfl⟩
  rcases others with ⟨more, same⟩
  rw [separated_cons, List.append_assoc, same]
  rw [same] at readUnion
  cases first with
  | key name =>
      have read := readQuoted_writeQuoted name.toList (',' :: more)
      rcases exists_writeQuoted name.toList (',' :: more) with ⟨body, written⟩
      rw [written] at read
      rw [Selector.render, written, readBracket, skipBlanks_cons rfl]
      simp only
      rw [if_neg (by decide), if_pos (by decide), read, ok_bind]
      simp only [skipBlanks_of_endsBound more (c := ',') rfl, String.ofList_toList]
      exact readUnion
  | index i =>
      rw [Selector.render, readBracket_integer _ start budget i rfl]
      exact readUnion

end Brackets

end TreePath

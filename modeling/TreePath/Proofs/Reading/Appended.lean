import Mathlib.Data.List.TakeWhile
import TreePath.Proofs.Path.Spelling
import TreePath.Proofs.Script.Reading

/-!
# Reading in front of other text

A reader looks at no more of what it leaves than at the first character. So it takes the same from a text if something else
is put in place of what it leaves, as long as that begins with the same character or with one that cannot continue what was
read. Here the parts without paths and scripts are treated.
-/

namespace TreePath

/-! ## Text that makes no difference -/

/-- Whether a fragment other than the first one may begin here. -/
def startsFragment (c : Char) : Bool :=
  c == '.' || c == '[' || c == '*'

/-- Whether a character might continue a literal: a number or a word. -/
def continuesLiteral (c : Char) : Bool :=
  isNameCharacter c || c == '.'

/-- Whether a character might continue a literal or a path. -/
def continuesOperand (c : Char) : Bool :=
  isNameCharacter c || startsFragment c

/--
Text that a reader cannot tell from what it has left: it begins in the same way, or with a character that cannot continue what
was read. A point decides nothing alone, and so it must not come first.
-/
structure Alike (continues : Char → Bool) (rest other : List Char) : Prop where
  noPoint : stopsAt (· == '.') other = true
  sameHead : other.head? = rest.head? ∨ stopsAt continues other = true

/-- A reader takes the same from the beginning of a text, whatever stands there instead of the rest. -/
def Takes {α : Type} (continues : Char → Bool) (read : List Char → Except Fault (α × List Char)) (text : List Char)
    (value : α) (rest : List Char) : Prop :=
  ∃ used, text = used ++ rest ∧ used ≠ [] ∧
    ∀ other, Alike continues rest other → read (used ++ other) = .ok (value, other)

theorem stopsAt_of_head? {belongs : Char → Bool} {rest other : List Char} (same : other.head? = rest.head?)
    (stops : stopsAt belongs rest = true) : stopsAt belongs other = true := by
  cases other with
  | nil => rfl
  | cons c other =>
      cases rest with
      | nil => cases same
      | cons d rest =>
          rcases Option.some.inj same with rfl
          exact stops

/-- What stands in front of both decides, if there is anything. -/
theorem stopsAt_append_of_imp {belongs : Char → Bool} {front rest other : List Char}
    (stops : stopsAt belongs (front ++ rest) = true) (instead : stopsAt belongs rest = true → stopsAt belongs other = true) :
    stopsAt belongs (front ++ other) = true := by
  cases front with
  | nil => exact instead stops
  | cons c front => exact stops

theorem head?_append_of_ne_nil {front : List Char} (present : front ≠ []) (rest other : List Char) :
    (front ++ other).head? = (front ++ rest).head? := by
  cases front with
  | nil => exact absurd rfl present
  | cons c front => rfl

namespace Alike

variable {continues narrow : Char → Bool} {rest other : List Char}

theorem stopsAt (alike : Alike continues rest other) {belongs : Char → Bool}
    (belong : ∀ c, belongs c = true → continues c = true) (stops : stopsAt belongs rest = true) :
    stopsAt belongs other = true := by
  rcases alike.sameHead with same | stopsThere
  · exact stopsAt_of_head? same stops
  · exact stopsAt_of_imp belong stopsThere

theorem mono (alike : Alike continues rest other) (belong : ∀ c, narrow c = true → continues c = true) :
    Alike narrow rest other :=
  ⟨alike.noPoint, alike.sameHead.imp_right (stopsAt_of_imp belong)⟩

theorem of_head? (same : other.head? = rest.head?) (noPoint : TreePath.stopsAt (· == '.') rest = true) :
    Alike continues rest other :=
  ⟨stopsAt_of_head? same noPoint, .inl same⟩

theorem of_stopsAt (point : continues '.' = true) (stops : TreePath.stopsAt continues other = true) :
    Alike continues rest other := by
  refine ⟨stopsAt_of_imp ?_ stops, .inr stops⟩
  intro c isPoint
  rw [beq_iff_eq.1 isPoint]
  exact point

end Alike

theorem continuesLiteral_of_isNameCharacter (c : Char) (inside : isNameCharacter c = true) :
    continuesLiteral c = true := by
  rw [continuesLiteral, inside, Bool.true_or]

theorem continuesOperand_of_continuesLiteral (c : Char) (continues : continuesLiteral c = true) :
    continuesOperand c = true := by
  rw [continuesLiteral, Bool.or_eq_true] at continues
  rw [continuesOperand, startsFragment, Bool.or_eq_true, Bool.or_eq_true, Bool.or_eq_true]
  exact continues.imp_right fun point => .inl (.inl point)

theorem continuesOperand_of_startsFragment (c : Char) (starts : startsFragment c = true) :
    continuesOperand c = true := by
  rw [continuesOperand, starts, Bool.or_true]

theorem continuesOperand_of_startsBare (c : Char) (starts : startsBare c = true) : continuesOperand c = true := by
  rw [startsBare, Bool.or_eq_true] at starts
  rw [continuesOperand, startsFragment, Bool.or_eq_true, Bool.or_eq_true]
  exact starts.imp_right .inr

theorem isNameCharacter_of_isDigit (c : Char) (digit : isDigit c = true) : isNameCharacter c = true := by
  simp [isNameCharacter, digit]

theorem isNameCharacter_of_isWordPart (c : Char) (inside : isWordPart c = true) : isNameCharacter c = true := by
  rw [isWordPart, isAlphanumeric] at inside
  rw [isNameCharacter]
  by_cases ascii : c.toNat < 128
  · rw [if_pos ascii] at inside
    simp only [Bool.or_eq_true, beq_iff_eq] at inside
    rcases inside with (letter | digit) | rfl
    · simp [letter]
    · simp [digit]
    · rfl
  · simp [Nat.not_lt.1 ascii]

/-! ## What a class of characters takes -/

section Taking

variable {belongs : Char → Bool} {text tail : List Char}

/-- Where something is left of a text behind a class of characters, more text makes no difference to what the class takes. -/
theorem takeWhile_append_of_left (left : text.dropWhile belongs ≠ []) (tail : List Char) :
    (text ++ tail).takeWhile belongs = text.takeWhile belongs := by
  rw [List.takeWhile_append, if_neg]
  intro sameLength
  have all := List.takeWhile_eq_self_iff.1 ((List.takeWhile_prefix belongs).eq_of_length sameLength)
  exact left (List.dropWhile_eq_nil_iff.2 all)

theorem dropWhile_append_of_left (left : text.dropWhile belongs ≠ []) (tail : List Char) :
    (text ++ tail).dropWhile belongs = text.dropWhile belongs ++ tail := by
  rw [List.dropWhile_append, if_neg]
  rw [List.isEmpty_iff]
  exact left

/-- Where something other than blanks is left, more text makes no difference to the blanks that are skipped. -/
theorem skipBlanks_append_of_ne_nil (present : skipBlanks text ≠ []) (tail : List Char) :
    skipBlanks (text ++ tail) = skipBlanks text ++ tail :=
  dropWhile_append_of_left present tail

theorem skipBlanks_append_cons {blanks : List Char} (areBlanks : AreBlanks blanks) {c : Char} (plain : isBlank c = false)
    (rest : List Char) : skipBlanks (blanks ++ c :: rest) = c :: rest := by
  rw [skipBlanks_append areBlanks, skipBlanks_cons plain]

/-- Blanks in front of a text do not belong to what other characters make up. -/
theorem stopsAt_of_areBlanks {blanks rest : List Char} (outside : ∀ c, isBlank c = true → belongs c = false)
    (areBlanks : AreBlanks blanks) (stops : stopsAt belongs rest = true) : stopsAt belongs (blanks ++ rest) = true := by
  cases blanks with
  | nil => exact stops
  | cons c blanks =>
      rw [List.cons_append, stopsAt, outside c (areBlanks c List.mem_cons_self)]
      rfl

theorem stopsAt_point_of_areBlanks {blanks rest : List Char} (areBlanks : AreBlanks blanks)
    (stops : stopsAt (· == '.') rest = true) : stopsAt (· == '.') (blanks ++ rest) = true := by
  refine stopsAt_of_areBlanks (fun c blank => ?_) areBlanks stops
  rw [beq_eq_false_iff_ne]
  rintro rfl
  cases blank

theorem isWordPart_of_mem_blankCodes : ∀ code ∈ blankCodes, isWordPart (Char.ofNat code) = false := by
  decide +kernel

/-- A word ends at a blank. -/
theorem isWordPart_of_isBlank (c : Char) (blank : isBlank c = true) : isWordPart c = false := by
  rw [← Char.ofNat_toNat c]
  exact isWordPart_of_mem_blankCodes _ (mem_blankCodes blank)

end Taking

section Readers

variable {text rest : List Char}

/-! ## Numbers -/

theorem continuesLiteral_of_isDigit (c : Char) (digit : isDigit c = true) : continuesLiteral c = true :=
  continuesLiteral_of_isNameCharacter c (isNameCharacter_of_isDigit c digit)

/-- Whether a character begins an exponent. -/
def marksExponent (c : Char) : Bool :=
  c == 'e' || c == 'E'

theorem continuesLiteral_of_marksExponent (c : Char) (mark : marksExponent c = true) : continuesLiteral c = true := by
  rw [marksExponent, Bool.or_eq_true, beq_iff_eq, beq_iff_eq] at mark
  rcases mark with rfl | rfl <;> rfl

/-- A fraction ends in front of anything that is neither a digit nor a point. -/
theorem splitFraction_takes {fraction : Option (List Char)} (parts : splitFraction text = (fraction, rest)) :
    ∃ used, text = used ++ rest ∧ (stopsAt isDigit text = true → stopsAt isDigit rest = true) ∧
      ∀ other, stopsAt isDigit other = true → stopsAt (· == '.') other = true →
        splitFraction (used ++ other) = (fraction, other) ∧ stopsAt isDigit (used ++ other) = true := by
  have missing : ∃ used, rest = used ++ rest ∧ (stopsAt isDigit rest = true → stopsAt isDigit rest = true) ∧
      ∀ other, stopsAt isDigit other = true → stopsAt (· == '.') other = true →
        splitFraction (used ++ other) = (none, other) ∧ stopsAt isDigit (used ++ other) = true :=
    ⟨[], rfl, id, fun other stops noPoint => ⟨splitFraction_of_stopsAt noPoint, stops⟩⟩
  unfold splitFraction at parts
  split at parts
  · rename_i more
    simp only at parts
    split at parts
    · rcases Prod.mk.inj parts with ⟨rfl, rfl⟩
      exact missing
    · rename_i present
      rw [List.isEmpty_iff] at present
      rcases Prod.mk.inj parts with ⟨rfl, rfl⟩
      rw [drop_length_takeWhile]
      refine ⟨'.' :: more.takeWhile isDigit, ?_, fun _ => stopsAt_dropWhile _ _, ?_⟩
      · rw [List.cons_append, List.takeWhile_append_dropWhile]
      · intro other stops _
        exact ⟨splitFraction_append other present (List.all_eq_true.1 List.all_takeWhile) stops, rfl⟩
  · rcases Prod.mk.inj parts with ⟨rfl, rfl⟩
    exact missing

/-- The sign of an exponent, and the rest. -/
def splitSign : List Char → Bool × List Char
  | '+' :: rest => (false, rest)
  | '-' :: rest => (true, rest)
  | rest => (false, rest)

theorem splitExponent_cons {c : Char} (mark : c = 'e' ∨ c = 'E') (text : List Char) :
    splitExponent (c :: text) =
      (some ((splitSign text).1, (splitSign text).2.takeWhile isDigit),
        (splitSign text).2.drop ((splitSign text).2.takeWhile isDigit).length) := by
  rw [splitExponent.eq_def]
  simp only [mark, if_true]
  rfl

/-- The sign in front of digits does not depend on what is behind them. -/
theorem splitSign_takes {text : List Char} (present : (splitSign text).2.takeWhile isDigit ≠ []) :
    ∃ sign, text = sign ++ (splitSign text).2 ∧ ∀ digits other, digits ≠ [] → (∀ c ∈ digits, isDigit c = true) →
      splitSign (sign ++ digits ++ other) = ((splitSign text).1, digits ++ other) := by
  have unsigned : ∀ digits other : List Char, digits ≠ [] → (∀ c ∈ digits, isDigit c = true) →
      splitSign ([] ++ digits ++ other) = (false, digits ++ other) := by
    intro digits other filled all
    cases digits with
    | nil => exact absurd rfl filled
    | cons d digits =>
        have digit := all d List.mem_cons_self
        unfold splitSign
        split
        · rename_i same
          rw [(List.cons.inj same).1] at digit
          cases digit
        · rename_i same
          rw [(List.cons.inj same).1] at digit
          cases digit
        · rfl
  unfold splitSign at present ⊢
  split
  · exact ⟨['+'], rfl, fun _ _ _ _ => rfl⟩
  · exact ⟨['-'], rfl, fun _ _ _ _ => rfl⟩
  · exact ⟨[], rfl, unsigned⟩

theorem splitExponent_of_stopsAt_marksExponent (noMark : stopsAt marksExponent text = true) :
    splitExponent text = (none, text) := by
  cases text with
  | nil => rfl
  | cons c text =>
      rw [stopsAt, Bool.not_eq_true', marksExponent, Bool.or_eq_false_iff, beq_eq_false_iff_ne,
        beq_eq_false_iff_ne] at noMark
      rw [splitExponent.eq_def]
      exact if_neg (not_or.2 noMark)

/-- An exponent with digits ends in front of anything that is no digit; there is none in front of other characters. -/
theorem splitExponent_takes {exponent : Option (Bool × List Char)} (parts : splitExponent text = (exponent, rest))
    (filled : ∀ negative, exponent ≠ some (negative, [])) :
    ∃ used, text = used ++ rest ∧ (exponent = none → stopsAt marksExponent rest = true) ∧
      (stopsAt isDigit text = true → stopsAt isDigit rest = true) ∧
      ∀ other, stopsAt isDigit other = true → stopsAt (· == '.') other = true →
        (exponent = none → stopsAt marksExponent other = true) →
          splitExponent (used ++ other) = (exponent, other) ∧ stopsAt isDigit (used ++ other) = true ∧
            stopsAt (· == '.') (used ++ other) = true := by
  by_cases noMark : stopsAt marksExponent text = true
  · rw [splitExponent_of_stopsAt_marksExponent noMark] at parts
    rcases Prod.mk.inj parts with ⟨rfl, rfl⟩
    refine ⟨[], rfl, fun _ => noMark, id, ?_⟩
    intro other stops noPoint noMarkThere
    exact ⟨splitExponent_of_stopsAt_marksExponent (noMarkThere rfl), stops, noPoint⟩
  · cases text with
    | nil => exact absurd rfl noMark
    | cons c text =>
        have mark : c = 'e' ∨ c = 'E' := by simpa [stopsAt, marksExponent, imp_iff_not_or] using noMark
        rw [splitExponent_cons mark] at parts
        rcases Prod.mk.inj parts with ⟨rfl, rfl⟩
        have present : (splitSign text).2.takeWhile isDigit ≠ [] := fun empty => filled _ (by rw [empty])
        have digits : ∀ d ∈ (splitSign text).2.takeWhile isDigit, isDigit d = true :=
          List.all_eq_true.1 List.all_takeWhile
        rcases splitSign_takes present with ⟨sign, whole, again⟩
        rw [drop_length_takeWhile]
        refine ⟨c :: (sign ++ (splitSign text).2.takeWhile isDigit), ?_, ?_, fun _ => stopsAt_dropWhile _ _, ?_⟩
        · conv => lhs; rw [whole]
          rw [List.cons_append, List.append_assoc, List.takeWhile_append_dropWhile]
        · intro missing
          cases missing
        · intro other stops _ _
          have outside : isDigit c = false ∧ c ≠ '.' := by
            rcases mark with rfl | rfl <;> exact ⟨rfl, by decide⟩
          refine ⟨?_, by simp [stopsAt, outside.1], by simp [stopsAt, outside.2]⟩
          rw [List.cons_append, splitExponent_cons mark, again _ other present digits]
          simp only [takeWhile_append_of_stopsAt digits stops, List.drop_left]

theorem exists_digit_of_startsNumeric (numeric : startsNumeric text = true) :
    ∃ negative c more, text = signText negative ++ c :: more ∧ isDigit c = true := by
  unfold startsNumeric at numeric
  split at numeric
  · rename_i c more
    exact ⟨true, c, more, rfl, numeric⟩
  · rename_i c more _
    exact ⟨false, c, more, rfl, numeric⟩
  · cases numeric

theorem ne_nil_of_splitInteger (numeric : startsNumeric text = true) {negative : Bool} {digits : List Char}
    (parts : splitInteger text = (negative, digits, rest)) : digits ≠ [] := by
  rcases exists_digit_of_startsNumeric numeric with ⟨sign, c, more, rfl, digit⟩
  have taken : (c :: more).takeWhile isDigit ≠ [] := by
    rw [List.takeWhile_cons, if_pos digit]
    exact List.cons_ne_nil _ _
  have known := splitInteger_append sign ((c :: more).dropWhile isDigit) taken
    (List.all_eq_true.1 List.all_takeWhile) (stopsAt_dropWhile isDigit (c :: more))
  rw [List.append_assoc, List.takeWhile_append_dropWhile, parts] at known
  rcases Prod.mk.inj known with ⟨-, known⟩
  rw [(Prod.mk.inj known).1]
  exact taken

theorem floatOf?_of_no_digits (negative down : Bool) (whole fraction : List Char) :
    floatOf? negative whole fraction (some (down, [])) = none :=
  rfl

theorem readNumeric_takes {number : Numeric} (numeric : startsNumeric text = true)
    (read : readNumeric text = .ok (number, rest)) :
    ∃ used, text = used ++ rest ∧ (∀ other, startsNumeric (used ++ other) = true) ∧
      ∀ other, Alike continuesLiteral rest other → readNumeric (used ++ other) = .ok (number, other) := by
  rcases integer : splitInteger text with ⟨negative, whole, afterWhole⟩
  rcases fractional : splitFraction afterWhole with ⟨fraction, afterFraction⟩
  rcases exponential : splitExponent afterFraction with ⟨exponent, left⟩
  have present := ne_nil_of_splitInteger numeric integer
  rcases eq_of_splitInteger integer with ⟨rfl, all, stopsWhole⟩
  unfold readNumeric at read
  simp only [integer, fractional, exponential] at read
  split at read
  · rename_i found
    rcases Prod.mk.inj (Except.ok.inj read) with ⟨rfl, rfl⟩
    have filled : ∀ down, exponent ≠ some (down, []) := by
      rintro down rfl
      simp [floatOf?_of_no_digits] at found
    rcases splitFraction_takes fractional with ⟨usedFraction, rfl, stopsFraction, fractionAgain⟩
    rcases splitExponent_takes exponential filled with ⟨usedExponent, rfl, noExponent, stopsExponent, exponentAgain⟩
    refine ⟨signText negative ++ whole ++ (usedFraction ++ usedExponent), by simp, fun other => ?_, fun other alike => ?_⟩
    · rcases List.exists_cons_of_ne_nil present with ⟨digit, more, rfl⟩
      rw [List.append_assoc, List.append_assoc]
      exact startsNumeric_signText negative (all digit List.mem_cons_self) _
    have stops : stopsAt isDigit other = true :=
      alike.stopsAt continuesLiteral_of_isDigit (stopsExponent (stopsFraction stopsWhole))
    have noMark : exponent = none → stopsAt marksExponent other = true :=
      fun missing => alike.stopsAt continuesLiteral_of_marksExponent (noExponent missing)
    rcases exponentAgain other stops alike.noPoint noMark with ⟨readExponent, stopsThere, noPoint⟩
    rcases fractionAgain _ stopsThere noPoint with ⟨readFraction, stopsThere⟩
    have readWhole := splitInteger_append negative _ present all stopsThere
    simp only [readNumeric, List.append_assoc] at readWhole ⊢
    simp only [readWhole, readFraction, readExponent, found]
  · cases read

theorem readNumericOperand_takes [RegexSyntax] {equation : Equation} (numeric : startsNumeric text = true)
    (read : readNumericOperand text = .ok (equation, rest)) :
    ∃ used, text = used ++ rest ∧ (∀ other, startsNumeric (used ++ other) = true) ∧
      ∀ other, Alike continuesLiteral rest other → readNumericOperand (used ++ other) = .ok (equation, other) := by
  unfold readNumericOperand at read
  split at read
  · rename_i found
    rcases Prod.mk.inj (Except.ok.inj read) with ⟨rfl, rfl⟩
    rcases readNumeric_takes numeric found with ⟨used, same, begins, again⟩
    exact ⟨used, same, begins, fun other alike => by rw [readNumericOperand, again other alike]⟩
  · rename_i found
    rcases Prod.mk.inj (Except.ok.inj read) with ⟨rfl, rfl⟩
    rcases readNumeric_takes numeric found with ⟨used, same, begins, again⟩
    exact ⟨used, same, begins, fun other alike => by rw [readNumericOperand, again other alike]⟩
  · cases read

/-! ## Texts between marks -/

theorem readQuoted_takes {quote : Char} {name : List Char} (isQuote : quote = '\'' ∨ quote = '"')
    (read : readQuoted quote (quote :: text) = .ok (name, rest)) (continues : Char → Bool) :
    Takes continues (readQuoted quote) (quote :: text) name rest := by
  rcases exists_isQuotedSpelling (ne_backslash isQuote) read with ⟨body, spelled, same⟩
  rw [List.drop_one, List.tail_cons] at same
  refine ⟨quote :: (body ++ [quote]), by simp [same], List.cons_ne_nil _ _, ?_⟩
  intro other _
  have read := readQuoted_of_isQuotedSpelling isQuote spelled other
  simpa using read

theorem readSlashedBody_takes {start source : List Char} (read : readSlashedBody start text = .ok (source, rest)) :
    ∃ used, text = used ++ rest ∧
      ∀ start other, readSlashedBody start (used ++ other) = .ok (source, other) := by
  induction text using readSlashedBody.induct generalizing source rest with
  | case1 => cases read
  | case2 more =>
      rw [readSlashedBody_slash] at read
      rcases Prod.mk.inj (Except.ok.inj read) with ⟨rfl, rfl⟩
      exact ⟨['/'], rfl, fun start other => readSlashedBody_slash start other⟩
  | case3 => simp [readSlashedBody] at read
  | case4 escaped more _ ih =>
      rw [readSlashedBody_escape] at read
      rcases map_eq_ok.1 read with ⟨⟨others, left⟩, found, same⟩
      rcases Prod.mk.inj same with ⟨rfl, rfl⟩
      rcases ih found with ⟨used, rfl, again⟩
      refine ⟨'\\' :: escaped :: used, rfl, ?_⟩
      intro start other
      rw [List.cons_append, List.cons_append, readSlashedBody_escape, again]
      rfl
  | case5 c more notSlash notBackslash ih =>
      rw [readSlashedBody_plain _ _ notSlash notBackslash] at read
      rcases map_eq_ok.1 read with ⟨⟨others, left⟩, found, same⟩
      rcases Prod.mk.inj same with ⟨rfl, rfl⟩
      rcases ih found with ⟨used, rfl, again⟩
      refine ⟨c :: used, rfl, ?_⟩
      intro start other
      rw [List.cons_append, readSlashedBody_plain _ _ notSlash notBackslash, again]
      rfl

theorem readPattern_takes [RegexSyntax] {c : Char} {equation : Equation} (read : readPattern (c :: text) = .ok (equation, rest))
    (continues : Char → Bool) : Takes continues readPattern (c :: text) equation rest := by
  unfold readPattern at read
  rcases bind_eq_ok.1 read with ⟨⟨source, left⟩, slashed, read⟩
  rcases readSlashedBody_takes slashed with ⟨used, same, again⟩
  rw [List.drop_one, List.tail_cons] at same
  simp only at read
  split at read
  · rename_i pattern made
    rcases Prod.mk.inj (Except.ok.inj read) with ⟨rfl, rfl⟩
    refine ⟨c :: used, by rw [same]; rfl, List.cons_ne_nil _ _, ?_⟩
    intro other _
    have read : readSlashed (c :: used ++ other) = .ok (source, other) := again _ other
    rw [readPattern, read, ok_bind]
    simp only [made]
  · cases read

/-! ## Names without quotes -/

theorem stopsAt_startsBare_of_readBare? [RegexSyntax] (missing : readBare? text = none) : stopsAt startsBare text = true := by
  unfold readBare? at missing
  split at missing
  · cases missing
  · rename_i notStar
    simp only at missing
    split at missing
    · rename_i empty
      cases text with
      | nil => rfl
      | cons c text =>
          rw [List.isEmpty_iff, List.takeWhile_cons] at empty
          have plain : ¬isNameCharacter c = true := by
            intro inside
            rw [if_pos inside] at empty
            cases empty
          have other : c ≠ '*' := by
            rintro rfl
            exact notStar text rfl
          simp [stopsAt, startsBare, plain, other]
    · cases missing

/-- A name ends in front of anything that is no part of one; nothing ends a wildcard. -/
theorem readBare?_takes [RegexSyntax] {fragment : Fragment Script} (read : readBare? text = some (fragment, rest)) :
    ∃ used, text = used ++ rest ∧ used ≠ [] ∧
      ∀ other, (stopsAt isNameCharacter rest = true → stopsAt isNameCharacter other = true) →
        readBare? (used ++ other) = some (fragment, other) := by
  rcases readBare?_eq_some.1 read with ⟨used, isBare, rfl⟩
  refine ⟨used, rfl, List.length_pos_iff.1 (length_pos_of_isBareSpelling isBare), ?_⟩
  intro other instead
  refine readBare?_eq_some.2 ⟨used, ?_, rfl⟩
  cases fragment with
  | wildcard => exact isBare
  | child name => exact ⟨isBare.1, isBare.2.1, instead isBare.2.2⟩
  | _ => exact isBare.elim

/-! ## Words, operators and single characters -/

theorem splitWord_takes (text : List Char) :
    text = (splitWord text).1 ++ (splitWord text).2 ∧ stopsAt isWordPart (splitWord text).2 = true ∧
      ∀ other, stopsAt isWordPart other = true →
        splitWord ((splitWord text).1 ++ other) = ((splitWord text).1, other) := by
  have inside : ∀ c ∈ (splitWord text).1, isWordPart c = true := List.all_eq_true.1 List.all_takeWhile
  have rest_eq : (splitWord text).2 = text.dropWhile isWordPart := drop_length_takeWhile _ _
  refine ⟨?_, ?_, fun other stops => splitWord_append inside stops⟩
  · rw [rest_eq]
    exact List.takeWhile_append_dropWhile.symm
  · rw [rest_eq]
    exact stopsAt_dropWhile _ _

theorem splitWord_ne_nil {c : Char} (inside : isWordPart c = true) : (splitWord (c :: text)).1 ≠ [] := by
  rw [splitWord]
  simp only
  rw [List.takeWhile_cons, if_pos inside]
  exact List.cons_ne_nil _ _

/-- An expected character stands behind blanks. -/
theorem exists_expected {expected : Char} (read : expectChar expected text = .ok rest) :
    ∃ blanks, AreBlanks blanks ∧ text = blanks ++ expected :: rest := by
  rcases exists_blanks text with ⟨blanks, areBlanks, whole⟩
  unfold expectChar at read
  generalize skipBlanks text = left at read whole
  split at read
  · cases read
  · split at read
    · rename_i same
      rcases same with rfl
      rcases Except.ok.inj read with rfl
      exact ⟨blanks, areBlanks, whole⟩
    · cases read

theorem expectChar_blanks {blanks : List Char} (areBlanks : AreBlanks blanks) {expected : Char}
    (plain : isBlank expected = false) (rest : List Char) :
    expectChar expected (blanks ++ expected :: rest) = .ok rest := by
  rw [expectChar, skipBlanks_append_cons areBlanks plain]
  exact if_pos rfl

theorem closeBracket_blanks {blanks : List Char} (areBlanks : AreBlanks blanks) (start rest : List Char) :
    closeBracket start (blanks ++ ']' :: rest) = .ok rest := by
  rw [closeBracket, skipBlanks_append_cons areBlanks rfl]
  exact if_pos rfl

/-! ## Operators as they are written -/

/-- The ways to write an infix operator. -/
def Operator.IsWritten (operator : Operator) (name : List Char) : Prop :=
  name = operator.name.toList ∨ operator = .finds ∧ name = ['~', '=']

theorem Operator.IsWritten.ne_nil {operator : Operator} {name : List Char} (written : operator.IsWritten name) :
    name ≠ [] := by
  rcases written with rfl | ⟨-, rfl⟩
  · cases operator <;> exact List.cons_ne_nil _ _
  · exact List.cons_ne_nil _ _

/-- A token that means an operator is written as one: as its first character and what was used behind that. -/
def Token.IsWritten (token : Token) (name : List Char) : Prop :=
  ∀ operator, token.operator? = some operator → operator.IsWritten name

theorem Token.isWritten_of_operator? {token : Token} {operator : Operator} {name : List Char}
    (means : token.operator? = some operator) (written : operator.IsWritten name) : token.IsWritten name := by
  intro other meansOther
  rcases Option.some.inj (means.symm.trans meansOther) with rfl
  exact written

theorem Token.isWritten_word (word : String) : (Token.word word).IsWritten word.toList := by
  intro operator means
  rw [operator?, Operator.word?] at means
  left
  repeat' split at means
  all_goals cases means
  all_goals
    rename_i same
    rw [same]
    rfl

/--
A reader of a mark behind the character `c` takes the same in front of text that begins with the same character. Its token is
written as what was taken.
-/
def TakesMark (c : Char) (read : List Char → Except Fault (Token × List Char)) (text : List Char) : Prop :=
  ∀ token rest, read text = .ok (token, rest) → ∃ used, text = used ++ rest ∧ token.IsWritten (c :: used) ∧
    ∀ other, other.head? = rest.head? → read (used ++ other) = .ok (token, other)

section Marks

variable {c : Char} {token : Token} {first second : List Char → Except Fault (Token × List Char)}

theorem takesMark_ite (condition : Option Char → Prop) [DecidablePred condition]
    (holds : condition text.head? → TakesMark c first text) (fails : TakesMark c second text) :
    TakesMark c (fun text => if condition text.head? then first text else second text) text := by
  intro token rest read
  have sameHead {used other : List Char} (whole : text = used ++ rest) (same : other.head? = rest.head?) :
      (used ++ other).head? = text.head? := by
    rw [whole, List.head?_append, List.head?_append, same]
  simp only at read ⊢
  by_cases met : condition text.head?
  · rw [if_pos met] at read
    rcases holds met token rest read with ⟨used, whole, written, again⟩
    exact ⟨used, whole, written, fun other same => by rw [sameHead whole same, if_pos met, again other same]⟩
  · rw [if_neg met] at read
    rcases fails token rest read with ⟨used, whole, written, again⟩
    exact ⟨used, whole, written, fun other same => by rw [sameHead whole same, if_neg met, again other same]⟩

theorem takesMark_all (written : token.IsWritten [c]) : TakesMark c (fun text => .ok (token, text)) text := by
  intro found rest read
  rcases Prod.mk.inj (Except.ok.inj read) with ⟨rfl, rfl⟩
  exact ⟨[], rfl, written, fun other _ => rfl⟩

theorem takesMark_drop {mark : Char} (next : text.head? = some mark) (written : token.IsWritten [c, mark]) :
    TakesMark c (fun text => .ok (token, text.drop 1)) text := by
  intro found rest read
  rcases Prod.mk.inj (Except.ok.inj read) with ⟨rfl, rfl⟩
  rcases List.head?_eq_some_iff.1 next with ⟨more, rfl⟩
  exact ⟨[mark], rfl, written, fun other _ => rfl⟩

theorem takesMark_error {fault : List Char → Fault} : TakesMark c (fun text => .error (fault text)) text := by
  intro found rest read
  cases read

end Marks

theorem readMark_takes (c : Char) : TakesMark c (readMark c) text := by
  have one {token : Token} {operator : Operator} {mark : Char} (same : c = mark) (means : token.operator? = some operator)
      (written : operator.IsWritten [mark]) : token.IsWritten [c] :=
    Token.isWritten_of_operator? means (same ▸ written)
  have two {token : Token} {operator : Operator} {mark next : Char} (same : c = mark)
      (means : token.operator? = some operator) (written : operator.IsWritten [mark, next]) : token.IsWritten [c, next] :=
    Token.isWritten_of_operator? means (same ▸ written)
  refine takesMark_ite (fun _ => c = '+') (fun same => takesMark_all (one same rfl (.inl rfl))) ?_
  refine takesMark_ite (fun _ => c = '-') (fun same => takesMark_all (one same rfl (.inl rfl))) ?_
  refine takesMark_ite (fun _ => c = '*') (fun same => takesMark_all (one same rfl (.inl rfl))) ?_
  refine takesMark_ite (fun _ => c = '/') (fun same => takesMark_all (one same rfl (.inl rfl))) ?_
  refine takesMark_ite (fun _ => c = '=') (fun same => ?_) ?_
  · refine takesMark_ite (· = some '=') (fun next => takesMark_drop next (two same rfl (.inl rfl))) ?_
    exact takesMark_ite (· = some '~') (fun next => takesMark_drop next (two same rfl (.inl rfl))) takesMark_error
  refine takesMark_ite (fun next => c = '~' ∧ next = some '=')
    (fun both => takesMark_drop both.2 (two both.1 rfl (.inr ⟨rfl, rfl⟩))) ?_
  refine takesMark_ite (fun _ => c = '!') (fun same => ?_) ?_
  · refine takesMark_ite (· = some '=') (fun next => takesMark_drop next (two same rfl (.inl rfl))) ?_
    exact takesMark_all fun operator means => nomatch means
  refine takesMark_ite (fun _ => c = '<') (fun same => ?_) ?_
  · refine takesMark_ite (· = some '=') (fun next => takesMark_drop next (two same rfl (.inl rfl))) ?_
    exact takesMark_all (one same rfl (.inl rfl))
  refine takesMark_ite (fun _ => c = '>') (fun same => ?_) ?_
  · refine takesMark_ite (· = some '=') (fun next => takesMark_drop next (two same rfl (.inl rfl))) ?_
    exact takesMark_all (one same rfl (.inl rfl))
  refine takesMark_ite (fun next => c = '&' ∧ next = some '&')
    (fun both => takesMark_drop both.2 (two both.1 rfl (.inl rfl))) ?_
  exact takesMark_ite (fun next => c = '|' ∧ next = some '|')
    (fun both => takesMark_drop both.2 (two both.1 rfl (.inl rfl))) takesMark_error

/-- A token that writes an operator is the same in front of text that begins with the same character. -/
theorem readToken_takes {c : Char} (notBlank : isBlank c = false) {token : Token}
    (read : readToken (c :: text) = .ok (token, rest)) (isOperator : token.operator? ≠ none) :
    ∃ used, text = used ++ rest ∧ token.IsWritten (c :: used) ∧
      ∀ other, other.head? = rest.head? → readToken (c :: (used ++ other)) = .ok (token, other) := by
  rw [readToken, skipBlanks_cons notBlank] at read
  simp only at read
  split at read
  · split at read
    · rcases Prod.mk.inj (Except.ok.inj read) with ⟨rfl, rfl⟩
      exact absurd rfl isOperator
    · rcases Prod.mk.inj (Except.ok.inj read) with ⟨rfl, rfl⟩
      exact absurd rfl isOperator
    · cases read
  · rename_i notDigit
    have again (more : List Char) : readToken (c :: more) =
        if (isLetter c || c == '_') = true then
          .ok (.word (String.ofList (splitWord (c :: more)).1), (splitWord (c :: more)).2)
        else readMark c more := by
      rw [readToken, skipBlanks_cons notBlank]
      simp only
      rw [if_neg notDigit]
    split at read
    · rename_i inWord
      rcases Prod.mk.inj (Except.ok.inj read) with ⟨rfl, rfl⟩
      have inside := isWordPart_of_begins inWord
      rcases splitWord_takes (c :: text) with ⟨whole, stops, readAgain⟩
      rcases List.exists_cons_of_ne_nil (@splitWord_ne_nil text c inside) with ⟨d, word, isWord⟩
      have written := Token.isWritten_word (String.ofList (splitWord (c :: text)).1)
      rw [String.toList_ofList] at written
      rw [isWord] at whole readAgain written ⊢
      rcases List.cons.inj whole with ⟨rfl, behind⟩
      refine ⟨word, behind, written, ?_⟩
      intro other same
      rw [again, if_pos inWord, ← List.cons_append, readAgain other (stopsAt_of_head? same stops)]
    · rename_i notWord
      rcases readMark_takes c token rest read with ⟨used, whole, written, readAgain⟩
      refine ⟨used, whole, written, ?_⟩
      intro other same
      rw [again, if_neg notWord, readAgain other same]

/-- An operator is the same in front of text that begins with the same character, and it does not begin with a point. -/
theorem readOperator_takes {operator : Operator} (read : readOperator text = .ok (some (operator, rest))) :
    ∃ blanks name, AreBlanks blanks ∧ operator.IsWritten name ∧ text = blanks ++ (name ++ rest) ∧
      stopsAt (· == '.') text = true ∧
        ∀ other, other.head? = rest.head? → readOperator (name ++ other) = .ok (some (operator, other)) := by
  rcases exists_blanks text with ⟨blanks, areBlanks, whole⟩
  have notBlank : stopsAt isBlank (skipBlanks text) = true := stopsAt_dropWhile isBlank text
  rw [readOperator] at read
  generalize skipBlanks text = opened at read whole notBlank
  cases opened with
  | nil => cases read
  | cons c inner =>
      rw [stopsAt, Bool.not_eq_true'] at notBlank
      simp only at read
      split at read
      · rename_i begins
        rcases bind_eq_ok.1 read with ⟨⟨token, left⟩, readFirst, found⟩
        rcases Option.map_eq_some_iff.1 (Except.ok.inj found) with ⟨means, isOperator, same⟩
        rcases Prod.mk.inj same with ⟨rfl, rfl⟩
        rcases readToken_takes notBlank readFirst (by simp [isOperator]) with ⟨used, rfl, written, again⟩
        refine ⟨blanks, c :: used, areBlanks, written _ isOperator, whole, ?_, ?_⟩
        · rw [whole]
          apply stopsAt_point_of_areBlanks areBlanks
          have notPoint : c ≠ '.' := by
            rintro rfl
            cases begins
          simp [stopsAt, notPoint]
        · intro other same
          rw [List.cons_append, readOperator, skipBlanks_cons notBlank]
          simp only
          rw [if_pos begins, again other same, ok_bind]
          simp only [isOperator, Option.map_some]
      · cases read

/-- Compiling a literal depends on the place of the operator only where it fails. -/
theorem compileLiteral_eq_ok [RegexSyntax] {anchored : Bool} {start : List Char} {raw compiled : Equation}
    (compiles : compileLiteral anchored start raw = .ok compiled) (other : List Char) :
    compileLiteral anchored other raw = .ok compiled := by
  unfold compileLiteral at compiles ⊢
  split at compiles
  · rename_i pattern
    cases made : Pattern.ofSource? pattern.source anchored pattern.slashed with
    | none => simp [made] at compiles
    | some compiledPattern =>
        simp only [made] at compiles ⊢
        exact compiles
  · rename_i source
    cases made : Pattern.ofSource? source anchored false with
    | none => simp [made] at compiles
    | some compiledPattern =>
        simp only [made] at compiles ⊢
        exact compiles
  · exact compiles

end Readers

end TreePath

import TreePath.Proofs.Path.Bracket

/-!
# How the parts of a path may be spelled

The grammar of the parts of a path that holds no filter, and the readers of those parts. A reader accepts a spelling where
nothing behind it could continue it, and whatever a reader has read was a spelling of what it yields.
-/

namespace TreePath

/-! ## What a class of characters takes -/

section Taking

variable (belongs : Char → Bool) (text : List Char)

theorem drop_length_takeWhile : text.drop (text.takeWhile belongs).length = text.dropWhile belongs := by
  have whole := List.prefix_iff_eq_append.1 (List.takeWhile_prefix (l := text) belongs)
  exact List.append_cancel_left (whole.trans List.takeWhile_append_dropWhile.symm)

theorem stopsAt_dropWhile : stopsAt belongs (text.dropWhile belongs) = true := by
  have outside := List.head?_dropWhile_not belongs text
  cases left : text.dropWhile belongs with
  | nil => rfl
  | cons c rest =>
      rw [left] at outside
      rw [stopsAt, outside]
      rfl

end Taking

/-! ## Blanks -/

/-- Whether a text consists of blanks alone. -/
def AreBlanks (text : List Char) : Prop :=
  ∀ c ∈ text, isBlank c = true

/-- Whether a text is a spelling with blanks before and after it. -/
def IsPadded (spells : List Char → Prop) (text : List Char) : Prop :=
  ∃ before inner after, AreBlanks before ∧ spells inner ∧ AreBlanks after ∧ text = before ++ inner ++ after

theorem areBlanks_nil : AreBlanks [] := by
  intro c member
  cases member

theorem AreBlanks.append {before after : List Char} (first : AreBlanks before) (second : AreBlanks after) :
    AreBlanks (before ++ after) := by
  intro c member
  rcases List.mem_append.1 member with inFirst | inSecond
  · exact first c inFirst
  · exact second c inSecond

theorem skipBlanks_append {blanks : List Char} (areBlanks : AreBlanks blanks) (rest : List Char) :
    skipBlanks (blanks ++ rest) = skipBlanks rest :=
  List.dropWhile_append_of_pos areBlanks

theorem skipBlanks_of_stopsAt {rest : List Char} (stops : stopsAt isBlank rest = true) : skipBlanks rest = rest := by
  cases rest with
  | nil => rfl
  | cons c rest =>
      rw [stopsAt, Bool.not_eq_true'] at stops
      exact skipBlanks_cons stops rest

/-- The blanks that are skipped stand in front of what is left. -/
theorem exists_blanks (text : List Char) : ∃ blanks, AreBlanks blanks ∧ text = blanks ++ skipBlanks text :=
  ⟨text.takeWhile isBlank, List.all_eq_true.1 List.all_takeWhile, List.takeWhile_append_dropWhile.symm⟩

section Padding

variable {spells : List Char → Prop} {text : List Char}

theorem IsPadded.self (spelled : spells text) : IsPadded spells text :=
  ⟨[], text, [], areBlanks_nil, spelled, areBlanks_nil, by simp⟩

theorem IsPadded.prepend {blanks : List Char} (areBlanks : AreBlanks blanks) (padded : IsPadded spells text) :
    IsPadded spells (blanks ++ text) := by
  rcases padded with ⟨before, inner, after, beforeBlank, spelled, afterBlank, rfl⟩
  exact ⟨blanks ++ before, inner, after, areBlanks.append beforeBlank, spelled, afterBlank, by simp⟩

theorem IsPadded.append {blanks : List Char} (padded : IsPadded spells text) (areBlanks : AreBlanks blanks) :
    IsPadded spells (text ++ blanks) := by
  rcases padded with ⟨before, inner, after, beforeBlank, spelled, afterBlank, rfl⟩
  exact ⟨before, inner, after ++ blanks, beforeBlank, spelled, afterBlank.append areBlanks, by simp⟩

end Padding

/-- The code points of the blanks. -/
def blankCodes : List Nat :=
  Text.blankRanges.flatMap fun range => List.range' range.1 (range.2 + 1 - range.1)

theorem mem_blankCodes {c : Char} (blank : isBlank c = true) : c.toNat ∈ blankCodes := by
  rcases Text.exists_mem_of_covers blank with ⟨range, member, lower, upper⟩
  refine List.mem_flatMap.2 ⟨range, member, List.mem_range'_1.2 ⟨lower, ?_⟩⟩
  omega

theorem continuesNumeral_of_mem_blankCodes :
    ∀ code ∈ blankCodes, continuesNumeral (Char.ofNat code) = false := by
  decide +kernel

/-- A numeral ends at a blank. -/
theorem continuesNumeral_of_isBlank {c : Char} (blank : isBlank c = true) : continuesNumeral c = false := by
  rw [← Char.ofNat_toNat c]
  exact continuesNumeral_of_mem_blankCodes _ (mem_blankCodes blank)

theorem stopsAt_append_of_areBlanks {blanks rest : List Char} (areBlanks : AreBlanks blanks)
    (stops : stopsAt continuesNumeral rest = true) : stopsAt continuesNumeral (blanks ++ rest) = true := by
  cases blanks with
  | nil => exact stops
  | cons c blanks =>
      rw [List.cons_append, stopsAt, continuesNumeral_of_isBlank (areBlanks c List.mem_cons_self)]
      rfl

/-! ## Names between quotes -/

/-- How the characters of a name may be spelled between quotes: as they are, or by an escape. -/
inductive IsQuotedSpelling (quote : Char) : List Char → List Char → Prop where
  | nil : IsQuotedSpelling quote [] []
  | plain {c : Char} {name text : List Char} : c ≠ quote → c ≠ '\\' → IsQuotedSpelling quote name text →
      IsQuotedSpelling quote (c :: name) (c :: text)
  | escape {c e : Char} {name text : List Char} : plainEscape? e = some c → IsQuotedSpelling quote name text →
      IsQuotedSpelling quote (c :: name) ('\\' :: e :: text)
  | code {c h₁ h₂ h₃ h₄ : Char} {name text : List Char} : codeEscape? h₁ h₂ h₃ h₄ = some c →
      IsQuotedSpelling quote name text →
      IsQuotedSpelling quote (c :: name) ('\\' :: 'u' :: h₁ :: h₂ :: h₃ :: h₄ :: text)

section Quotes

variable {quote : Char} {start name text rest : List Char}

theorem readQuotedBody_escape (notBackslash : quote ≠ '\\') {c e : Char} (escapes : plainEscape? e = some c)
    (rest : List Char) :
    readQuotedBody quote start ('\\' :: e :: rest) =
      (readQuotedBody quote start rest).map fun (text, rest) => (c :: text, rest) := by
  have notCode : e ≠ 'u' := by
    rintro rfl
    cases escapes
  rw [readQuotedBody.eq_def]
  simp only [notBackslash.symm, if_false, if_true, escapes]

theorem readQuotedBody_code (notBackslash : quote ≠ '\\') {c h₁ h₂ h₃ h₄ : Char}
    (escapes : codeEscape? h₁ h₂ h₃ h₄ = some c) (rest : List Char) :
    readQuotedBody quote start ('\\' :: 'u' :: h₁ :: h₂ :: h₃ :: h₄ :: rest) =
      (readQuotedBody quote start rest).map fun (text, rest) => (c :: text, rest) := by
  rw [readQuotedBody.eq_def]
  simp only [notBackslash.symm, if_false, if_true, escapes]

theorem readQuotedBody_of_isQuotedSpelling (notBackslash : quote ≠ '\\') (rest : List Char)
    (spelled : IsQuotedSpelling quote name text) :
    readQuotedBody quote start (text ++ quote :: rest) = .ok (name, rest) := by
  induction spelled with
  | nil => exact readQuotedBody_quote start rest quote
  | plain notQuote plain spelled ih =>
      rw [List.cons_append, readQuotedBody_plain start _ notQuote plain, ih]
      rfl
  | escape escapes spelled ih =>
      rw [List.cons_append, List.cons_append, readQuotedBody_escape notBackslash escapes, ih]
      rfl
  | code escapes spelled ih =>
      simp only [List.cons_append]
      rw [readQuotedBody_code notBackslash escapes, ih]
      rfl

theorem exists_isQuotedSpelling (notBackslash : quote ≠ '\\')
    (read : readQuotedBody quote start text = .ok (name, rest)) :
    ∃ body, IsQuotedSpelling quote name body ∧ text = body ++ quote :: rest := by
  induction text using readQuotedBody.induct quote generalizing name rest with
  | case1 => cases read
  | case2 tail =>
      rw [readQuotedBody_quote] at read
      rcases Prod.mk.inj (Except.ok.inj read) with ⟨rfl, rfl⟩
      exact ⟨[], .nil, rfl⟩
  | case4 h₁ h₂ h₃ h₄ more escaped escapes _ ih =>
      rw [readQuotedBody_code notBackslash escapes] at read
      rcases map_eq_ok.1 read with ⟨⟨others, left⟩, found, same⟩
      rcases Prod.mk.inj same with ⟨rfl, rfl⟩
      rcases ih found with ⟨body, spelled, rfl⟩
      exact ⟨_, .code escapes spelled, rfl⟩
  | case7 e tail _ escaped escapes _ ih =>
      rw [readQuotedBody_escape notBackslash escapes] at read
      rcases map_eq_ok.1 read with ⟨⟨others, left⟩, found, same⟩
      rcases Prod.mk.inj same with ⟨rfl, rfl⟩
      rcases ih found with ⟨body, spelled, rfl⟩
      exact ⟨_, .escape escapes spelled, rfl⟩
  | case9 c tail notQuote plain ih =>
      rw [readQuotedBody_plain start tail notQuote plain] at read
      rcases map_eq_ok.1 read with ⟨⟨others, left⟩, found, same⟩
      rcases Prod.mk.inj same with ⟨rfl, rfl⟩
      rcases ih found with ⟨body, spelled, rfl⟩
      exact ⟨_, .plain notQuote plain spelled, rfl⟩
  | case3 => simp [readQuotedBody, notBackslash.symm] at read
  | case5 h₁ h₂ h₃ h₄ more broken _ => simp [readQuotedBody, notBackslash.symm, broken] at read
  | case6 tail short _ =>
      rw [readQuotedBody.eq_def] at read
      simp only [notBackslash.symm, if_false, if_true] at read
      cases read
  | case8 e tail notCode broken _ => simp [readQuotedBody, notBackslash.symm, broken] at read

end Quotes

/-! ## Integers -/

/-- Whether a text spells an integer: a minus or no sign, and digits, of which the first ones may be zeros. -/
def IsIntegerSpelling (n : Int64) (text : List Char) : Prop :=
  ∃ negative digits, text = signText negative ++ digits ∧ digits ≠ [] ∧ (∀ c ∈ digits, isDigit c = true) ∧
    n.toInt = if negative then -(digitsValue digits : Int) else digitsValue digits

section Integers

variable {n : Int64} {text rest : List Char}

theorem integerOf?_eq_some {negative : Bool} {digits : List Char} : integerOf? negative digits = some n ↔
    digits ≠ [] ∧ n.toInt = if negative then -(digitsValue digits : Int) else digitsValue digits := by
  unfold integerOf?
  split
  · rename_i empty
    simp [List.isEmpty_iff.1 empty]
  · rename_i present
    rw [List.isEmpty_iff] at present
    constructor
    · intro found
      exact ⟨present, toInt_of_int64? found⟩
    · rintro ⟨-, same⟩
      rw [← same]
      exact int64?_toInt n

/-- Sign and digits make up what is split off from the rest. -/
theorem eq_of_splitInteger {negative : Bool} {digits : List Char}
    (parts : splitInteger text = (negative, digits, rest)) :
    text = signText negative ++ digits ++ rest ∧ (∀ c ∈ digits, isDigit c = true) ∧ stopsAt isDigit rest = true := by
  unfold splitInteger at parts
  split at parts
  rename_i sign unsigned opened
  simp only [Prod.mk.injEq] at parts
  rcases parts with ⟨rfl, rfl, rfl⟩
  rw [drop_length_takeWhile]
  refine ⟨?_, List.all_eq_true.1 List.all_takeWhile, stopsAt_dropWhile _ _⟩
  rw [List.append_assoc, List.takeWhile_append_dropWhile]
  split at opened
  · rcases Prod.mk.inj opened with ⟨rfl, rfl⟩
    rfl
  · rcases Prod.mk.inj opened with ⟨rfl, rfl⟩
    rfl

theorem readInteger_eq {negative : Bool} {digits : List Char}
    (parts : splitInteger text = (negative, digits, rest)) :
    readInteger text =
      if stopsAt continuesNumeral rest then
        match integerOf? negative digits with
        | some n => .ok (n, rest)
        | none => .error ⟨.invalidNumber, text, rest⟩
      else .error ⟨.invalidNumber, text, rest⟩ := by
  rw [readInteger, parts]
  cases rest with
  | nil => rfl
  | cons c rest =>
      cases goesOn : continuesNumeral c with
      | true =>
          rw [continuesNumeral] at goesOn
          simp [stopsAt, continuesNumeral, goesOn]
      | false =>
          rw [continuesNumeral] at goesOn
          cases found : integerOf? negative digits <;>
            simp only [stopsAt, continuesNumeral, goesOn, found, Bool.not_false, if_true, Bool.false_eq_true, if_false]

theorem readInteger_of_isIntegerSpelling (spelled : IsIntegerSpelling n text)
    (stops : stopsAt continuesNumeral rest = true) : readInteger (text ++ rest) = .ok (n, rest) := by
  rcases spelled with ⟨negative, digits, rfl, present, all, value⟩
  have parts := splitInteger_append negative rest present all (stopsAt_isDigit stops)
  have found := integerOf?_eq_some.2 ⟨present, value⟩
  rw [readInteger_eq parts, if_pos stops]
  simp only [found]

theorem exists_isIntegerSpelling (read : readInteger text = .ok (n, rest)) :
    ∃ used, IsIntegerSpelling n used ∧ stopsAt continuesNumeral rest = true ∧ text = used ++ rest := by
  rcases parts : splitInteger text with ⟨negative, digits, left⟩
  rcases eq_of_splitInteger parts with ⟨same, all, -⟩
  rw [readInteger_eq parts] at read
  split at read
  · rename_i stops
    split at read
    · rename_i found
      rcases Prod.mk.inj (Except.ok.inj read) with ⟨rfl, rfl⟩
      rcases integerOf?_eq_some.1 found with ⟨present, value⟩
      exact ⟨signText negative ++ digits, ⟨negative, digits, rfl, present, all, value⟩, stops, same⟩
    · cases read
  · cases read

/-- An integer begins with a sign or a digit. -/
theorem exists_startsInteger (spelled : IsIntegerSpelling n text) :
    ∃ c more, text = c :: more ∧ startsInteger c = true := by
  rcases spelled with ⟨negative, digits, rfl, present, all, -⟩
  cases negative with
  | true => exact ⟨'-', digits, rfl, rfl⟩
  | false =>
      cases digits with
      | nil => exact absurd rfl present
      | cons c digits =>
          refine ⟨c, digits, rfl, ?_⟩
          rw [startsInteger, all c List.mem_cons_self, Bool.or_true]

end Integers

/-! ## Selectors and bounds -/

/-- Whether a text spells an entry of a union: a name between quotes of either kind, or an integer. -/
def Selector.IsSpelled : Selector → List Char → Prop
  | key name, text => ∃ quote body, (quote = '\'' ∨ quote = '"') ∧
      IsQuotedSpelling quote name.toList body ∧ text = quote :: body ++ [quote]
  | index i, text => IsIntegerSpelling i text

/-- Whether a text spells a bound of a slice, which may be missing. -/
def IsBoundSpelling : Option Int64 → List Char → Prop
  | none, text => text = []
  | some bound, text => IsIntegerSpelling bound text

theorem ne_backslash {quote : Char} (isQuote : quote = '\'' ∨ quote = '"') : quote ≠ '\\' := by
  rcases isQuote with rfl | rfl <;> decide

section Selectors

variable {text rest : List Char}

theorem readQuoted_of_isQuotedSpelling {quote : Char} {name body : List Char}
    (isQuote : quote = '\'' ∨ quote = '"') (spelled : IsQuotedSpelling quote name body) (rest : List Char) :
    readQuoted quote (quote :: body ++ [quote] ++ rest) = .ok (name, rest) := by
  rw [List.append_assoc]
  exact readQuotedBody_of_isQuotedSpelling (ne_backslash isQuote) rest spelled

theorem exists_isSpelled_key {quote : Char} {name : List Char} (isQuote : quote = '\'' ∨ quote = '"')
    (read : readQuoted quote (quote :: text) = .ok (name, rest)) :
    ∃ used, (Selector.key (String.ofList name)).IsSpelled used ∧ quote :: text = used ++ rest := by
  rcases exists_isQuotedSpelling (ne_backslash isQuote) read with ⟨body, spelled, same⟩
  refine ⟨quote :: body ++ [quote], ⟨quote, body, isQuote, ?_, rfl⟩, ?_⟩
  · rw [String.toList_ofList]
    exact spelled
  · rw [List.drop_one, List.tail_cons] at same
    simp [same]

theorem readSelector_of_isSpelled {selector : Selector} (spelled : selector.IsSpelled text)
    (stops : stopsAt continuesNumeral rest = true) : readSelector (text ++ rest) = .ok (selector, rest) := by
  cases selector with
  | key name =>
      rcases spelled with ⟨quote, body, isQuote, spelled, rfl⟩
      have read := readQuoted_of_isQuotedSpelling isQuote spelled rest
      simp only [List.cons_append] at read ⊢
      rw [readSelector]
      simp only [isQuote, if_true, read, Except.map, String.ofList_toList]
  | index i =>
      rcases exists_startsInteger spelled with ⟨c, more, rfl, starts⟩
      have read := readInteger_of_isIntegerSpelling spelled stops
      have notQuote : ¬(c = '\'' ∨ c = '"') :=
        not_or.2 ⟨ne_of_startsInteger starts rfl, ne_of_startsInteger starts rfl⟩
      rw [List.cons_append] at read ⊢
      rw [readSelector]
      simp only [notQuote, starts, if_true, if_false, read, Except.map]

theorem exists_isSpelled {selector : Selector} (read : readSelector text = .ok (selector, rest)) :
    ∃ used, selector.IsSpelled used ∧ text = used ++ rest := by
  cases text with
  | nil => cases read
  | cons c text =>
      rw [readSelector] at read
      split at read
      · rename_i isQuote
        rcases map_eq_ok.1 read with ⟨⟨name, left⟩, found, same⟩
        rcases Prod.mk.inj same with ⟨rfl, rfl⟩
        exact exists_isSpelled_key isQuote found
      · split at read
        · rcases map_eq_ok.1 read with ⟨⟨i, left⟩, found, same⟩
          rcases Prod.mk.inj same with ⟨rfl, rfl⟩
          rcases exists_isIntegerSpelling found with ⟨used, spelled, -, whole⟩
          exact ⟨used, spelled, whole⟩
        · cases read

/-- No selector begins with a blank. -/
theorem skipBlanks_of_isSpelled {selector : Selector} (spelled : selector.IsSpelled text) (rest : List Char) :
    skipBlanks (text ++ rest) = text ++ rest := by
  cases selector with
  | key name =>
      rcases spelled with ⟨quote, body, isQuote, -, rfl⟩
      rcases isQuote with rfl | rfl <;> rfl
  | index i =>
      rcases exists_startsInteger spelled with ⟨c, more, rfl, starts⟩
      exact skipBlanks_cons (isBlank_of_startsInteger starts) _

theorem readBound_of_isPadded {bound : Option Int64} {c : Char}
    (spelled : IsPadded (IsBoundSpelling bound) text) (ends : endsBound c = true) (rest : List Char) :
    readBound (text ++ c :: rest) = .ok (bound, c :: rest) := by
  rcases spelled with ⟨before, inner, after, beforeBlank, spelled, afterBlank, rfl⟩
  have left : skipBlanks (after ++ c :: rest) = c :: rest := by
    rw [skipBlanks_append afterBlank, skipBlanks_of_endsBound rest ends]
  rw [List.append_assoc, List.append_assoc, readBound, skipBlanks_append beforeBlank]
  cases bound with
  | none =>
      have plain : startsInteger c = false := by
        rcases endsBound_iff.1 ends with rfl | rfl | rfl <;> rfl
      rcases spelled with rfl
      rw [List.nil_append, left]
      simp [plain]
  | some bound =>
      rcases exists_startsInteger spelled with ⟨first, more, rfl, starts⟩
      have read := readInteger_of_isIntegerSpelling spelled
        (stopsAt_append_of_areBlanks afterBlank (stopsAt_of_endsBound rest ends))
      rw [List.cons_append] at read ⊢
      rw [skipBlanks_cons (isBlank_of_startsInteger starts)]
      simp only [starts, if_true, read, ok_bind, left]

/-- Where a bound is missing there may be blanks. -/
theorem isPadded_none (areBlanks : AreBlanks text) : IsPadded (IsBoundSpelling none) text :=
  ⟨text, [], [], areBlanks, rfl, areBlanks_nil, by simp⟩

theorem exists_isBoundSpelling {bound : Option Int64} (read : readBound text = .ok (bound, rest)) :
    ∃ used, IsPadded (IsBoundSpelling bound) used ∧ text = used ++ rest := by
  rcases exists_blanks text with ⟨before, beforeBlank, whole⟩
  rw [readBound] at read
  generalize skipBlanks text = opened at read whole
  cases opened with
  | nil =>
      rcases Prod.mk.inj (Except.ok.inj read) with ⟨rfl, rfl⟩
      exact ⟨before, isPadded_none beforeBlank, whole⟩
  | cons c opened =>
      simp only at read
      split at read
      · rcases bind_eq_ok.1 read with ⟨⟨i, left⟩, found, read⟩
        rcases Prod.mk.inj (Except.ok.inj read) with ⟨rfl, rfl⟩
        rcases exists_isIntegerSpelling found with ⟨used, spelled, -, same⟩
        rcases exists_blanks left with ⟨after, afterBlank, closing⟩
        refine ⟨before ++ used ++ after, ⟨before, used, after, beforeBlank, spelled, afterBlank, rfl⟩, ?_⟩
        rw [whole, same, List.append_assoc, List.append_assoc, ← closing]
      · rcases Prod.mk.inj (Except.ok.inj read) with ⟨rfl, rfl⟩
        exact ⟨before, isPadded_none beforeBlank, whole⟩

end Selectors

/-! ## Names without quotes -/

/--
Whether a fragment is spelled without a bracket in front of a text: as an asterisk, or as a name that the text does not
continue.
-/
def Fragment.IsBareSpelling {Test : Type} : Fragment Test → List Char → List Char → Prop
  | wildcard, text, _ => text = ['*']
  | child name, text, rest => isBareName name = true ∧ text = name.toList ∧ stopsAt isNameCharacter rest = true
  | _, _, _ => False

theorem length_pos_of_isBareSpelling {Test : Type} {fragment : Fragment Test} {text rest : List Char}
    (isBare : fragment.IsBareSpelling text rest) : 0 < text.length := by
  cases fragment with
  | wildcard =>
      rcases isBare with rfl
      exact Nat.one_pos
  | child name =>
      rcases isBare with ⟨isName, rfl, -⟩
      exact List.length_pos_iff.2 (toList_ne_nil_of_isBareName isName)
  | _ => exact isBare.elim

variable [RegexSyntax]

theorem readBare?_eq_some {fragment : Fragment Script} {text rest : List Char} :
    readBare? text = some (fragment, rest) ↔ ∃ used, fragment.IsBareSpelling used rest ∧ text = used ++ rest := by
  constructor
  · intro read
    unfold readBare? at read
    split at read
    · rcases Prod.mk.inj (Option.some.inj read) with ⟨rfl, rfl⟩
      exact ⟨['*'], rfl, rfl⟩
    · simp only at read
      split at read
      · cases read
      · rename_i present
        rcases Prod.mk.inj (Option.some.inj read) with ⟨rfl, rfl⟩
        rw [drop_length_takeWhile]
        refine ⟨text.takeWhile isNameCharacter, ⟨?_, String.toList_ofList.symm, stopsAt_dropWhile _ _⟩,
          List.takeWhile_append_dropWhile.symm⟩
        rw [isBareName, String.toList_ofList, List.all_takeWhile, Bool.and_true, Bool.not_eq_true']
        exact Bool.not_eq_true _ ▸ present
  · rintro ⟨used, spelled, rfl⟩
    cases fragment with
    | wildcard =>
        rcases spelled with rfl
        rfl
    | child name =>
        rcases spelled with ⟨bare, rfl, stops⟩
        have read := @readBare?_render _ (.child name) rest bare stops
        rw [renderFragment, if_pos bare, if_pos rfl] at read
        exact read
    | _ => exact spelled.elim

theorem readBare?_of_readAfterPoint {fragment : Fragment Script} {text rest : List Char}
    (read : readAfterPoint text = .ok (fragment, rest)) : readBare? text = some (fragment, rest) := by
  unfold readAfterPoint at read
  split at read
  · rename_i found
    rcases Except.ok.inj read with rfl
    exact found
  · cases read
  · cases read

end TreePath

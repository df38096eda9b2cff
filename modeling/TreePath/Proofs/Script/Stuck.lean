import TreePath.Proofs.Script.Steady

/-!
# Where reading is stuck

Behind an equation there may stand what no operator goes on with and what closes nothing. Reading fails then, at the latest at
the end of the text, since every reader around the equation stops there too. An operand in the place of an operator is stuck,
unless it begins with a minus or a slash. It gets there if a path takes the asterisk in front of it for its own.
-/

namespace TreePath

/-! ## Where reading is stuck -/

/-- Text behind an equation with which no operator goes on and that closes nothing. -/
def IsStuck (rest : List Char) : Prop :=
  readOperator rest = .ok none ∧ ∃ c more, skipBlanks rest = c :: more ∧ c ∉ equationEnds

section Stuck

variable {c : Char} {blanks text rest : List Char}

theorem isStuck_blanks (areBlanks : AreBlanks blanks) (stuck : IsStuck rest) : IsStuck (blanks ++ rest) := by
  rcases stuck with ⟨none, c, more, opened, open'⟩
  exact ⟨by rw [readOperator_blanks areBlanks, none], c, more, by rw [skipBlanks_append areBlanks, opened], open'⟩

theorem isStuck_cons (notBlank : isBlank c = false) (notEnd : c ∉ equationEnds) (none : readOperator (c :: text) = .ok none) :
    IsStuck (c :: text) :=
  ⟨none, c, text, skipBlanks_cons notBlank text, notEnd⟩

/-- A mark that closes something is not stuck. -/
theorem not_isStuck_closing (areBlanks : AreBlanks blanks) (closes : c ∈ equationEnds) : ¬IsStuck (blanks ++ c :: rest) := by
  rintro ⟨-, d, more, opened, notEnd⟩
  have notBlank : isBlank c = false := by
    simp only [equationEnds, List.mem_cons, List.not_mem_nil, or_false] at closes
    rcases closes with rfl | rfl | rfl <;> rfl
  rw [skipBlanks_append_cons areBlanks notBlank] at opened
  rcases List.cons.inj opened with ⟨rfl, -⟩
  exact notEnd closes

theorem readOperator_bang (next : text.head? ≠ some '=') : readOperator ('!' :: text) = .ok none := by
  have mark : readMark '!' text = .ok (.bang, text) := if_neg next
  show (readMark '!' text >>= fun read => .ok (read.1.operator?.map (·, read.2))) = _
  rw [mark]
  rfl

theorem readOperator_digit {number : Numeric} (notBlank : isBlank c = false) (digit : isDigit c = true)
    (read : readNumeric (c :: text) = .ok (number, rest)) : readOperator (c :: text) = .ok none := by
  rw [readOperator, skipBlanks_cons notBlank]
  simp only
  split
  · rw [readToken, skipBlanks_cons notBlank]
    simp only
    rw [if_pos digit, read]
    cases number <;> rfl
  · rfl

theorem readOperator_letter (notBlank : isBlank c = false) (letter : isLetter c = true) (notDigit : isDigit c = false)
    (unknown : Operator.word? (String.ofList (splitWord (c :: text)).1) = none) : readOperator (c :: text) = .ok none := by
  rw [readOperator, skipBlanks_cons notBlank]
  simp only
  rw [if_pos (by rw [letter, Bool.or_true]), readToken, skipBlanks_cons notBlank]
  simp only
  rw [if_neg (by simp [notDigit]), if_pos (by rw [letter, Bool.true_or]), ok_bind]
  simp only [Token.operator?, unknown, Option.map_none]

theorem isStuck_function {function : Operator} (isFunction : function.isFunction = true)
    (stops : stopsAt isWordPart rest = true) : IsStuck (function.name.toList ++ rest) := by
  have inside : function.name.toList.all isWordPart = true := by
    cases function <;> first | decide | cases isFunction
  have parts : splitWord (function.name.toList ++ rest) = (function.name.toList, rest) :=
    splitWord_append (List.all_eq_true.1 inside) stops
  have meaning : Operator.word? function.name = none := by
    cases function <;> first | rfl | cases isFunction
  have begins : ∃ c more, function.name.toList = c :: more ∧ isBlank c = false ∧ isLetter c = true ∧ isDigit c = false ∧
      c ∉ equationEnds := by
    cases function <;> first | exact ⟨_, _, rfl, rfl, rfl, rfl, by decide⟩ | cases isFunction
  rcases begins with ⟨c, more, characters, notBlank, letter, notDigit, notEnd⟩
  rw [characters, List.cons_append] at parts ⊢
  refine isStuck_cons notBlank notEnd (readOperator_letter notBlank letter notDigit ?_)
  rw [parts, ← characters, String.ofList_toList, meaning]

end Stuck

/-! ## Failing -/

variable [RegexSyntax]

/-- Reading fails, or it is stuck behind what was read. -/
def Fails (outcome : Except Fault (Equation × List Char)) : Prop :=
  ∀ equation rest, outcome = .ok (equation, rest) → IsStuck rest

section Failing

variable {budget loosest : Nat} {c : Char} {blanks text rest : List Char}

/-- Behind stuck text no operator is read. -/
theorem IsStuck.operators {left equation : Equation} (stuck : IsStuck text)
    (read : readOperators budget loosest left text = .ok (equation, rest)) : IsStuck rest := by
  cases budget with
  | zero => simp [readOperators] at read
  | succ budget =>
      rw [readOperators_of_endsEquation (.inl stuck.1)] at read
      rcases Prod.mk.inj (Except.ok.inj read) with ⟨-, rfl⟩
      exact stuck

theorem Fails.equation (fails : Fails (readOperand budget text)) : Fails (readEquation (budget + 1) loosest text) := by
  intro equation rest read
  rw [readEquation] at read
  rcases bind_eq_ok.1 read with ⟨⟨left, afterLeft⟩, readLeft, readOthers⟩
  exact (fails left afterLeft readLeft).operators readOthers

/-- An operator whose right operand fails makes the equation fail. -/
theorem Fails.operators {operator : Operator} {left : Equation} (read : readOperator text = .ok (some (operator, rest)))
    (fails : Fails (readEquation budget (operator.precedence - 1) rest)) (tight : operator.precedence ≤ loosest) :
    Fails (readOperators (budget + 1) loosest left text) := by
  intro equation left' readAll
  rcases readOperators_cases readAll with ⟨rfl, rfl, ends⟩ |
    ⟨other, afterOther, right, afterRight, compiled, readFirst, -, readRight, -, readOthers⟩
  · rcases ends with none | ⟨other, afterOther, some, looser⟩
    · rw [none] at read
      cases read
    · rw [some] at read
      rcases Prod.mk.inj (Option.some.inj (Except.ok.inj read)) with ⟨rfl, -⟩
      exact absurd tight (Nat.not_le_of_lt looser)
  · rw [readFirst] at read
    rcases Prod.mk.inj (Option.some.inj (Except.ok.inj read)) with ⟨rfl, rfl⟩
    exact (fails right afterRight readRight).operators readOthers

/-- A group around what fails is not closed. -/
theorem Fails.group (fails : Fails (readEquation budget Operator.loosest text)) :
    Fails (readOperand (budget + 1) ('(' :: text)) := by
  intro equation rest read
  rcases exists_closing_of_readOperand read with ⟨closing, areBlanks, readGroup⟩
  exact absurd (fails _ _ readGroup) (not_isStuck_closing areBlanks (by decide))

theorem Fails.not (fails : Fails (readOperand budget text)) : Fails (readOperand (budget + 1) ('!' :: text)) := by
  intro equation rest read
  rcases exists_argument_of_readOperand read with ⟨-, argument, -, found⟩
  exact fails _ _ found

/-- A call is not closed behind an argument that fails. -/
theorem Fails.call {function : Operator} {gap start inner : List Char} (areBlanks : AreBlanks gap)
    (fails : Fails (readEquation budget Operator.loosest inner) ∨
      ∃ first before middle, AreBlanks before ∧ ¬function.arity = 1 ∧
        readEquation budget Operator.loosest inner = .ok (first, before ++ ',' :: middle) ∧
          Fails (readEquation budget Operator.loosest middle)) :
    Fails (readCall (budget + 1) function start (gap ++ '(' :: inner)) := by
  intro equation rest read
  have inside {gap' inner' : List Char} (areBlanks' : AreBlanks gap') (same : gap ++ '(' :: inner = gap' ++ '(' :: inner') :
      inner = inner' := by
    have opened := congrArg skipBlanks same
    rw [skipBlanks_append_cons areBlanks rfl, skipBlanks_append_cons areBlanks' rfl] at opened
    exact (List.cons.inj opened).2
  rcases readCall_cases read with ⟨gap', inner', areBlanks', same,
    ⟨unary, argument, closing, areBlanks'', readFirst, -⟩ |
    ⟨-, first, middle, between, second, closing, compiled, blanksBefore, areBlanks'', readFirst, readSecond, -, -⟩⟩
  · rcases inside areBlanks' same with rfl
    rcases fails with fails | ⟨-, -, -, -, binary, -, -⟩
    · exact absurd (fails _ _ readFirst) (not_isStuck_closing areBlanks'' (by decide))
    · exact absurd unary binary
  · rcases inside areBlanks' same with rfl
    rcases fails with fails | ⟨first', before, middle', blanksThere, -, readThere, fails⟩
    · exact absurd (fails _ _ readFirst) (not_isStuck_closing blanksBefore (by decide))
    · rw [readFirst] at readThere
      have separated := congrArg skipBlanks (Prod.mk.inj (Except.ok.inj readThere)).2
      rw [skipBlanks_append_cons blanksBefore rfl, skipBlanks_append_cons blanksThere rfl] at separated
      rcases (List.cons.inj separated).2 with rfl
      exact absurd (fails _ _ readSecond) (not_isStuck_closing areBlanks'' (by decide))

end Failing

/-! ## Operands where an operator should stand -/

theorem word?_eq_none {word : String} (operand : wordOperand? word ≠ none ∨ Operator.function? word ≠ none) :
    Operator.word? word = none := by
  unfold Operator.word?
  repeat' split
  all_goals first | rfl | (rename_i same; rw [same] at operand; simp [wordOperand?, Operator.function?] at operand)

section Misplaced

variable {budget : Nat} {c : Char} {text rest : List Char} {equation : Equation}

/-- An operand that begins neither with a minus nor with a slash is stuck where an operator should stand. -/
theorem isStuck_of_readOperand (notBlank : isBlank c = false) (notMinus : c ≠ '-') (notSlash : c ≠ '/')
    (read : readOperand (budget + 1) (c :: text) = .ok (equation, rest)) : IsStuck (c :: text) := by
  by_cases marked : c ∈ operandMarks
  · simp only [operandMarks, List.mem_cons, List.not_mem_nil, or_false] at marked
    rcases marked with rfl | rfl | rfl | rfl | rfl | rfl | rfl
    · exact isStuck_cons rfl (by decide) rfl
    · exact isStuck_cons rfl (by decide) rfl
    · exact isStuck_cons rfl (by decide) rfl
    · exact isStuck_cons rfl (by decide) rfl
    · exact absurd rfl notSlash
    · exact isStuck_cons rfl (by decide) rfl
    · exact isStuck_cons rfl (by decide) (readOperator_bang (exists_argument_of_readOperand read).1)
  · have notEnd : c ∉ equationEnds := by
      intro closes
      simp only [equationEnds, List.mem_cons, List.not_mem_nil, or_false] at closes
      rcases closes with rfl | rfl | rfl <;> cases read
    refine isStuck_cons notBlank notEnd ?_
    have numeric := startsNumeric_of_ne notMinus text
    cases digit : isDigit c with
    | true =>
        rw [digit] at numeric
        rw [readOperand_numeric (Nat.succ_pos budget) numeric, readNumericOperand] at read
        split at read
        · rename_i found
          exact readOperator_digit notBlank digit found
        · rename_i found
          exact readOperator_digit notBlank digit found
        · cases read
    | false =>
        rw [digit] at numeric
        rw [readOperand_unmarked notBlank marked, numeric, if_neg (by simp)] at read
        split at read
        · rename_i letter
          refine readOperator_letter notBlank letter digit (word?_eq_none ?_)
          split at read
          · rename_i found
            exact .inl (by simp [found])
          · rename_i found
            exact .inr (by simp [found])
          · cases read
        · cases read

end Misplaced

/-! ## An asterisk behind a path -/

theorem exists_readFragments_asterisk {budget : Nat} {text rest : List Char} {fragments : List (Fragment Script)}
    (read : readFragments budget text = .ok (fragments, rest)) :
    ∃ used, text = used ++ rest ∧ ∀ {other : List Char} {least : Nat}, stopsAt startsFragment other = true →
      4 * used.length + 2 ≤ least → ∃ longer, readFragments least (used ++ '*' :: other) = .ok (longer, other) := by
  induction budget generalizing text fragments with
  | zero => simp [readFragments] at read
  | succ budget ih =>
      have asterisk {other : List Char} {least : Nat} (stops : stopsAt startsFragment other = true) :
          readFragments (least + 2) ('*' :: other) = .ok ([.wildcard], other) := by
        rw [readFragments_star, readFragments_of_stopsAt stops]
        rfl
      rcases (steady budget).fragments_cases read with ⟨rfl, rfl, -⟩ | ⟨left, others, rfl, noBare, rfl, readOthers⟩ |
        ⟨front, first, left, others, rfl, present, rfl, readOthers, frontAgain⟩
      · refine ⟨[], rfl, ?_⟩
        intro other least stops enough
        rcases Nat.exists_eq_add_of_le' (by simpa using enough : 2 ≤ least) with ⟨least, rfl⟩
        exact ⟨_, asterisk stops⟩
      · rcases ih readOthers with ⟨used, rfl, othersAgain⟩
        refine ⟨'.' :: '.' :: used, rfl, ?_⟩
        intro other least stops enough
        simp only [List.length_cons] at enough
        rcases Nat.exists_eq_add_of_le' (by omega : 2 ≤ least) with ⟨least, rfl⟩
        cases used with
        | nil =>
            -- behind a descent alone the asterisk is no fragment of its own
            refine ⟨[.descent, .wildcard], ?_⟩
            have bare : readBare? ('*' :: other) = some (.wildcard, other) := rfl
            rw [List.cons_append, List.cons_append, List.nil_append, readFragments, bare]
            simp only
            rw [readFragments_of_stopsAt stops]
            rfl
        | cons c used =>
            rcases othersAgain stops (by omega : _ ≤ least + 1) with ⟨longer, readLonger⟩
            have noBareThere : stopsAt startsBare (c :: used ++ '*' :: other) = true := noBare
            rw [List.cons_append, List.cons_append, readFragments_descent noBareThere, readLonger]
            exact ⟨_, rfl⟩
      · rcases ih readOthers with ⟨used, rfl, othersAgain⟩
        refine ⟨front ++ used, (List.append_assoc _ _ _).symm, ?_⟩
        intro other least stops enough
        have positive := List.length_pos_iff.2 present
        rw [List.length_append] at enough
        rcases Nat.exists_eq_add_of_le' (by omega : 1 ≤ least) with ⟨least, rfl⟩
        rcases othersAgain stops (by omega : _ ≤ least) with ⟨longer, readLonger⟩
        have nameEnds (ends : stopsAt isNameCharacter (used ++ rest) = true) :
            stopsAt isNameCharacter (used ++ '*' :: other) = true :=
          stopsAt_append_of_imp ends fun _ => rfl
        rw [List.append_assoc, frontAgain nameEnds (by omega), readLonger]
        exact ⟨_, rfl⟩

/-- A path goes on with an asterisk that is put behind it. -/
theorem exists_readOperand_asterisk {budget least : Nat} {c : Char} {more tail other : List Char} {path : Path}
    (anchor : c = '@' ∨ c = '$') (read : readPath budget (c :: (more ++ tail)) = .ok (path, tail))
    (stops : stopsAt startsFragment other = true) (enough : 4 * (c :: more).length ≤ least) :
    ∃ longer, readOperand least (c :: (more ++ '*' :: other)) = .ok (.operand (.path longer), other) := by
  have head : ∃ head, ∀ text, readHead? (c :: text) = some (head, text) := by
    rcases anchor with rfl | rfl
    · exact ⟨.current, fun _ => rfl⟩
    · exact ⟨.root, fun _ => rfl⟩
  rcases head with ⟨head, found⟩
  cases budget with
  | zero => simp [readPath] at read
  | succ budget =>
      rw [readPath, found] at read
      rcases bind_eq_ok.1 read with ⟨⟨fragments, left⟩, readOthers, same⟩
      rcases Prod.mk.inj (Except.ok.inj same) with ⟨-, rfl⟩
      rcases exists_readFragments_asterisk readOthers with ⟨used, whole, again⟩
      rcases List.append_cancel_right whole with rfl
      rw [List.length_cons] at enough
      rcases Nat.exists_eq_add_of_le' (by omega : 2 ≤ least) with ⟨least, rfl⟩
      rcases again stops (by omega : _ ≤ least) with ⟨longer, readLonger⟩
      refine ⟨⟨head :: longer⟩, ?_⟩
      rw [readOperand_anchor anchor, readPath, found]
      simp only
      rw [readLonger]
      rfl

end TreePath

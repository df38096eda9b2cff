import Mathlib.Data.List.Infix
import TreePath.Proofs.Reading.Delimited
import TreePath.Regex.Standard
import TreePath.Scanner

/-!
# Positions of faults

A reader never leaves the text it was given: what it leaves is an end of the text, and so are both places of a fault. For a
reader that is called with an end of some text, or that reports at the beginning of an enclosing part, these are ends of
that text as well. So the position of an error counts characters of the whole text, and the characters near it stand there.

The readers of paths and scripts bound their nesting by a budget. One that is given four for each character of its text, and up
to four more, never faults because the budget is exhausted. The budget of a whole text is larger than that.
-/

namespace TreePath

/-- A fault lies in a text: both of its places are there, and it is not that a budget is exhausted. -/
structure Fault.IsIn (fault : Fault) (text : List Char) : Prop where
  site : fault.site <:+ text
  stop : fault.stop <:+ text
  cause : fault.cause ≠ .exhausted

theorem Fault.isIn_here {cause : SyntaxCause} {place text : List Char} (within : place <:+ text)
    (other : cause ≠ .exhausted) : (Fault.here cause place).IsIn text :=
  ⟨within, within, other⟩

theorem Fault.IsIn.mono {fault : Fault} {text whole : List Char} (isIn : fault.IsIn text) (within : text <:+ whole) :
    fault.IsIn whole :=
  ⟨isIn.site.trans within, isIn.stop.trans within, isIn.cause⟩

/-- The outcome of reading in a text: a result as wanted, or a fault in the text. -/
inductive Keeps {α : Type} (text : List Char) (wanted : α → Prop) : Except Fault α → Prop
  | ok {value : α} (holds : wanted value) : Keeps text wanted (.ok value)
  | error {fault : Fault} (within : fault.IsIn text) : Keeps text wanted (.error fault)

/-- The outcome of a reader that leaves an end of the text that it was given, or faults in the whole text around it. -/
abbrev KeepsFrom {α : Type} (whole text : List Char) : Except Fault (α × List Char) → Prop :=
  Keeps whole fun read => read.2 <:+ text

/-- The outcome of a reader that leaves an end of a text, or faults in it. -/
abbrev KeepsIn {α : Type} (text : List Char) : Except Fault (α × List Char) → Prop :=
  KeepsFrom text text

namespace Keeps

variable {α β : Type} {text whole : List Char} {wanted : α → Prop} {wanted' : β → Prop} {outcome : Except Fault α}

theorem bind {next : α → Except Fault β} (keeps : Keeps text wanted outcome)
    (keepsNext : ∀ value, wanted value → Keeps text wanted' (next value)) : Keeps text wanted' (outcome >>= next) := by
  cases keeps with
  | ok holds => exact keepsNext _ holds
  | error within => exact .error within

theorem map {f : α → β} (keeps : Keeps text wanted outcome) (imp : ∀ value, wanted value → wanted' (f value)) :
    Keeps text wanted' (outcome.map f) := by
  cases keeps with
  | ok holds => exact .ok (imp _ holds)
  | error within => exact .error within

theorem imp {weaker : α → Prop} (keeps : Keeps text wanted outcome) (imp : ∀ value, wanted value → weaker value) :
    Keeps text weaker outcome := by
  cases keeps with
  | ok holds => exact .ok (imp _ holds)
  | error within => exact .error within

theorem mono (keeps : Keeps text wanted outcome) (within : text <:+ whole) : Keeps whole wanted outcome := by
  cases keeps with
  | ok holds => exact .ok holds
  | error isIn => exact .error (isIn.mono within)

/-- The result is the one that was read. -/
theorem self (keeps : Keeps text wanted outcome) : Keeps text (fun value => outcome = .ok value ∧ wanted value) outcome := by
  cases keeps with
  | ok holds => exact .ok ⟨rfl, holds⟩
  | error within => exact .error within

theorem ite {condition : Prop} [Decidable condition] {first second : Except Fault α} (keeps : Keeps text wanted first)
    (keeps' : Keeps text wanted second) : Keeps text wanted (if condition then first else second) := by
  split
  · exact keeps
  · exact keeps'

theorem here {cause : SyntaxCause} {place : List Char} (within : place <:+ text) (other : cause ≠ .exhausted) :
    Keeps text wanted (.error (Fault.here cause place)) :=
  .error (Fault.isIn_here within other)

end Keeps

section Readers

variable {whole start text rest : List Char} {c : Char}

theorem suffix_of_cons (within : c :: rest <:+ whole) : rest <:+ whole :=
  (List.suffix_cons c rest).trans within

theorem skipBlanks_suffix (within : text <:+ whole) : skipBlanks text <:+ whole :=
  (List.dropWhile_suffix _).trans within

theorem drop_suffix (within : text <:+ whole) (count : Nat) : text.drop count <:+ whole :=
  (List.drop_suffix count text).trans within

/-! ## Parts without scripts -/

theorem dropHexDigits_suffix (within : text <:+ whole) : dropHexDigits text <:+ whole :=
  drop_suffix within _

theorem readQuotedBody_keeps {quote : Char} (opened : start <:+ whole) (within : text <:+ whole) :
    KeepsIn whole (readQuotedBody quote start text) := by
  fun_induction readQuotedBody quote start text with
  | case1 => exact .error ⟨opened, List.nil_suffix, nofun⟩
  | case2 => exact .ok (suffix_of_cons within)
  | case3 => exact .error ⟨opened, List.nil_suffix, nofun⟩
  | case4 h₁ h₂ h₃ h₄ more _ _ _ ih =>
      have behind : [h₁, h₂, h₃, h₄] ++ more <:+ whole := suffix_of_cons (suffix_of_cons within)
      exact (ih ((List.suffix_append _ _).trans behind)).map fun _ left => left
  | case5 =>
      have escape := suffix_of_cons within
      exact .error ⟨escape, dropHexDigits_suffix (suffix_of_cons escape), nofun⟩
  | case6 =>
      have escape := suffix_of_cons within
      exact .error ⟨escape, dropHexDigits_suffix (suffix_of_cons escape), nofun⟩
  | case7 _ _ _ _ _ _ ih => exact (ih (suffix_of_cons (suffix_of_cons within))).map fun _ left => left
  | case8 => exact .here (suffix_of_cons within) nofun
  | case9 _ _ _ _ ih => exact (ih (suffix_of_cons within)).map fun _ left => left

theorem readQuoted_keeps {quote : Char} (within : text <:+ whole) : KeepsIn whole (readQuoted quote text) :=
  readQuotedBody_keeps within (drop_suffix within 1)

theorem readSlashedBody_keeps (opened : start <:+ whole) (within : text <:+ whole) :
    KeepsIn whole (readSlashedBody start text) := by
  fun_induction readSlashedBody start text with
  | case1 => exact .error ⟨opened, List.nil_suffix, nofun⟩
  | case2 => exact .ok (suffix_of_cons within)
  | case3 => exact .error ⟨opened, List.nil_suffix, nofun⟩
  | case4 _ _ _ ih => exact (ih (suffix_of_cons (suffix_of_cons within))).map fun _ left => left
  | case5 _ _ _ _ ih => exact (ih (suffix_of_cons within)).map fun _ left => left

theorem readPattern_keeps [RegexSyntax] (within : text <:+ whole) : KeepsIn whole (readPattern text) := by
  unfold readPattern readSlashed
  refine (readSlashedBody_keeps within (drop_suffix within 1)).bind ?_
  rintro ⟨source, rest⟩ left
  simp only
  split
  · exact .ok left
  · exact .here within nofun

theorem splitInteger_suffix (within : text <:+ whole) : (splitInteger text).2.2 <:+ whole := by
  unfold splitInteger
  split
  rename_i negative unsigned signs
  have behind : unsigned <:+ whole := by
    split at signs
    · rcases Prod.mk.inj signs with ⟨-, rfl⟩
      exact suffix_of_cons within
    · rcases Prod.mk.inj signs with ⟨-, rfl⟩
      exact within
  exact drop_suffix behind _

theorem splitFraction_suffix (within : text <:+ whole) : (splitFraction text).2 <:+ whole := by
  unfold splitFraction
  split
  · simp only
    split
    · exact within
    · exact drop_suffix (suffix_of_cons within) _
  · exact within

theorem splitExponent_suffix (within : text <:+ whole) : (splitExponent text).2 <:+ whole := by
  unfold splitExponent
  split
  · split
    · split
      rename_i negative unsigned signs
      have behind : unsigned <:+ whole := by
        split at signs
        · rcases Prod.mk.inj signs with ⟨-, rfl⟩
          exact suffix_of_cons (suffix_of_cons within)
        · rcases Prod.mk.inj signs with ⟨-, rfl⟩
          exact suffix_of_cons (suffix_of_cons within)
        · rcases Prod.mk.inj signs with ⟨-, rfl⟩
          exact suffix_of_cons within
      exact drop_suffix behind _
    · exact within
  · exact within

theorem readInteger_keeps (within : text <:+ whole) : KeepsIn whole (readInteger text) := by
  have left := splitInteger_suffix within
  unfold readInteger
  apply Keeps.ite
  · exact .error ⟨within, left, nofun⟩
  · split
    · exact .ok left
    · exact .error ⟨within, left, nofun⟩

theorem readNumeric_keeps (within : text <:+ whole) : KeepsIn whole (readNumeric text) := by
  have left := splitExponent_suffix (splitFraction_suffix (splitInteger_suffix within))
  unfold readNumeric
  simp only
  split
  · exact .ok left
  · exact .error ⟨within, left, nofun⟩

/-- Whatever is made of a number, as much is left as of the number. -/
theorem numeric_keeps {α : Type} {outcome : Except Fault (Numeric × List Char)} (integer : Int64 → α) (float : Binary64 → α)
    (keeps : KeepsIn text outcome) :
    Keeps text (fun read => read.2 <:+ text ∧ ((∃ n, read.1 = integer n) ∨ ∃ x, read.1 = float x))
      (match outcome with
        | .ok (.integer n, rest) => .ok (integer n, rest)
        | .ok (.float x, rest) => .ok (float x, rest)
        | .error fault => .error fault) := by
  rcases keeps with ⟨left⟩ | ⟨within⟩
  · rename_i read
    rcases read with ⟨n | x, rest⟩
    · exact .ok ⟨left, .inl ⟨n, rfl⟩⟩
    · exact .ok ⟨left, .inr ⟨x, rfl⟩⟩
  · exact .error within

theorem readNumericOperand_keeps [RegexSyntax] (text : List Char) : KeepsIn text (readNumericOperand text) :=
  (numeric_keeps (fun n => Equation.operand (.literal (.integer n))) (fun x => Equation.operand (.literal (.float x)))
    (readNumeric_keeps List.suffix_rfl)).imp fun _ read => read.1

theorem readMark_keeps (within : c :: rest <:+ whole) : KeepsFrom whole rest (readMark c rest) := by
  have single {token : Token} : KeepsFrom whole rest (.ok (token, rest)) := .ok List.suffix_rfl
  have double {token : Token} : KeepsFrom whole rest (.ok (token, rest.drop 1)) := .ok (drop_suffix List.suffix_rfl 1)
  unfold readMark
  apply Keeps.ite single
  apply Keeps.ite single
  apply Keeps.ite single
  apply Keeps.ite single
  apply Keeps.ite
  · exact .ite double (.ite double (.here within nofun))
  apply Keeps.ite double
  apply Keeps.ite (.ite double single)
  apply Keeps.ite (.ite double single)
  apply Keeps.ite (.ite double single)
  apply Keeps.ite double
  apply Keeps.ite double
  exact .here within nofun

theorem splitWord_suffix (isPart : isWordPart c = true) : (splitWord (c :: rest)).2 <:+ rest := by
  simp only [splitWord, List.takeWhile_cons_of_pos isPart, List.length_cons, List.drop_succ_cons]
  exact drop_suffix List.suffix_rfl _

/-- A token that writes an operator takes a character at least. -/
theorem readToken_keeps (text : List Char) :
    Keeps text (fun read => read.2 <:+ text ∧ (read.1.operator?.isSome = true → read.2.length < text.length))
      (readToken text) := by
  have behind : skipBlanks text <:+ text := skipBlanks_suffix List.suffix_rfl
  unfold readToken
  split
  · exact .ok ⟨List.nil_suffix, fun isOperator => by cases isOperator⟩
  · rename_i c rest blanks
    rw [blanks] at behind
    have further {left : List Char} (left_suffix : left <:+ rest) : left <:+ text ∧ left.length < text.length :=
      ⟨left_suffix.trans (suffix_of_cons behind), Nat.lt_of_le_of_lt left_suffix.length_le behind.length_le⟩
    apply Keeps.ite
    · refine ((numeric_keeps Token.integer Token.float (readNumeric_keeps List.suffix_rfl)).mono behind).imp ?_
      rintro ⟨token, _⟩ ⟨left, ⟨n, isNumber⟩ | ⟨x, isNumber⟩⟩
      · rcases isNumber with rfl
        exact ⟨left.trans behind, fun isOperator => by cases isOperator⟩
      · rcases isNumber with rfl
        exact ⟨left.trans behind, fun isOperator => by cases isOperator⟩
    · split
      · rename_i begins
        have behindWord := further (splitWord_suffix (isWordPart_of_begins begins))
        exact .ok ⟨behindWord.1, fun _ => behindWord.2⟩
      · exact (readMark_keeps behind).imp fun _ left => ⟨(further left).1, fun _ => (further left).2⟩

theorem closeBracket_keeps (opened : start <:+ whole) (within : text <:+ whole) :
    Keeps whole (· <:+ text) (closeBracket start text) := by
  have behind : skipBlanks text <:+ text := skipBlanks_suffix List.suffix_rfl
  unfold closeBracket
  split
  · exact .error ⟨opened, List.nil_suffix, nofun⟩
  · rename_i blanks
    rw [blanks] at behind
    exact .ite (.ok (suffix_of_cons behind)) (.here (behind.trans within) nofun)

/-- A character that is expected is taken. -/
theorem expectChar_keeps (expected : Char) (text : List Char) :
    Keeps text (fun rest => rest <:+ text ∧ rest.length < text.length) (expectChar expected text) := by
  have behind : skipBlanks text <:+ text := skipBlanks_suffix List.suffix_rfl
  unfold expectChar
  split
  · exact .here List.nil_suffix nofun
  · rename_i blanks
    rw [blanks] at behind
    exact .ite (.ok ⟨suffix_of_cons behind, behind.length_le⟩) (.here behind nofun)

theorem readOperator_keeps (text : List Char) :
    Keeps text (fun found => ∀ operator rest, found = some (operator, rest) → rest <:+ text ∧ rest.length < text.length)
      (readOperator text) := by
  have none : Keeps text
      (fun found => ∀ (operator : Operator) rest, found = some (operator, rest) → rest <:+ text ∧ rest.length < text.length)
      (.ok none) := by
    apply Keeps.ok
    intro operator rest found
    cases found
  have behind : skipBlanks text <:+ text := skipBlanks_suffix List.suffix_rfl
  unfold readOperator
  simp only
  split
  · exact none
  · apply Keeps.ite _ none
    refine ((readToken_keeps _).mono behind).bind ?_
    rintro ⟨token, rest⟩ ⟨left, shorter⟩
    apply Keeps.ok
    intro operator rest' found
    rcases Option.map_eq_some_iff.1 found with ⟨_, isOperator, same⟩
    rcases Prod.mk.inj same with ⟨-, rfl⟩
    exact ⟨left.trans behind, Nat.lt_of_lt_of_le (shorter (by rw [isOperator]; rfl)) behind.length_le⟩

theorem readBound_keeps (within : text <:+ whole) : KeepsIn whole (readBound text) := by
  have behind := skipBlanks_suffix within
  unfold readBound
  simp only
  split
  · refine .ite ?_ (.ok behind)
    refine (readInteger_keeps behind).bind ?_
    rintro ⟨bound, rest⟩ left
    exact .ok (skipBlanks_suffix left)
  · exact .ok List.nil_suffix

theorem readSelector_keeps (within : text <:+ whole) : KeepsIn whole (readSelector text) := by
  unfold readSelector
  split
  · exact .here List.nil_suffix nofun
  · apply Keeps.ite
    · exact (readQuoted_keeps within).map fun _ left => left
    apply Keeps.ite
    · exact (readInteger_keeps within).map fun _ left => left
    exact .here within nofun

/-- A further selector takes a character at least, so a budget above the length of the text is enough. -/
theorem readSelectors_keeps {budget : Nat} (enough : text.length < budget) : KeepsIn text (readSelectors budget text) := by
  induction budget generalizing text with
  | zero => exact absurd enough (Nat.not_lt_zero _)
  | succ budget ih =>
      unfold readSelectors
      split
      · rename_i rest
        have inside : skipBlanks rest <:+ ',' :: rest := skipBlanks_suffix (List.suffix_cons _ _)
        refine ((readSelector_keeps List.suffix_rfl : KeepsIn (skipBlanks rest) _).mono inside).bind ?_
        rintro ⟨selector, afterSelector⟩ left
        have next : skipBlanks afterSelector <:+ rest := skipBlanks_suffix (left.trans (skipBlanks_suffix List.suffix_rfl))
        have shorter := next.length_le
        rw [List.length_cons] at enough
        have behind := next.trans (List.suffix_cons ',' rest)
        refine ((ih (by omega) : KeepsIn (skipBlanks afterSelector) _).mono behind).bind ?_
        rintro ⟨selectors, rest⟩ further
        exact .ok (further.trans behind)
      · exact .ok List.suffix_rfl

variable [RegexSyntax]

theorem compileLiteral_keeps (opened : start <:+ whole) (anchored : Bool) (equation : Equation) :
    Keeps whole (fun _ => True) (compileLiteral anchored start equation) := by
  unfold compileLiteral
  simp only
  split
  · split
    · exact .ok trivial
    · exact .here opened nofun
  · split
    · exact .ok trivial
    · exact .here opened nofun
  · exact .ok trivial

theorem readBare?_suffix {fragment : Fragment Script} (within : text <:+ whole)
    (read : readBare? text = some (fragment, rest)) : rest <:+ whole := by
  unfold readBare? at read
  split at read
  · rcases Prod.mk.inj (Option.some.inj read) with ⟨-, rfl⟩
    exact suffix_of_cons within
  · simp only at read
    split at read
    · cases read
    · rcases Prod.mk.inj (Option.some.inj read) with ⟨-, rfl⟩
      exact drop_suffix within _

theorem readHead?_suffix {fragment : Fragment Script} (within : text <:+ whole)
    (read : readHead? text = some (fragment, rest)) : rest <:+ whole := by
  unfold readHead? at read
  split at read
  · rcases Prod.mk.inj (Option.some.inj read) with ⟨-, rfl⟩
    exact suffix_of_cons within
  · rcases Prod.mk.inj (Option.some.inj read) with ⟨-, rfl⟩
    exact suffix_of_cons within
  · exact readBare?_suffix within read

theorem readAfterPoint_keeps (within : text <:+ whole) : KeepsIn whole (readAfterPoint text) := by
  unfold readAfterPoint
  split
  · rename_i found
    exact .ok (readBare?_suffix within found)
  · exact .here within nofun
  · exact .here List.nil_suffix nofun

theorem readSlice_keeps (first : Option Int64) (within : text <:+ whole) : KeepsIn whole (readSlice first text) := by
  unfold readSlice
  refine (readBound_keeps within).bind ?_
  rintro ⟨stop, afterStop⟩ left
  simp only
  split
  · refine (readBound_keeps (suffix_of_cons left)).bind ?_
    rintro ⟨step, afterStep⟩ left
    simp only
    split
    · exact .ok List.nil_suffix
    · exact .ite (.ok left) (.here left nofun)
  · rw [ok_bind]
    simp only
    split
    · exact .ok List.nil_suffix
    · exact .ite (.ok left) (.here left nofun)

theorem readUnion_keeps (first : Selector) (text : List Char) : KeepsIn text (readUnion first text) :=
  (readSelectors_keeps (Nat.lt_succ_self _)).map fun _ left => left

end Readers

/-! ## Paths and scripts -/

section Budgets

variable [RegexSyntax]

/--
What is claimed of the readers at one budget: they keep in a text if they are called at ends of it and the budget is enough
for these. A reader that calls another one at the same place needs one more than that.
-/
structure Contained (whole : List Char) (budget : Nat) : Prop where
  path : ∀ {text : List Char}, text <:+ whole → 4 * text.length + 2 ≤ budget →
    KeepsFrom whole text (readPath budget text)
  fragments : ∀ {text : List Char}, text <:+ whole → 4 * text.length + 1 ≤ budget →
    KeepsFrom whole text (readFragments budget text)
  bracket : ∀ {start text : List Char}, start <:+ whole → text <:+ whole → 4 * text.length + 1 ≤ budget →
    KeepsFrom whole text (readBracket budget start text)
  equation : ∀ {text : List Char} (loosest : Nat), text <:+ whole → 4 * text.length + 4 ≤ budget →
    KeepsFrom whole text (readEquation budget loosest text)
  operators : ∀ {text : List Char} (loosest : Nat) (left : Equation), text <:+ whole → 4 * text.length + 1 ≤ budget →
    KeepsFrom whole text (readOperators budget loosest left text)
  operand : ∀ {text : List Char}, text <:+ whole → 4 * text.length + 3 ≤ budget →
    KeepsFrom whole text (readOperand budget text)
  call : ∀ {start text : List Char} (function : Operator), start <:+ whole → text <:+ whole →
    4 * text.length + 1 ≤ budget → KeepsFrom whole text (readCall budget function start text)

variable {whole : List Char}

theorem contained_zero : Contained whole 0 where
  path _ enough := absurd enough (Nat.not_succ_le_zero _)
  fragments _ enough := absurd enough (Nat.not_succ_le_zero _)
  bracket _ _ enough := absurd enough (Nat.not_succ_le_zero _)
  equation _ _ enough := absurd enough (Nat.not_succ_le_zero _)
  operators _ _ _ enough := absurd enough (Nat.not_succ_le_zero _)
  operand _ enough := absurd enough (Nat.not_succ_le_zero _)
  call _ _ _ enough := absurd enough (Nat.not_succ_le_zero _)

namespace Contained

variable {budget : Nat} {start text rest : List Char}

theorem path_succ (contained : Contained whole budget) (within : text <:+ whole)
    (enough : 4 * text.length + 2 ≤ budget + 1) : KeepsFrom whole text (readPath (budget + 1) text) := by
  rw [readPath]
  split
  · rename_i found
    have behind := readHead?_suffix List.suffix_rfl found
    have shorter := behind.length_le
    refine (contained.fragments (behind.trans within) (by omega)).bind ?_
    rintro ⟨fragments, rest⟩ left
    exact .ok (left.trans behind)
  · refine (contained.fragments within (by omega)).bind ?_
    rintro ⟨fragments, rest⟩ left
    exact .ok left

theorem fragments_succ (contained : Contained whole budget) (within : text <:+ whole)
    (enough : 4 * text.length + 1 ≤ budget + 1) : KeepsFrom whole text (readFragments (budget + 1) text) := by
  -- behind any fragment, which takes a character at least, the fragments go on
  have others {rest : List Char} (f : List (Fragment Script) → List (Fragment Script)) (behind : rest <:+ text)
      (shorter : rest.length < text.length) :
      KeepsFrom whole text (readFragments budget rest >>= fun read => .ok (f read.1, read.2)) :=
    (contained.fragments (behind.trans within) (by omega)).bind fun _ left => .ok (left.trans behind)
  unfold readFragments
  split
  · rename_i rest
    have behind : rest <:+ '.' :: '.' :: rest := suffix_of_cons (List.suffix_cons _ _)
    have shorter : rest.length < ('.' :: '.' :: rest).length := by
      simp only [List.length_cons]
      omega
    split
    · rename_i found
      have afterBare := readBare?_suffix List.suffix_rfl found
      exact others (.descent :: _ :: ·) (afterBare.trans behind) (Nat.lt_of_le_of_lt afterBare.length_le shorter)
    · exact others (.descent :: ·) behind shorter
  · rename_i rest _
    have behind : rest <:+ '.' :: rest := List.suffix_cons _ _
    refine ((readAfterPoint_keeps List.suffix_rfl : KeepsIn rest _).mono (behind.trans within)).bind ?_
    rintro ⟨fragment, afterFragment⟩ left
    exact others (fragment :: ·) (left.trans behind) (Nat.lt_succ_of_le left.length_le)
  · rename_i rest
    have behind : rest <:+ '[' :: rest := List.suffix_cons _ _
    rw [List.length_cons] at enough
    refine (contained.bracket within (behind.trans within) (by omega)).bind ?_
    rintro ⟨fragment, afterFragment⟩ left
    refine (closeBracket_keeps within ((left.trans behind).trans within)).bind ?_
    intro afterBracket further
    have left := further.trans left
    exact others (fragment :: ·) (left.trans behind) (Nat.lt_succ_of_le left.length_le)
  · exact others (.wildcard :: ·) (List.suffix_cons _ _) (Nat.lt_succ_self _)
  · exact .ok List.suffix_rfl

theorem bracket_succ (contained : Contained whole budget) (opened : start <:+ whole) (within : text <:+ whole)
    (enough : 4 * text.length + 1 ≤ budget + 1) : KeepsFrom whole text (readBracket (budget + 1) start text) := by
  have behind : skipBlanks text <:+ text := skipBlanks_suffix List.suffix_rfl
  have shorter := behind.length_le
  unfold readBracket
  simp only
  split
  · exact .error ⟨opened, List.nil_suffix, nofun⟩
  · rename_i c rest blanks
    rw [blanks, List.length_cons] at shorter
    have inside : rest <:+ text := by
      rw [blanks] at behind
      exact suffix_of_cons behind
    -- what a reader of text behind the blanks keeps
    have keeps {α : Type} {last : List Char} {outcome : Except Fault (α × List Char)} (keeps : KeepsIn last outcome)
        (left : last <:+ text) : KeepsFrom whole text outcome :=
      (keeps.mono (left.trans within)).imp fun _ further => further.trans left
    -- the marks in the order in which the reader looks for them; only keys, filters and integers are left to show
    refine .ite (.error ⟨opened, behind.trans within, nofun⟩) (.ite ?_ (.ite (.ok inside) (.ite ?_
      (.ite (keeps (readSlice_keeps none List.suffix_rfl) inside) (.ite ?_ (.here (behind.trans within) nofun))))))
    · refine (keeps (readQuoted_keeps List.suffix_rfl) behind).bind ?_
      rintro ⟨key, afterKey⟩ left
      have next := skipBlanks_suffix left
      simp only
      split
      · rename_i comma
        rw [comma] at next
        exact keeps (readUnion_keeps _ _) next
      · exact .ok next
    · refine (contained.equation Operator.loosest (inside.trans within) (by omega)).bind ?_
      rintro ⟨equation, rest⟩ left
      exact .ok (left.trans inside)
    · refine (keeps (readInteger_keeps List.suffix_rfl) behind).bind ?_
      rintro ⟨i, afterInteger⟩ left
      have next := skipBlanks_suffix left
      simp only
      split
      · rename_i colon
        rw [colon] at next
        exact keeps (readSlice_keeps _ List.suffix_rfl) (suffix_of_cons next)
      · rename_i comma
        rw [comma] at next
        exact keeps (readUnion_keeps _ _) next
      · exact .ok next

theorem equation_succ (contained : Contained whole budget) (loosest : Nat) (within : text <:+ whole)
    (enough : 4 * text.length + 4 ≤ budget + 1) : KeepsFrom whole text (readEquation (budget + 1) loosest text) := by
  rw [readEquation]
  refine (contained.operand within (by omega)).bind ?_
  rintro ⟨operand, rest⟩ left
  have shorter := left.length_le
  exact (contained.operators loosest operand (left.trans within) (by omega)).imp fun _ further => further.trans left

theorem operators_succ (contained : Contained whole budget) (loosest : Nat) (left : Equation) (within : text <:+ whole)
    (enough : 4 * text.length + 1 ≤ budget + 1) :
    KeepsFrom whole text (readOperators (budget + 1) loosest left text) := by
  rw [readOperators]
  refine ((readOperator_keeps text).mono within).bind ?_
  rintro (_ | ⟨operator, rest⟩) found
  · exact .ok List.suffix_rfl
  · rcases found operator rest rfl with ⟨behind, shorter⟩
    refine .ite (.ok List.suffix_rfl) ?_
    refine (contained.equation _ (behind.trans within) (by omega)).bind ?_
    rintro ⟨right, afterRight⟩ further
    have fewer : afterRight.length ≤ rest.length := further.length_le
    have behind : afterRight <:+ text := further.trans behind
    have others (equation : Equation) : KeepsFrom whole text (readOperators budget loosest equation afterRight) :=
      (contained.operators loosest equation (behind.trans within) (by omega)).imp fun _ further => further.trans behind
    apply Keeps.ite
    · refine (compileLiteral_keeps within false right).bind ?_
      rintro compiled -
      exact others _
    · exact others _

theorem operand_succ (contained : Contained whole budget) (within : text <:+ whole)
    (enough : 4 * text.length + 3 ≤ budget + 1) : KeepsFrom whole text (readOperand (budget + 1) text) := by
  have behind : skipBlanks text <:+ text := skipBlanks_suffix List.suffix_rfl
  have shorter := behind.length_le
  rw [readOperand]
  simp only
  split
  · exact .here List.nil_suffix nofun
  · rename_i c rest blanks
    have few : rest.length + 1 ≤ text.length := by
      rw [blanks] at shorter
      exact shorter
    have inside : rest <:+ text := by
      rw [blanks] at behind
      exact suffix_of_cons behind
    have keeps {α : Type} {outcome : Except Fault (α × List Char)} (keeps : KeepsIn (skipBlanks text) outcome) :
        KeepsFrom whole text outcome :=
      (keeps.mono (behind.trans within)).imp fun _ further => further.trans behind
    -- the marks in the order in which the reader looks for them; patterns and numbers are read by readers of their own
    refine .ite ?_ (.ite ?_ (.ite (keeps (readPattern_keeps List.suffix_rfl)) (.ite ?_ (.ite ?_
      (.ite (keeps (readNumericOperand_keeps _)) (.ite ?_ (.here (behind.trans within) nofun)))))))
    · refine (contained.path (behind.trans within) (by omega)).bind ?_
      rintro ⟨path, rest⟩ left
      exact .ok (left.trans behind)
    · refine (keeps (readQuoted_keeps List.suffix_rfl)).bind ?_
      rintro ⟨string, rest⟩ left
      exact .ok left
    · refine (contained.equation Operator.loosest (inside.trans within) (by omega)).bind ?_
      rintro ⟨group, afterGroup⟩ left
      refine ((expectChar_keeps ')' afterGroup).mono ((left.trans inside).trans within)).bind ?_
      rintro rest ⟨further, -⟩
      exact .ok ((further.trans left).trans inside)
    · refine (contained.operand (inside.trans within) (by omega)).bind ?_
      rintro ⟨argument, rest⟩ left
      exact .ok (left.trans inside)
    · have afterWord : (splitWord (skipBlanks text)).2 <:+ text := drop_suffix behind _
      have fewer := afterWord.length_le
      split
      · exact .ok afterWord
      · exact (contained.call _ (behind.trans within) (afterWord.trans within) (by omega)).imp
          fun _ left => left.trans afterWord
      · exact .error ⟨behind.trans within, afterWord.trans within, nofun⟩

theorem call_succ (contained : Contained whole budget) (function : Operator) (opened : start <:+ whole)
    (within : text <:+ whole) (enough : 4 * text.length + 1 ≤ budget + 1) :
    KeepsFrom whole text (readCall (budget + 1) function start text) := by
  -- a character that is expected behind a part of the text
  have expects (expected : Char) {rest : List Char} (behind : rest <:+ text) :
      Keeps whole (fun left => left <:+ text ∧ left.length < rest.length) (expectChar expected rest) :=
    ((expectChar_keeps expected rest).mono (behind.trans within)).imp fun _ left => ⟨left.1.trans behind, left.2⟩
  -- an argument there
  have argument {rest : List Char} (behind : rest <:+ text) (shorter : rest.length < text.length) :
      Keeps whole (fun read => read.2 <:+ text ∧ read.2.length ≤ rest.length)
        (readEquation budget Operator.loosest rest) :=
    (contained.equation Operator.loosest (behind.trans within) (by omega)).imp
      fun _ left => ⟨left.trans behind, left.length_le⟩
  rw [readCall]
  refine (expects '(' List.suffix_rfl).bind ?_
  rintro inner ⟨left, shorter⟩
  refine (argument left shorter).bind ?_
  rintro ⟨first, afterFirst⟩ ⟨left, fewer⟩
  apply Keeps.ite
  · refine (expects ')' left).bind ?_
    rintro rest ⟨left, -⟩
    exact .ok left
  · refine (expects ',' left).bind ?_
    rintro middle ⟨left, less⟩
    refine (argument left (by simp only at fewer less; omega)).bind ?_
    rintro ⟨second, afterSecond⟩ ⟨left, -⟩
    refine (expects ')' left).bind ?_
    rintro rest ⟨left, -⟩
    refine (compileLiteral_keeps opened _ second).bind ?_
    rintro compiled -
    exact .ok left

end Contained

theorem contained (whole : List Char) (budget : Nat) : Contained whole budget := by
  induction budget with
  | zero => exact contained_zero
  | succ budget ih =>
      exact {
        path := ih.path_succ
        fragments := ih.fragments_succ
        bracket := ih.bracket_succ
        equation := ih.equation_succ
        operators := ih.operators_succ
        operand := ih.operand_succ
        call := ih.call_succ }

/-! ## Whole texts -/

theorem readWholePath_keeps (text : List Char) :
    Keeps text (fun path => readPath (readingBudget text) text = .ok (path, [])) (readWholePath text) := by
  have keeps := (contained text (readingBudget text)).path List.suffix_rfl (by rw [readingBudget]; omega)
  unfold readWholePath
  refine keeps.self.bind ?_
  rintro ⟨path, rest⟩ ⟨read, left⟩
  simp only
  split
  · exact .ok read
  · refine .here left ?_
    split <;> exact nofun

theorem readWholeScript_keeps (text : List Char) :
    Keeps text (fun script => ∃ equation rest,
        readEquation (readingBudget text) Operator.loosest text = .ok (equation, rest) ∧
          rest <:+ text ∧ skipBlanks rest = [] ∧ equation.script = script)
      (readWholeScript text) := by
  have keeps := (contained text (readingBudget text)).equation Operator.loosest List.suffix_rfl
    (by rw [readingBudget]; omega)
  unfold readWholeScript
  refine keeps.self.bind ?_
  rintro ⟨equation, rest⟩ ⟨read, left⟩
  have behind := skipBlanks_suffix left
  simp only
  split
  · rename_i nothing
    exact .ok ⟨equation, rest, read, left, nothing, rfl⟩
  · rename_i more
    rw [more] at behind
    exact .here behind nofun

end Budgets

/-- The position of an error is in the text, and the characters near it are the twelve from there on, or all that there are. -/
structure SyntaxError.PointsInto (error : SyntaxError) (text : String) : Prop where
  position_le : error.position ≤ text.length
  near_eq : error.near = String.ofList ((text.toList.drop error.position).take 12)

theorem Fault.IsIn.pointsInto {fault : Fault} {text : String} (within : fault.IsIn text.toList) :
    (SyntaxError.ofFault 0 text.toList fault).PointsInto text := by
  have position : (SyntaxError.ofFault 0 text.toList fault).position = text.toList.length - fault.site.length :=
    Nat.zero_add _
  refine ⟨?_, ?_⟩
  · rw [position, String.length_toList]
    exact Nat.sub_le _ _
  · rw [position, ← List.suffix_iff_eq_drop.1 within.site]
    rfl

theorem Keeps.pointsInto {α : Type} {text : String} {wanted : α → Prop} {outcome : Except Fault α} {error : SyntaxError}
    (keeps : Keeps text.toList wanted outcome)
    (failed : outcome.mapError (SyntaxError.ofFault 0 text.toList) = .error error) : error.PointsInto text := by
  cases keeps with
  | ok => cases failed
  | error within =>
      rcases Except.error.inj failed with rfl
      exact within.pointsInto

theorem Keeps.cause_ne {α : Type} {text : List Char} {wanted : α → Prop} {outcome : Except Fault α} {error : SyntaxError}
    {offset : Nat} (keeps : Keeps text wanted outcome)
    (failed : outcome.mapError (SyntaxError.ofFault offset text) = .error error) : error.cause ≠ .exhausted := by
  cases keeps with
  | ok => cases failed
  | error isIn =>
      rcases Except.error.inj failed with rfl
      exact isIn.cause

theorem Keeps.holds {α : Type} {text : List Char} {wanted : α → Prop} {value : α} (keeps : Keeps text wanted (.ok value)) :
    wanted value := by
  cases keeps with
  | ok holds => exact holds

namespace Scanner

/-- A reader that leaves an end of the text leaves the scanner in front of it. -/
theorem run_ofText {α : Type} {text : String} {reader : Reader α} {value : α} {left : List Char}
    (read : reader text.toList = .ok (value, left)) :
    (ofText text).run reader = (.ok value, ⟨text.toList, text.length - left.length⟩) := by
  have found : reader (ofText text).rest = .ok (value, left) := read
  rw [run, found, ← String.length_toList]
  simp [leaving, ofText, rest]

/-- In front of nothing but blanks a scanner gets to the end. -/
theorem skip_of_suffix {text left : List Char} (within : left <:+ text) (blank : skipBlanks left = []) :
    (Scanner.mk text (text.length - left.length)).skip = ⟨text, text.length⟩ := by
  have rest : (Scanner.mk text (text.length - left.length)).rest = left := (List.suffix_iff_eq_drop.1 within).symm
  have le := within.length_le
  rw [skip, leaving, rest, blank]
  simp only [List.length_nil, Nat.sub_zero, Scanner.mk.injEq, true_and]
  omega

end Scanner

/-- The budget of a whole text is never exhausted: a text that is not read has some other fault. -/
theorem cause_ne_exhausted [RegexSyntax] (offset : Nat) (text : String) :
    (∀ error, Path.parseFrom offset text = .error error → error.cause ≠ .exhausted) ∧
      ∀ error, Script.parseFrom offset text = .error error → error.cause ≠ .exhausted :=
  ⟨fun _ failed => (readWholePath_keeps _).cause_ne failed, fun _ failed => (readWholeScript_keeps _).cause_ne failed⟩

/--
An error in the text of a path or script points into the text. A path or script that is read takes the whole text: the scanner
that runs the reader gets to the end, behind a script after the blanks there.
-/
theorem parse_positions [RegexSyntax] (text : String) :
    (∀ error, Path.parse text = .error error → error.PointsInto text) ∧
      (∀ error, Script.parse text = .error error → error.PointsInto text) ∧
      (∀ path, Path.parse text = .ok path →
        (Scanner.ofText text).run (readPath (readingBudget text.toList)) = (.ok path, ⟨text.toList, text.length⟩)) ∧
      (∀ script, Script.parse text = .ok script →
        ∃ equation scanner,
          (Scanner.ofText text).run (readEquation (readingBudget text.toList) Operator.loosest) = (.ok equation, scanner) ∧
          equation.script = script ∧ scanner.skip = ⟨text.toList, text.length⟩) := by
  have path := readWholePath_keeps text.toList
  have script := readWholeScript_keeps text.toList
  refine ⟨fun error failed => path.pointsInto failed, fun error failed => script.pointsInto failed, ?_, ?_⟩
  · intro read parsed
    have found : readWholePath text.toList = .ok read := mapError_eq_ok.1 parsed
    rw [found] at path
    exact Scanner.run_ofText path.holds
  · intro read parsed
    have found : readWholeScript text.toList = .ok read := mapError_eq_ok.1 parsed
    rw [found] at script
    rcases script.holds with ⟨equation, rest, readFirst, within, blank, same⟩
    refine ⟨equation, _, Scanner.run_ofText readFirst, same, ?_⟩
    rw [← String.length_toList]
    exact Scanner.skip_of_suffix within blank

/-- The error that an outcome is, if it is one. It can be compared where results cannot. -/
def errorOf? {ε α : Type} : Except ε α → Option ε
  | .ok _ => none
  | .error fault => some fault

theorem eq_error_of_errorOf? {ε α : Type} {outcome : Except ε α} {fault : ε} (failed : errorOf? outcome = some fault) :
    outcome = .error fault := by
  cases outcome with
  | ok => cases failed
  | error => rw [Option.some.inj failed]

/-- A key without its closing quote, an operator without an operand, and a path. -/
theorem parse_positions_sample :
    (SyntaxError.mk .unclosedString 2 "'name").PointsInto "$['name" ∧
      (SyntaxError.mk .missingOperand 5 "").PointsInto "1 +  " ∧
      (Scanner.ofText "$.a").run (readPath (readingBudget "$.a".toList)) =
        (.ok ⟨[.root, .child "a"]⟩, ⟨"$.a".toList, 3⟩) := by
  have unclosed : errorOf? (Path.parse "$['name") = some ⟨.unclosedString, 2, "'name"⟩ := by decide +kernel
  have missing : errorOf? (Script.parse "1 +  ") = some ⟨.missingOperand, 5, ""⟩ := by decide +kernel
  exact ⟨(parse_positions "$['name").1 _ (eq_error_of_errorOf? unclosed),
    (parse_positions "1 +  ").2.1 _ (eq_error_of_errorOf? missing), (parse_positions "$.a").2.2.1 _ rfl⟩

end TreePath

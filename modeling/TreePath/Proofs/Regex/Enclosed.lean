import TreePath.Proofs.Regex.Closing
import TreePath.Proofs.Regex.Items

/-!
# Enclosed expressions

Whatever is read as a regular expression is read as the same expression in front of `closing`, where the group around it
ends: `ofText?_enclosed` says that enclosing the text of an expression yields the expression between the two anchors, if it
yields any. It yields none where the expression then nests too deeply, and where it ends with a comment in spaced mode, since
the comment takes in the end of the group. Nothing is claimed here of texts that are no regular expressions, since some of
them are when they are enclosed.
-/

namespace TreePath

namespace Regex

/-- An expression between two anchors is no choice. -/
theorem alternatives_enclosed (regex : Regex) : regex.enclosed.alternatives = [regex.enclosed] := by
  have isSequence : regex.enclosed =
      inSequence (.assertion .textStart :: joinedParts (regex.parts ++ [.assertion .textEnd])) := by
    rw [enclosed, ofParts]
    simp only [List.flatMap_cons, List.flatMap_nil, List.append_nil]
    rfl
  rw [isSequence]
  cases joinedParts (regex.parts ++ [.assertion .textEnd]) <;> rfl

theorem ofAlternatives_enclosed (regex : Regex) : ofAlternatives [regex.enclosed] = regex.enclosed := by
  rw [ofAlternatives, List.flatMap_singleton, alternatives_enclosed]

variable [UnicodeProperties]

section Closing

/-! ## Items -/

variable {modes nextModes : Modes} {text rest : List Char} {groups later : Groups} {read next : Alternatives}
  {budget more : Nat}

theorem Part.append {regex : Regex} {depth : Nat} (isPart : Part modes text regex depth rest) :
    Part modes (text ++ closing) regex depth (rest ++ closing) := by
  cases isPart with
  | @set text _ _ readMembers =>
      refine .set ((closesClasses _).whole ?_ readMembers)
      show text.length + 1 ≤ (text ++ closing).length + 1
      rw [List.length_append]
      omega
  | dot admitted => exact .dot admitted
  | start => exact .start
  | finish => exact .finish
  | escape readEscape => exact .escape (readEscape?_append readEscape)
  | character plain => exact .character plain

/--
What alternatives read with a budget they read in front of `closing` with any larger one. If they go on to the end of the
text, a comment there may take in `closing`.
-/
def ClosesAlternatives (budget : Nat) : Prop :=
  ∀ {more : Nat} {modes : Modes} {groups later : Groups} {read : Alternatives} {text rest : List Char}
    {regex : Nested Regex}, budget ≤ more →
    readAlternatives? budget modes groups read text = some (regex, later, rest) →
      readAlternatives? more modes groups read (text ++ closing) = some (regex, later, rest ++ closing) ∨
        rest = [] ∧ readAlternatives? more modes groups read (text ++ closing) = some (regex, later, [])

/-- A group that is closed within the text is read in the same way. -/
theorem ClosesAlternatives.group (closes : ClosesAlternatives budget) (larger : budget ≤ more) {regex : Nested Regex}
    (reads : readAlternatives? budget modes groups read text = some (regex, later, ')' :: rest)) :
    readAlternatives? more modes groups read (text ++ closing) = some (regex, later, ')' :: (rest ++ closing)) := by
  rcases closes larger reads with reads | ⟨atEnd, -⟩
  · exact reads
  · cases atEnd

theorem readAlternatives?_nil :
    readAlternatives? (budget + 1) modes groups read [] = some (read.regex, groups, []) := by
  have nothing : modes.skip [] = [] := congrArg Prod.snd modes.span_nil
  rw [readAlternatives?_of_isGroupEnd (.inl nothing), nothing]

/-- A group whose body ends at a parenthesis does not begin at the end of the text. -/
theorem ne_nil_of_readBody {start : GroupStart} {inside : List Char} {inner : Modes} {begun : Groups}
    {body : Nested Regex} (starts : readGroupStart? modes text = some (start, inside))
    (readBody : readAlternatives? budget inner begun .start inside = some (body, later, ')' :: rest)) : text ≠ [] := by
  rintro rfl
  rcases Option.some.inj starts with ⟨rfl, rfl⟩
  cases budget with
  | zero => cases readBody
  | succ budget =>
      rw [readAlternatives?_nil] at readBody
      cases readBody

theorem Item.append (closes : ClosesAlternatives budget) (larger : budget ≤ more)
    (item : Item budget modes groups read text nextModes later next rest) :
    Item more modes groups read (text ++ closing) nextModes later next (rest ++ closing) := by
  cases item with
  | alternative => exact .alternative
  | modeChange start =>
      refine .modeChange (readGroupStart?_skip (fun atEnd => ?_) start)
      rw [atEnd] at start
      cases start
  | plainGroup start readBody =>
      have present := ne_nil_of_readBody start readBody
      exact .plainGroup (readGroupStart?_skip present start) (closes.group larger readBody)
  | capturingGroup start begins readBody =>
      have present := ne_nil_of_readBody start readBody
      exact .capturingGroup (readGroupStart?_skip present start) begins (closes.group larger readBody)
  | part isPart => exact .part isPart.append
  | repetition isMark before count => exact .repetition isMark before (readRepetition?_append count)

/-- In front of an item something is left of the text. -/
theorem Item.ne_nil (item : Item budget modes groups read text nextModes later next rest) :
    ∃ c others, text = c :: others := by
  cases item with
  | part isPart => cases isPart <;> exact ⟨_, _, rfl⟩
  | _ => exact ⟨_, _, rfl⟩

theorem closesAlternatives (budget : Nat) : ClosesAlternatives budget := by
  induction budget with
  | zero =>
      intro _ _ _ _ _ _ _ _ _ reads
      cases reads
  | succ budget ih =>
      intro more modes groups later read text rest regex larger reads
      rcases Nat.exists_eq_add_of_lt larger with ⟨extra, rfl⟩
      rcases readAlternatives?_cases reads with ⟨ends, same⟩ | ⟨nextModes, nextGroups, next, left, item, reads⟩
      · rcases same with ⟨rfl, rfl, rfl⟩
        rcases ends with atEnd | ⟨left, atParenthesis⟩
        · rcases modes.skip_closing atEnd with same | same
          · refine .inl ?_
            rw [readAlternatives?_of_isGroupEnd (.inr ⟨_, same⟩), same, atEnd]
            rfl
          · refine .inr ⟨atEnd, ?_⟩
            rw [readAlternatives?_of_isGroupEnd (.inl same), same]
        · refine .inl ?_
          have same := modes.skip_append atParenthesis closing
          rw [readAlternatives?_of_isGroupEnd (.inr ⟨_, same⟩), same, atParenthesis]
          rfl
      · rcases item.ne_nil with ⟨c, others, begins⟩
        have again := item.append ih (Nat.le_add_right budget extra)
        rw [begins, List.cons_append, ← modes.skip_append begins] at again
        rw [again.readAlternatives?_eq]
        exact ih (Nat.le_add_right budget extra) reads

end Closing

/-! ## Texts between anchors -/

section Anchors

variable {source : List Char} {regex anchored : Regex}

/-- An enclosed text of an expression is read as the expression between two anchors, if it is read as anything. -/
theorem readAlternatives?_enclosed {nested : Nested Regex} {groups : Groups} {budget more : Nat}
    (larger : budget ≤ more)
    (reads : readAlternatives? budget .initial [] .start source = some (nested, groups, [])) :
    (∃ whole : Nested Regex, whole.value = nested.value.enclosed ∧
      readAlternatives? (more + 4) .initial [] .start ('^' :: '(' :: '?' :: ':' :: (source ++ closing)) =
        some (whole, groups, [])) ∨
      readAlternatives? (more + 4) .initial [] .start ('^' :: '(' :: '?' :: ':' :: (source ++ closing)) = none := by
  have begins : Item (more + 3) .initial [] .start ('^' :: '(' :: '?' :: ':' :: (source ++ closing)) .initial [] _ _ :=
    .part .start
  rw [Item.readAlternatives?_eq begins]
  rcases closesAlternatives budget (larger.trans (Nat.le_add_right more 2)) reads with reads | ⟨-, reads⟩
  · have goesOn (read : Alternatives) :
        Item (more + 2) .initial [] read ('(' :: '?' :: ':' :: (source ++ closing)) .initial groups _ ['$'] :=
      .plainGroup rfl reads
    have finishes (read : Alternatives) : Item (more + 1) .initial groups read ['$'] .initial groups _ [] :=
      .part .finish
    refine .inl ?_
    rw [Item.readAlternatives?_eq (goesOn _), Item.readAlternatives?_eq (finishes _), readAlternatives?_nil]
    exact ⟨_, ofAlternatives_enclosed nested.value, rfl⟩
  · refine .inr ?_
    rw [readAlternatives?]
    show Option.bind (readAlternatives? (more + 2) .initial [] .start (source ++ closing)) _ = none
    rw [reads]
    rfl

/-- Enclosing the text of an expression yields the expression between two anchors, if it yields any. -/
theorem ofText?_enclosed (reads : ofText? source = some regex)
    (readsEnclosed : ofText? ("^(?:".toList ++ source ++ ")$".toList) = some anchored) : anchored = regex.enclosed := by
  have whole : "^(?:".toList ++ source ++ ")$".toList = '^' :: '(' :: '?' :: ':' :: (source ++ closing) := rfl
  have enough : 2 * ("^(?:".toList ++ source ++ ")$".toList).length + 2 = 2 * source.length + 2 + 8 + 4 := by
    simp only [List.length_append, String.length_toList]
    show 2 * (4 + source.length + 2) + 2 = _
    omega
  unfold ofText? at reads readsEnclosed
  split at reads
  · rename_i nested groups readSource
    rw [enough, whole] at readsEnclosed
    rcases readAlternatives?_enclosed (Nat.le_add_right _ 8) readSource with
      ⟨wholeRead, value, readEnclosed⟩ | readEnclosed
    · rw [readEnclosed] at readsEnclosed
      split at reads
      · rcases Option.some.inj reads with rfl
        simp only at readsEnclosed
        split at readsEnclosed
        · rw [← Option.some.inj readsEnclosed, value]
        · cases readsEnclosed
      · cases reads
    · rw [readEnclosed] at readsEnclosed
      cases readsEnclosed
  · cases reads

/-- A comment at the end of an expression takes in the end of the group around it. -/
example : (ofText? "(?x)a#".toList).isSome = true ∧ ofText? "^(?:(?x)a#)$".toList = none :=
  ⟨rfl, rfl⟩

end Anchors

end Regex

end TreePath

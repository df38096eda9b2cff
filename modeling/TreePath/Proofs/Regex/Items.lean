import TreePath.Proofs.Regex.Simplified
import TreePath.Regex.Reader

/-!
# Reading one item after the other

`Item` says all that can be read at once between the parentheses of a group: the end of an alternative, a change of
modes, a group, a part, or the repetition of the part before. Alternatives are read item by item up to the end of their
group: `readAlternatives?_cases` says so in one direction, `Item.readAlternatives?_eq` in the other. What holds of all
that is read is shown of one item first; here that is that every expression that is read is proper.
-/

namespace TreePath

namespace Regex

/-! ## Parts of proper expressions -/

/-- The alternatives that have ended and the parts of the last one are proper. -/
structure Alternatives.IsProper (read : Alternatives) : Prop where
  ended : ∀ nested ∈ read.ended, nested.value.IsProper
  parts : ∀ nested, some nested ∈ read.parts → nested.value.IsProper

namespace Alternatives.IsProper

variable {read : Alternatives}

theorem start : Alternatives.start.IsProper :=
  ⟨fun _ member => absurd member List.not_mem_nil, fun _ member => absurd member List.not_mem_nil⟩

theorem last (proper : read.IsProper) : read.last.value.IsProper := by
  apply isProper_ofParts
  intro regex member
  rcases List.mem_map.1 member with ⟨nested, isPart, rfl⟩
  rcases List.mem_map.1 isPart with ⟨part, isIn, rfl⟩
  cases part with
  | none => trivial
  | some nested => exact proper.parts nested (List.mem_reverse.1 isIn)

theorem regex (proper : read.IsProper) : read.regex.value.IsProper := by
  apply isProper_ofAlternatives
  intro regex member
  rcases List.mem_map.1 member with ⟨nested, isIn, rfl⟩
  rcases List.mem_cons.1 (List.mem_reverse.1 isIn) with rfl | isEnded
  · exact proper.last
  · exact proper.ended nested isEnded

theorem next (proper : read.IsProper) : read.next.IsProper :=
  ⟨List.forall_mem_cons.2 ⟨proper.last, proper.ended⟩, fun _ member => absurd member List.not_mem_nil⟩

theorem push {regex : Regex} {depth : Nat} (proper : read.IsProper) (properRegex : regex.IsProper) :
    (read.push regex depth).IsProper := by
  refine ⟨proper.ended, fun nested member => ?_⟩
  rcases List.mem_cons.1 member with same | isIn
  · rcases Option.some.inj same with rfl
    exact properRegex
  · exact proper.parts nested isIn

theorem pushModes (proper : read.IsProper) : read.pushModes.IsProper := by
  refine ⟨proper.ended, fun nested member => ?_⟩
  rcases List.mem_cons.1 member with same | isIn
  · cases same
  · exact proper.parts nested isIn

end Alternatives.IsProper

theorem le_of_readBounds? {modes : Modes} {text rest : List Char} {least : Nat} {most : Option Nat}
    (reads : readBounds? modes text = some (least, most, rest)) : ∀ bound ∈ most, least ≤ bound := by
  unfold readBounds? at reads
  split at reads
  · rcases Option.some.inj reads with ⟨rfl, rfl, rfl⟩
    rintro bound ⟨rfl⟩
    exact Nat.le_refl _
  · rcases Option.bind_eq_some_iff.1 reads with ⟨⟨upper, left⟩, -, reads⟩
    simp only at reads
    split at reads
    · rename_i ordered
      rcases Option.some.inj reads with ⟨rfl, rfl, rfl⟩
      rintro bound ⟨rfl⟩
      simpa using ordered
    · cases reads
  · cases reads

/-- A repetition that is read need not be made more often than it may be. -/
theorem le_of_readRepetition? {modes : Modes} {mark : Char} {text rest : List Char} {least : Nat} {most : Option Nat}
    {isMarked : Bool} (reads : readRepetition? modes mark text = some (least, most, isMarked, rest)) :
    ∀ bound ∈ most, least ≤ bound := by
  unfold readRepetition? at reads
  rcases Option.bind_eq_some_iff.1 reads with ⟨⟨first, second, left⟩, bounds, same⟩
  simp only [Option.some.injEq, Prod.mk.injEq] at same
  rcases same with ⟨rfl, rfl, -⟩
  unfold readMarkBounds? at bounds
  split at bounds
  · rcases Option.some.inj bounds with ⟨rfl, rfl, -⟩
    rintro bound ⟨⟩
  · rcases Option.some.inj bounds with ⟨rfl, rfl, -⟩
    rintro bound ⟨⟩
  · rcases Option.some.inj bounds with ⟨rfl, rfl, -⟩
    rintro bound ⟨rfl⟩
    exact Nat.zero_le _
  · exact le_of_readBounds? bounds

/-! ## Items -/

variable [UnicodeProperties]

/-- What an escape outside of classes reads as. -/
def Modes.escaped (modes : Modes) : Escape → Regex
  | .literal c => modes.character c
  | .set members => ofSet members
  | .assertion condition => .assertion condition

/-- The characters that do not stand for themselves outside of classes. -/
def marks : List Char :=
  [')', '|', '(', '[', '.', '^', '$', '\\', '*', '+', '?', '{']

/-- The marks that repeat the part before them. -/
def repetitionMarks : List Char :=
  ['*', '+', '?', '{']

/-- Whether a text begins with a part that is neither a group nor a repetition: the part, its depth and the rest. -/
inductive Part (modes : Modes) : List Char → Regex → Nat → List Char → Prop where
  | set {text rest : List Char} {members : Nested CharSet}
      (read : readClass? (text.length + 1) modes text = some (members, rest)) :
      Part modes ('[' :: text) (ofSet members.value) members.depth rest
  | dot {text : List Char} {members : CharSet} (admitted : modes.dot? = some members) :
      Part modes ('.' :: text) (ofSet members) 0 text
  | start {text : List Char} : Part modes ('^' :: text) (.assertion modes.lineStart) 0 text
  | finish {text : List Char} : Part modes ('$' :: text) (.assertion modes.lineEnd) 0 text
  | escape {text rest : List Char} {escape : Escape} (read : readEscape? modes text = some (escape, rest)) :
      Part modes ('\\' :: text) (modes.escaped escape) 0 rest
  | character {c : Char} {text : List Char} (plain : c ∉ marks) : Part modes (c :: text) (modes.character c) 0 text

/-- What one item does: the modes, the groups, the alternatives and the text after it. In front of it nothing is left
out any more. -/
inductive Item (budget : Nat) (modes : Modes) (groups : Groups) (read : Alternatives) :
    List Char → Modes → Groups → Alternatives → List Char → Prop where
  | alternative {text : List Char} : Item budget modes groups read ('|' :: text) modes groups read.next text
  | modeChange {text rest : List Char} {changed : Modes}
      (start : readGroupStart? modes (modes.skip text) = some (.modeChange changed, rest)) :
      Item budget modes groups read ('(' :: text) changed groups read.pushModes rest
  | plainGroup {text inside rest : List Char} {inner : Modes} {body : Nested Regex} {later : Groups}
      (start : readGroupStart? modes (modes.skip text) = some (.plain inner, inside))
      (readBody : readAlternatives? budget inner groups .start inside = some (body, later, ')' :: rest)) :
      Item budget modes groups read ('(' :: text) modes later (read.push body.value (body.depth + 1)) rest
  | capturingGroup {text inside rest : List Char} {name : Option String} {body : Nested Regex} {begun later : Groups}
      (start : readGroupStart? modes (modes.skip text) = some (.capturing name, inside))
      (begins : begin? groups name = some begun)
      (readBody : readAlternatives? budget modes begun .start inside = some (body, later, ')' :: rest)) :
      Item budget modes groups read ('(' :: text) modes later
        (read.push (.group groups.length body.value) (body.depth + 1)) rest
  | part {text rest : List Char} {regex : Regex} {depth : Nat} (isPart : Part modes text regex depth rest) :
      Item budget modes groups read text modes groups (read.push regex depth) rest
  | repetition {mark : Char} {text rest : List Char} {body : Nested Regex} {parts : List (Option (Nested Regex))}
      {least : Nat} {most : Option Nat} {isMarked : Bool} (isMark : mark ∈ repetitionMarks)
      (before : read.parts = some body :: parts)
      (count : readRepetition? modes mark text = some (least, most, isMarked, rest)) :
      Item budget modes groups read (mark :: text) modes groups
        ({ read with parts := parts }.push (repeated body.value least most (isMarked == modes.lazy)) (body.depth + 1))
        rest

/-- Whether the alternatives of a group end where a text begins. -/
def IsGroupEnd (text : List Char) : Prop :=
  text = [] ∨ ∃ rest, text = ')' :: rest

section Steps

variable {budget : Nat} {modes : Modes} {groups : Groups} {read : Alternatives} {text : List Char}
  {result : Nested Regex × Groups × List Char}

theorem readAlternatives?_of_isGroupEnd (ends : IsGroupEnd (modes.skip text)) :
    readAlternatives? (budget + 1) modes groups read text = some (read.regex, groups, modes.skip text) := by
  rw [readAlternatives?]
  rcases ends with isEnd | ⟨rest, isEnd⟩
  · rw [isEnd]
  · rw [isEnd]
    rfl

/-- Behind an item the alternatives go on. -/
theorem Item.readAlternatives?_eq {nextModes : Modes} {nextGroups : Groups} {next : Alternatives} {rest : List Char}
    (item : Item budget modes groups read (modes.skip text) nextModes nextGroups next rest) :
    readAlternatives? (budget + 1) modes groups read text =
      readAlternatives? budget nextModes nextGroups next rest := by
  rw [readAlternatives?]
  generalize modes.skip text = text at item
  cases item with
  | alternative => rfl
  | modeChange start => simp only [start, Option.bind_eq_bind, Option.bind_some]
  | plainGroup start readBody => simp only [start, readBody, Option.bind_eq_bind, Option.bind_some]
  | capturingGroup start begins readBody =>
      simp only [start, begins, readBody, Option.bind_eq_bind, Option.bind_some]
  | part isPart =>
      cases isPart with
      | set readMembers => simp only [readMembers, Option.bind_eq_bind, Option.bind_some]
      | dot admitted => simp only [admitted, Option.bind_eq_bind, Option.bind_some]
      | start => rfl
      | finish => rfl
      | @escape _ _ escape readEscape =>
          simp only [readEscape, Option.bind_eq_bind, Option.bind_some]
          cases escape <;> rfl
      | character plain =>
          simp only [marks, List.mem_cons, not_or] at plain
          simp [plain]
  | repetition isMark before count =>
      simp only [repetitionMarks, List.mem_cons, List.not_mem_nil, or_false] at isMark
      rcases isMark with rfl | rfl | rfl | rfl
      all_goals simp [before, count]

/-- Alternatives end, or they begin with an item and go on behind it. -/
theorem readAlternatives?_cases (reads : readAlternatives? (budget + 1) modes groups read text = some result) :
    IsGroupEnd (modes.skip text) ∧ result = (read.regex, groups, modes.skip text) ∨
      ∃ nextModes nextGroups next rest,
        Item budget modes groups read (modes.skip text) nextModes nextGroups next rest ∧
          readAlternatives? budget nextModes nextGroups next rest = some result := by
  rw [readAlternatives?] at reads
  generalize modes.skip text = text at reads ⊢
  cases text with
  | nil => exact .inl ⟨.inl rfl, (Option.some.inj reads).symm⟩
  | cons c text =>
      simp only at reads
      split at reads
      · exact .inl ⟨.inr ⟨text, rfl⟩, (Option.some.inj reads).symm⟩
      · exact .inr ⟨_, _, _, _, .alternative, reads⟩
      · rcases Option.bind_eq_some_iff.1 reads with ⟨⟨start, inside⟩, starts, reads⟩
        cases start with
        | modeChange changed => exact .inr ⟨_, _, _, _, .modeChange starts, reads⟩
        | plain inner =>
            rcases Option.bind_eq_some_iff.1 reads with ⟨⟨body, later, rest⟩, readBody, reads⟩
            simp only at reads
            split at reads
            · exact .inr ⟨_, _, _, _, .plainGroup starts readBody, reads⟩
            · cases reads
        | capturing name =>
            rcases Option.bind_eq_some_iff.1 reads with ⟨begun, begins, reads⟩
            rcases Option.bind_eq_some_iff.1 reads with ⟨⟨body, later, rest⟩, readBody, reads⟩
            simp only at reads
            split at reads
            · exact .inr ⟨_, _, _, _, .capturingGroup starts begins readBody, reads⟩
            · cases reads
      · rcases Option.bind_eq_some_iff.1 reads with ⟨⟨members, rest⟩, readMembers, reads⟩
        exact .inr ⟨_, _, _, _, .part (.set readMembers), reads⟩
      · rcases Option.bind_eq_some_iff.1 reads with ⟨members, admitted, reads⟩
        exact .inr ⟨_, _, _, _, .part (.dot admitted), reads⟩
      · exact .inr ⟨_, _, _, _, .part .start, reads⟩
      · exact .inr ⟨_, _, _, _, .part .finish, reads⟩
      · rcases Option.bind_eq_some_iff.1 reads with ⟨⟨escape, rest⟩, readEscape, reads⟩
        refine .inr ⟨_, _, _, _, .part (.escape readEscape), ?_⟩
        cases escape <;> exact reads
      · split at reads
        · rename_i isMark
          split at reads
          · rename_i before
            rcases Option.bind_eq_some_iff.1 reads with ⟨⟨least, most, isMarked, rest⟩, count, reads⟩
            exact .inr ⟨_, _, _, _, .repetition (by simpa [repetitionMarks] using isMark) before count, reads⟩
          · cases reads
        · exact .inr ⟨_, _, _, _, .part (.character (by simp_all [marks])), reads⟩

end Steps

/-! ## All that is read is proper -/

theorem Part.isProper {modes : Modes} {text rest : List Char} {regex : Regex} {depth : Nat}
    (isPart : Part modes text regex depth rest) : regex.IsProper := by
  cases isPart with
  | set => exact isProper_ofSet _
  | dot => exact isProper_ofSet _
  | start => trivial
  | finish => trivial
  | @escape _ _ escape _ =>
      cases escape with
      | literal => exact isProper_ofSet _
      | set => exact isProper_ofSet _
      | assertion => trivial
  | character => exact isProper_ofSet _

/-- Whatever is read of a group is proper, however far it is read. -/
theorem isProper_of_readAlternatives? {budget : Nat} {modes : Modes} {groups later : Groups} {read : Alternatives}
    {text rest : List Char} {regex : Nested Regex} (proper : read.IsProper)
    (reads : readAlternatives? budget modes groups read text = some (regex, later, rest)) : regex.value.IsProper := by
  induction budget generalizing modes groups later read text rest regex with
  | zero => cases reads
  | succ budget ih =>
      rcases readAlternatives?_cases reads with ⟨-, same⟩ | ⟨nextModes, nextGroups, next, left, item, reads⟩
      · rcases same with ⟨rfl, rfl, rfl⟩
        exact proper.regex
      · refine ih ?_ reads
        generalize modes.skip text = text at item
        cases item with
        | alternative => exact proper.next
        | modeChange => exact proper.pushModes
        | plainGroup _ readBody => exact proper.push (ih .start readBody)
        | capturingGroup _ _ readBody => exact proper.push (ih .start readBody)
        | part isPart => exact proper.push isPart.isProper
        | @repetition _ _ _ body parts _ _ _ _ before count =>
            have properBody : body.value.IsProper := by
              apply proper.parts
              rw [before]
              exact List.mem_cons_self
            have properRest : Alternatives.IsProper { read with parts := parts } := by
              refine ⟨proper.ended, fun nested member => proper.parts nested ?_⟩
              rw [before]
              exact List.mem_cons_of_mem _ member
            exact properRest.push (isProper_repeated properBody (le_of_readRepetition? count))

/-- The expression of a text is proper. -/
theorem isProper_of_ofText? {text : List Char} {regex : Regex} (reads : ofText? text = some regex) :
    regex.IsProper := by
  unfold ofText? at reads
  split at reads
  · rename_i readText
    split at reads
    · rcases Option.some.inj reads with rfl
      exact isProper_of_readAlternatives? .start readText
    · cases reads
  · cases reads

end Regex

end TreePath

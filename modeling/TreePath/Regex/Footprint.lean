import TreePath.Regex.Automaton
import TreePath.Regex.Basic

/-!
# The room that a regular expression takes

A regular expression is searched for by two automata over bytes, of which one reads forward and one
backward, and it counts as valid only if each of them fits into ten mebibytes. `Regex.fits` decides this.
-/

namespace TreePath

/-! ## Words -/

namespace Blueprint

def cutAtEnds : List (List Nat) → List (List (List Nat))
  | [] => [[]]
  | [] :: words => [] :: cutAtEnds words
  | word :: words =>
    match cutAtEnds words with
    | [] => [[word]]
    | segment :: segments => (word :: segment) :: segments

/-- Leaves out empty words that repeat the empty word before them, at the beginning of a list. -/
def singleEnd : List (List Nat) → List (List Nat)
  | [] :: words => [] :: words.dropWhile List.isEmpty
  | words => words

/--
The states for a choice between words, each of which goes before those after it. Words with the same first
byte share a branch unless a word that has ended stands between them. The depth is greater than the length
of the words.
-/
def wordStates : Nat → List (List Nat) → Automaton → Automaton
  | 0, _, automaton => automaton
  | depth + 1, words, automaton =>
    let segments := cutAtEnds (singleEnd words)
    let automaton := segments.foldl (fun automaton segment =>
      let bytes := (segment.filterMap List.head?).eraseDups
      let automaton := bytes.foldl (fun automaton byte =>
        let tails := segment.filterMap fun word => if word.head? = some byte then some word.tail else none
        if tails.all List.isEmpty then automaton else wordStates depth tails automaton) automaton
      if bytes.isEmpty then automaton
      else automaton.add 1 (if bytes.length = 1 then 0 else bytes.length) |>.ways 1) automaton
    automaton.add 1 0 |>.ways (segments.length - 1)

def words (texts : List (List Nat)) : Blueprint :=
  let depth := (texts.map List.length).foldl max 0 + 1
  let automaton := wordStates depth texts (Automaton.start.add 1 0)
  states automaton.states automaton.bytes

def ofSet (backward : Bool) (members : CharSet) : Blueprint :=
  let sequences := members.ranges.flatMap fun (first, last) => Text.Utf8.sequences first last
  if members.ranges.all fun range => decide (range.2 < 0x80) then
    states 2 (64 + 8 * members.ranges.length)
  else if backward then backwardSet sequences
  else forwardSet (.ofSequences sequences)

def plainStates (count : Nat) : Blueprint :=
  states count (32 * count)

/-- A part, which may be the alternative of a choice at an index. -/
def placed (index : Option Nat) (blueprint : Blueprint) : Blueprint :=
  match index with
  | none => blueprint
  | some index => alternative index blueprint

end Blueprint

namespace Regex

/-- The bytes of a literal in the order in which they are read. -/
def bytesOf (backward : Bool) (text : List Char) : List Nat :=
  let bytes := text.flatMap fun c => Text.Utf8.encode c.toNat
  if backward then bytes.reverse else bytes

def literal? : Regex → Option (List Char)
  | literal text => some text
  | _ => none

/--
What an automaton for an expression is made of. Only a forward automaton has states for groups. An expression
that is an alternative of a choice has an index there.
-/
def blueprint (backward : Bool) : Regex → Option Nat → Blueprint
  | choice left right, index =>
    let texts := if index.isNone then (choice left right).alternatives.mapM literal? else none
    match texts with
    | some texts => .words (texts.map (bytesOf backward))
    | none =>
      let index := index.getD 0
      .choice (.alternative index (left.blueprint backward none)) (right.blueprint backward (some (index + 1)))
  | empty, index => (Blueprint.plainStates 1).placed index
  | literal text, index => (Blueprint.plainStates (bytesOf backward text).length).placed index
  | set members, index => (Blueprint.ofSet backward members).placed index
  | assertion _, index => (Blueprint.plainStates 1).placed index
  | sequence first rest, index =>
    let first := first.blueprint backward none
    let rest := rest.blueprint backward none
    (if backward then Blueprint.sequence rest first else Blueprint.sequence first rest).placed index
  | repetition body least most _, index =>
    let consumes := body.shortest.any (0 < ·)
    (Blueprint.repetition (body.blueprint backward none) consumes least most).placed index
  | group _ body, index =>
    let body := body.blueprint backward none
    let enclosed := if backward then body
      else .sequence (.plainStates 1) (.sequence body (.plainStates 1))
    enclosed.placed index

/-- The automaton for an expression. Unless a match is tied to where the automaton begins, the automaton begins
by skipping bytes. -/
def automaton (backward : Bool) (regex : Regex) : Automaton :=
  let isTied := if backward then regex.endsAtEnd else regex.beginsAtStart
  let start := if isTied then Automaton.start.add 1 0 else Automaton.start.add 3 1 |>.ways 2
  let blueprint := regex.blueprint backward none
  if backward then (blueprint.build start).onward.add 1 0
  else (blueprint.build (start.add 1 0)).onward.add 2 0

/-- Whether both automata for an expression have enough room. -/
def fits (regex : Regex) : Bool :=
  !(regex.automaton false).isOver && !(regex.automaton true).isOver

end Regex

end TreePath

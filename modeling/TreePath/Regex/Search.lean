import TreePath.Regex.Basic

/-!
# Searching for a regular expression

A place of a text of `n` characters is a number from 0 to `n`. A set of places is kept as the bits of one
natural number: place `i` is in the set if bit `i` is set. `Regex.moves` says how an expression leads from
place to place in one text, and `Moves.reach` takes the places where a match may begin to the places where it
may end, all at once. For a repetition it is worked out beforehand where its body leads from each place, so
that repetitions within repetitions do not multiply the work.
-/

namespace TreePath

/-- Whether a condition holds, from whether the characters before and behind are word characters. -/
def WordCondition.holds (before behind : Bool) : WordCondition → Bool
  | boundary => before != behind
  | noBoundary => before == behind
  | start => !before && behind
  | finish => before && !behind
  | halfStart => !before
  | halfFinish => !behind

namespace Assertion

/-- The character before a place. -/
def before? (text : Array Char) : Nat → Option Char
  | 0 => none
  | place + 1 => text[place]?

/-- Whether a character is a word character, among all or among those of ASCII. -/
def isWord (unicode : Bool) (c : Char) : Bool :=
  isWordCharacter c && (unicode || decide (c.toNat < 128))

def holdsAt (text : Array Char) (place : Nat) : Assertion → Bool
  | textStart => place == 0
  | textEnd => place == text.size
  | lineStart returns =>
    place == 0 || before? text place == some '\n'
      || returns && before? text place == some '\r' && text[place]? != some '\n'
  | lineEnd returns =>
    place == text.size || text[place]? == some '\n' && !(returns && before? text place == some '\r')
      || returns && text[place]? == some '\r'
  | word condition unicode =>
    condition.holds ((before? text place).any (isWord unicode)) (text[place]?.any (isWord unicode))

end Assertion

/-- How one leads from place to place in a text, never back. The row of a place is the set of the places to
which one step leads from it. -/
inductive Moves where
  /-- Nowhere else. -/
  | stay
  /-- A number of characters ahead, from some places. -/
  | ahead (starts : Nat) (count : Nat)
  | sequence (first rest : Moves)
  | choice (left right : Moves)
  /-- At least and at most some numbers of steps. -/
  | bounded (rows : Array Nat) (least most : Nat)
  /-- At least some number of steps. The second rows are for any number of steps. -/
  | unbounded (rows closed : Array Nat) (least : Nat)

namespace Moves

def rowAt (rows : Array Nat) (place : Nat) : Nat :=
  rows[place]?.getD 0

def firstOf (places : Nat) : Nat :=
  (places ^^^ (places &&& (places - 1))).log2

/-- Those of some places that are not among others. -/
def without (places others : Nat) : Nat :=
  places ^^^ (places &&& others)

/-- Some places with the rows of others, of which there are at most as many as the first number says. -/
def withRows (rows : Array Nat) : Nat → Nat → Nat → Nat
  | 0, _, reached => reached
  | count + 1, places, reached =>
    if places = 0 then reached
    else
      let last := places.log2
      withRows rows count (places ^^^ (1 <<< last)) (reached ||| rowAt rows last)

/-- The places to which one step leads from some places. -/
def image (rows : Array Nat) (places : Nat) : Nat :=
  withRows rows rows.size places 0

/--
Some places with the rows of others for any number of steps. The row of a place that is reached already brings
nothing new, so only the rows of the other places are taken in.
-/
def withClosed (closed : Array Nat) : Nat → Nat → Nat → Nat
  | 0, _, reached => reached
  | count + 1, places, reached =>
    if places = 0 then reached
    else
      let reached := reached ||| rowAt closed (firstOf places)
      withClosed closed count (without places reached) reached

/-- The places to which any number of steps leads from some places. -/
def closure (closed : Array Nat) (places : Nat) : Nat :=
  withClosed closed closed.size places 0

/-- Finds the rows for any number of steps from the places below a bound, when the others are known. -/
def closeBelow (rows : Array Nat) : Nat → Array Nat → Array Nat
  | 0, closed => closed
  | place + 1, closed =>
    let here := 1 <<< place
    let row := withClosed closed rows.size (without (rowAt rows place) here) here
    closeBelow rows place (closed.setIfInBounds place row)

def close (rows : Array Nat) : Array Nat :=
  closeBelow rows rows.size (Array.replicate rows.size 0)

/-- Applies a step a number of times, or until it changes nothing. -/
def iterate (step : Nat → Nat) : Nat → Nat → Nat
  | 0, places => places
  | count + 1, places =>
    let next := step places
    if next = places then places else iterate step count next

/-- The places to which moves lead from some places. -/
def reach : Moves → Nat → Nat
  | stay, places => places
  | ahead starts count, places => (places &&& starts) <<< count
  | sequence first rest, places => rest.reach (first.reach places)
  | choice left right, places => left.reach places ||| right.reach places
  | bounded rows least most, places =>
    iterate (fun reached => reached ||| image rows reached) (most - least) (iterate (image rows) least places)
  | unbounded rows closed least, places => closure closed (iterate (image rows) least places)

end Moves

namespace Regex

/-- The set of the places below a bound that have a property. -/
def placesWhere (property : Nat → Bool) : Nat → Nat
  | 0 => 0
  | bound + 1 => placesWhere property bound ||| (if property bound then 1 <<< bound else 0)

def isLiteralAt (text : Array Char) : List Char → Nat → Bool
  | [], _ => true
  | c :: characters, place => text[place]? == some c && isLiteralAt text characters (place + 1)

/-- How an expression leads from the beginnings of its matches to their ends. -/
def moves (text : Array Char) : Regex → Moves
  | empty => .stay
  | literal characters => .ahead (placesWhere (isLiteralAt text characters) text.size) characters.length
  | set members => .ahead (placesWhere (fun place => text[place]?.any members.contains) text.size) 1
  | assertion condition => .ahead (placesWhere (condition.holdsAt text ·) (text.size + 1)) 0
  | sequence first rest => .sequence (first.moves text) (rest.moves text)
  | choice left right => .choice (left.moves text) (right.moves text)
  | repetition body least most _ =>
    let moves := body.moves text
    let rows := Array.ofFn fun place : Fin (text.size + 1) => moves.reach (1 <<< place.val)
    match most with
    | some most => .bounded rows least most
    | none => .unbounded rows (Moves.close rows) least
  | group _ body => body.moves text

def isMatch (regex : Regex) (text : String) : Bool :=
  let text := text.toList.toArray
  (regex.moves text).reach ((1 <<< (text.size + 1)) - 1) != 0

end Regex

end TreePath

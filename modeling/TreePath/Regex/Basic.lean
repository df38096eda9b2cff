import TreePath.Regex.CharSet
import TreePath.Text.Utf8

/-!
# Regular expressions

The syntax trees of regular expressions in a simplified form. In a simplified expression the rest of a
sequence is the second part of it, and no part is a sequence of its own; literals that follow each other are
one literal; a set of one character is a literal. Likewise the later alternatives of a choice are its right
side, a choice between characters is one set, and what all alternatives begin with stands before the choice.
The constructors `ofSet`, `ofParts`, `ofAlternatives` and `repeated` keep expressions in this form.
-/

namespace TreePath

/-- A condition on whether the characters on both sides of a place are word characters. -/
inductive WordCondition where
  /-- One of them is, and the other one is not. -/
  | boundary
  /-- Both of them are, or none. -/
  | noBoundary
  | start
  | finish
  /-- The character before is none. -/
  | halfStart
  /-- The character behind is none. -/
  | halfFinish
deriving DecidableEq

/-- A condition on a place between two characters. -/
inductive Assertion where
  | textStart
  | textEnd
  /-- The beginning of a line. A carriage return may end a line as a line feed does; the two of them end one line. -/
  | lineStart (returns : Bool)
  | lineEnd (returns : Bool)
  /-- A condition on word characters: all of them, or those of ASCII. -/
  | word (condition : WordCondition) (unicode : Bool)
deriving DecidableEq

/-- A regular expression. -/
inductive Regex where
  | empty
  | literal (text : List Char)
  | set (members : CharSet)
  | assertion (condition : Assertion)
  | sequence (first rest : Regex)
  | choice (left right : Regex)
  /-- At least `least` and at most `most` times the body, one after the other; as often as possible or, if it
  is not greedy, as seldom as possible. -/
  | repetition (body : Regex) (least : Nat) (most : Option Nat) (greedy : Bool)
  /-- A group that captures. The groups of an expression have different numbers. -/
  | group (number : Nat) (body : Regex)
deriving DecidableEq

namespace Regex

/-! ## Lengths -/

/-- The least number of bytes that a match has, if there can be a match. -/
def shortest : Regex → Option Nat
  | empty => some 0
  | literal text => some (text.map fun c => (Text.Utf8.encode c.toNat).length).sum
  | set members => members.ranges.head?.map fun range => (Text.Utf8.encode range.1).length
  | assertion _ => some 0
  | sequence first rest => do some ((← first.shortest) + (← rest.shortest))
  | choice left right => do some (min (← left.shortest) (← right.shortest))
  | repetition body least _ _ => body.shortest.map (least * ·)
  | group _ body => body.shortest

/-- The greatest number of bytes that a match has, if there is a greatest one. -/
def longest : Regex → Option Nat
  | empty => some 0
  | literal text => some (text.map fun c => (Text.Utf8.encode c.toNat).length).sum
  | set members => members.ranges.getLast?.map fun range => (Text.Utf8.encode range.2).length
  | assertion _ => some 0
  | sequence first rest => do some ((← first.longest) + (← rest.longest))
  | choice left right => do some (max (← left.longest) (← right.longest))
  | repetition body _ most _ => do some ((← most) * (← body.longest))
  | group _ body => body.longest

/-! ## Simplified expressions -/

def ofSet (members : CharSet) : Regex :=
  match members.ranges with
  | [(first, last)] => if first = last then literal [Char.ofNat first] else set members
  | _ => set members

def parts : Regex → List Regex
  | sequence first rest => first :: rest.parts
  | regex => [regex]

/-- Leaves empty parts out and joins neighbouring literals. -/
def joinedParts : List Regex → List Regex
  | [] => []
  | part :: parts =>
    match part, joinedParts parts with
    | empty, parts => parts
    | literal text, literal more :: parts => literal (text ++ more) :: parts
    | part, parts => part :: parts

def inSequence : List Regex → Regex
  | [] => empty
  | [part] => part
  | part :: parts => sequence part (inSequence parts)

def ofParts (regexes : List Regex) : Regex :=
  inSequence (joinedParts (regexes.flatMap parts))

def alternatives : Regex → List Regex
  | choice left right => left :: right.alternatives
  | regex => [regex]

/-- The choice between some alternatives. None at all leave no match. -/
def inChoice : List Regex → Regex
  | [] => set .empty
  | [regex] => regex
  | regex :: regexes => choice regex (inChoice regexes)

def character? : Regex → Option Char
  | literal [c] => some c
  | _ => none

def set? : Regex → Option CharSet
  | set members => some members
  | _ => none

/-- The choice between alternatives that are all characters or all sets, as one set. -/
def mergedChoice? (regexes : List Regex) : Option Regex :=
  match regexes.mapM character?, regexes.mapM set? with
  | some characters, _ => some (ofSet (.ofRanges (characters.map fun c => (c.toNat, c.toNat))))
  | none, some sets => some (ofSet (.ofRanges (sets.flatMap CharSet.ranges)))
  | none, none => none

/-- The simplified choice between expressions that have no part in common. -/
def ofUnlikeAlternatives (regexes : List Regex) : Regex :=
  match regexes.flatMap alternatives with
  | [regex] => regex
  | regexes => (mergedChoice? regexes).getD (inChoice regexes)

def sharedParts : List Regex → List Regex → List Regex
  | left :: lefts, right :: rights => if left = right then left :: sharedParts lefts rights else []
  | _, _ => []

def isSequence : Regex → Bool
  | sequence _ _ => true
  | _ => false

/-- The parts that all alternatives begin with, if they are sequences. -/
def sharedBeginning : List Regex → List Regex
  | [] => []
  | regex :: regexes =>
    if (regex :: regexes).all isSequence then
      regexes.foldl (fun shared regex => sharedParts shared regex.parts) regex.parts
    else []

/-- The simplified choice between some expressions. -/
def ofAlternatives (regexes : List Regex) : Regex :=
  match regexes.flatMap alternatives with
  | [regex] => regex
  | regexes =>
    match mergedChoice? regexes, sharedBeginning regexes with
    | some regex, _ => regex
    | none, [] => inChoice regexes
    | none, shared =>
      let rests := regexes.map fun regex => ofParts (regex.parts.drop shared.length)
      ofParts (shared ++ [ofUnlikeAlternatives rests])

/--
The simplified repetition of an expression. What matches the empty text alone is repeated at most once.
-/
def repeated (body : Regex) (least : Nat) (most : Option Nat) (greedy : Bool) : Regex :=
  let isEmpty := body.longest == some 0
  let least := if isEmpty then min least 1 else least
  let most := if isEmpty then some (min (most.getD 1) 1) else most
  if most = some 0 then empty
  else if least = 1 ∧ most = some 1 then body
  else repetition body least most greedy

/-! ## Anchors -/

/-- Whether a match can begin at the beginning of the text alone. -/
def beginsAtStart : Regex → Bool
  | assertion condition => condition = .textStart
  | sequence first rest => first.beginsAtStart || (first.longest == some 0 && rest.beginsAtStart)
  | choice left right => left.beginsAtStart && right.beginsAtStart
  | repetition body least _ _ => least != 0 && body.beginsAtStart
  | group _ body => body.beginsAtStart
  | _ => false

/-- Whether a match can end at the end of the text alone. -/
def endsAtEnd : Regex → Bool
  | assertion condition => condition = .textEnd
  | sequence first rest => rest.endsAtEnd || (rest.longest == some 0 && first.endsAtEnd)
  | choice left right => left.endsAtEnd && right.endsAtEnd
  | repetition body least _ _ => least != 0 && body.endsAtEnd
  | group _ body => body.endsAtEnd
  | _ => false

end Regex

end TreePath

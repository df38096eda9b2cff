import TreePath.Regex.Basic

/-!
# Modes

The modes in which a regular expression is read and what depends on them: the sets that letters and marks stand for, and
where text is left out. In spaced mode blanks do not count, and a `#` begins a comment that goes on to the end of its line,
or to the end of the text. Without the Unicode mode only ASCII characters make up sets, letters have an upper and a lower
case and words consist of them; a set that would go beyond ASCII is no expression.
-/

namespace TreePath

namespace Regex

/-- The modes that are in force at a place of the text. -/
structure Modes where
  /-- Letters match in both cases. -/
  anyCase : Bool
  /-- Anchors match at every line. -/
  multiLine : Bool
  /-- A dot is any character. -/
  dotAll : Bool
  /-- A repetition is lazy unless it is marked. -/
  lazy : Bool
  /-- A carriage return ends a line, too. -/
  returns : Bool
  /-- Sets and words go beyond ASCII. -/
  unicode : Bool
  /-- Blanks and comments are left out. -/
  spaced : Bool

namespace Modes

def initial : Modes :=
  ⟨false, false, false, false, false, true, false⟩

/-! ## Sets -/

def applied (modes : Modes) (members : CharSet) : CharSet :=
  if modes.anyCase then (if modes.unicode then members.anyCase else members.anyAsciiCase) else members

/-- The characters that are not in a set, which go beyond ASCII. -/
def complement? (modes : Modes) (members : CharSet) : Option CharSet :=
  if modes.unicode then some members.complement else none

/-- A set of characters or its complement. -/
def signed? (modes : Modes) (negated : Bool) (members : CharSet) : Option CharSet :=
  if negated then modes.complement? members else some members

/-- Whether a character may be a member of a set that is written out. -/
def admits (modes : Modes) (c : Char) : Bool :=
  modes.unicode || decide (c.toNat < 128)

def digit (modes : Modes) : CharSet :=
  if modes.unicode then .digit else .asciiDigit

def space (modes : Modes) : CharSet :=
  if modes.unicode then .space else .asciiSpace

def word (modes : Modes) : CharSet :=
  if modes.unicode then .word else .asciiWord

def character (modes : Modes) (c : Char) : Regex :=
  ofSet (modes.applied (.single c))

/-- The characters that a dot stands for. -/
def dot? (modes : Modes) : Option CharSet :=
  if modes.dotAll then modes.complement? .empty
  else modes.complement? (if modes.returns then .lineEnds else .single '\n')

def lineStart (modes : Modes) : Assertion :=
  if modes.multiLine then .lineStart modes.returns else .textStart

def lineEnd (modes : Modes) : Assertion :=
  if modes.multiLine then .lineEnd modes.returns else .textEnd

/-! ## Text that is left out -/

/--
The characters at the beginning of a text that belong to some class, and the rest. Blanks and comments before, between and
behind them are left out. The text may begin within a comment.
-/
def spacedSpan (belongs : Char → Bool) : Bool → List Char → List Char × List Char
  | _, [] => ([], [])
  | true, c :: text => spacedSpan belongs (c != '\n') text
  | false, c :: text =>
    if isBlank c then spacedSpan belongs false text
    else if c = '#' then spacedSpan belongs true text
    else if belongs c then
      let (characters, rest) := spacedSpan belongs false text
      (c :: characters, rest)
    else ([], c :: text)

/-- The characters at the beginning of a text that belong to some class, and the rest. -/
def span (modes : Modes) (belongs : Char → Bool) (text : List Char) : List Char × List Char :=
  if modes.spaced then spacedSpan belongs false text else (text.takeWhile belongs, text.dropWhile belongs)

/-- Leaves out what does not count at the beginning of a text. -/
def skip (modes : Modes) (text : List Char) : List Char :=
  (modes.span (fun _ => false) text).2

/-- What is left behind a mark, if that comes next. -/
def behind? (modes : Modes) (mark : Char) (text : List Char) : Option (List Char) :=
  match modes.skip text with
  | [] => none
  | c :: rest => if c = mark then some rest else none

/-- The next character that counts, as a look ahead sees it: past the mark of a comment it looks at the comment itself. -/
def peek? (modes : Modes) (text : List Char) : Option Char :=
  if modes.spaced then
    match skipBlanks text with
    | '#' :: comment => (skipBlanks comment).head?
    | text => text.head?
  else text.head?

end Modes

end Regex

end TreePath

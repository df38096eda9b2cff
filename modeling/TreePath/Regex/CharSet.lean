import TreePath.Text.Blank
import TreePath.Text.Digit
import TreePath.Text.LetterCase
import TreePath.Text.WordCharacter

/-!
# Sets of characters

A set of characters is a list of ranges of code points, in ascending order and apart from each other. No two
neighbours touch, so equal sets have equal ranges; only the two sides of the surrogates, which are no
characters, are not joined.
-/

namespace TreePath

/-- A set of characters, as ranges of code points. -/
structure CharSet where
  ranges : List (Nat × Nat)
deriving DecidableEq

namespace CharSet

def contains (members : CharSet) (c : Char) : Bool :=
  Text.covers members.ranges c.toNat

/-! ## Ranges -/

/-- Joins a range with those of the ranges after it that it touches. -/
def joinedFrom (first last : Nat) : List (Nat × Nat) → List (Nat × Nat)
  | [] => [(first, last)]
  | (low, high) :: ranges =>
    if low ≤ last + 1 then joinedFrom first (max last high) ranges
    else (first, last) :: joinedFrom low high ranges

/-- Joins the ranges of a list that touch. Their beginnings are in ascending order. -/
def joined : List (Nat × Nat) → List (Nat × Nat)
  | [] => []
  | (first, last) :: ranges => joinedFrom first last ranges

/-- The set of the characters in some ranges, which may overlap and come in any order. -/
def ofRanges (ranges : List (Nat × Nat)) : CharSet :=
  ⟨joined (ranges.mergeSort fun left right => left.1 ≤ right.1)⟩

def range (first last : Char) : CharSet :=
  ⟨[(first.toNat, last.toNat)]⟩

def single (c : Char) : CharSet :=
  range c c

def empty : CharSet :=
  ⟨[]⟩

def all : CharSet :=
  ⟨[(0, 0x10FFFF)]⟩

def digit : CharSet :=
  ⟨Text.decimalDigitRanges⟩

def space : CharSet :=
  ⟨Text.blankRanges⟩

def word : CharSet :=
  ⟨Text.wordRanges⟩

def asciiDigit : CharSet :=
  range '0' '9'

def asciiSpace : CharSet :=
  ⟨[('\t'.toNat, '\r'.toNat), (' '.toNat, ' '.toNat)]⟩

def asciiWord : CharSet :=
  ⟨[('0'.toNat, '9'.toNat), ('A'.toNat, 'Z'.toNat), ('_'.toNat, '_'.toNat), ('a'.toNat, 'z'.toNat)]⟩

/-- A line feed and a carriage return. -/
def lineEnds : CharSet :=
  ⟨[('\n'.toNat, '\n'.toNat), ('\r'.toNat, '\r'.toNat)]⟩

/-! ## Operations -/

def codeBefore (code : Nat) : Nat :=
  if code = 0xE000 then 0xD7FF else code - 1

def codeAfter (code : Nat) : Nat :=
  if code = 0xD7FF then 0xE000 else code + 1

def union (left right : CharSet) : CharSet :=
  ⟨joined (left.ranges.merge right.ranges fun left right => left.1 ≤ right.1)⟩

def intersection (left right : CharSet) : CharSet :=
  ⟨left.ranges.flatMap fun (first, last) => right.ranges.filterMap fun (low, high) =>
    if max first low ≤ min last high then some (max first low, min last high) else none⟩

/-- What is left of a range when the ranges of a list are taken away. -/
def remainder (first last : Nat) : List (Nat × Nat) → List (Nat × Nat)
  | [] => [(first, last)]
  | (low, high) :: ranges =>
    if high < first then remainder first last ranges
    else if last < low then [(first, last)]
    else (if first < low then [(first, codeBefore low)] else [])
      ++ (if high < last then remainder (codeAfter high) last ranges else [])

/-- The characters in one set that are not in another. -/
def difference (left right : CharSet) : CharSet :=
  ⟨left.ranges.flatMap fun (first, last) => remainder first last right.ranges⟩

def symmetricDifference (left right : CharSet) : CharSet :=
  (left.union right).difference (left.intersection right)

/--
The gaps after a code point between the ranges of a list and up to the last code point. Ranges that end and
begin at the surrogates have no character between them; their gap is taken to be the two characters on both
sides of it.
-/
def gapsAfter (code : Nat) : List (Nat × Nat) → List (Nat × Nat)
  | [] => if code < 0x10FFFF then [(codeAfter code, 0x10FFFF)] else []
  | (first, last) :: ranges =>
    let start := codeAfter code
    let stop := codeBefore first
    (min start stop, max start stop) :: gapsAfter last ranges

/-- The characters that are not in a set. -/
def complement (members : CharSet) : CharSet :=
  match members.ranges with
  | [] => all
  | (first, last) :: ranges => ⟨(if 0 < first then [(0, codeBefore first)] else []) ++ gapsAfter last ranges⟩

/-- The characters that differ in case alone from some character of a set, that one among them. -/
def anyCase (members : CharSet) : CharSet :=
  let folded := members.union (ofRanges (Text.movedByAll Text.foldRuns members.ranges))
  folded.union (ofRanges (Text.movedByAll (Text.foldRuns.map Text.reversed) folded.ranges))

/-- The characters that differ in the case of an ASCII letter alone from some character of a set, that one among them. -/
def anyAsciiCase (members : CharSet) : CharSet :=
  let lowered := (members.intersection (range 'A' 'Z')).ranges.map fun (first, last) => (first + 32, last + 32)
  let raised := (members.intersection (range 'a' 'z')).ranges.map fun (first, last) => (first - 32, last - 32)
  members.union (ofRanges (lowered ++ raised))

end CharSet

end TreePath

import TreePath.Text.Ranges

/-!
# Blank characters

The characters with the Unicode property `White_Space`. They separate the items of a bracket and the
operands of a script.
-/

namespace TreePath

namespace Text

/-- The ranges of the property `White_Space`. -/
def blankRanges : List (Nat × Nat) :=
   [(0x9, 0xD), (0x20, 0x20), (0x85, 0x85), (0xA0, 0xA0), (0x1680, 0x1680), (0x2000, 0x200A),
    (0x2028, 0x2029), (0x202F, 0x202F), (0x205F, 0x205F), (0x3000, 0x3000)]

end Text

def isBlank (c : Char) : Bool :=
  Text.covers Text.blankRanges c.toNat

def skipBlanks (text : List Char) : List Char :=
  text.dropWhile isBlank

end TreePath

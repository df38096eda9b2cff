/-!
# Characters as bytes

The UTF-8 bytes of a code point, and a range of code points as sequences of byte ranges: a code point lies
in the range if and only if its bytes lie, one by one, in the byte ranges of one of the sequences.
-/

namespace TreePath.Text.Utf8

def encode (code : Nat) : List Nat :=
  if code < 0x80 then [code]
  else if code < 0x800 then [0xC0 + code / 0x40, 0x80 + code % 0x40]
  else if code < 0x10000 then [0xE0 + code / 0x1000, 0x80 + code / 0x40 % 0x40, 0x80 + code % 0x40]
  else [0xF0 + code / 0x40000, 0x80 + code / 0x1000 % 0x40, 0x80 + code / 0x40 % 0x40, 0x80 + code % 0x40]

/-- The code points by the number of their bytes, without the surrogates. -/
def planes : List (Nat × Nat) :=
  [(0, 0x7F), (0x80, 0x7FF), (0x800, 0xD7FF), (0xE000, 0xFFFF), (0x10000, 0x10FFFF)]

/--
Cuts a range at the borders of blocks, so that each part lies within one block or consists of whole ones.
The parts of whole blocks are cut further at the borders of the larger blocks that follow in the list.
-/
def cutAtBlocks : List Nat → Nat → Nat → List (Nat × Nat)
  | [], first, last => [(first, last)]
  | size :: sizes, first, last =>
    if first / size = last / size then [(first, last)]
    else
      let isCutBefore := first % size != 0
      let isCutAfter := last % size != size - 1
      let start := if isCutBefore then (first / size + 1) * size else first
      let stop := if isCutAfter then last / size * size else last + 1
      (if isCutBefore then [(first, start - 1)] else [])
        ++ (if start < stop then cutAtBlocks sizes start (stop - 1) else [])
        ++ (if isCutAfter then [(stop, last)] else [])

/-- The sequences of byte ranges for the code points from a first to a last one, in ascending order. -/
def sequences (first last : Nat) : List (List (Nat × Nat)) :=
  planes.flatMap fun (low, high) =>
    let low := max low first
    let high := min high last
    if high < low then []
    else if high < 0x80 then [[(low, high)]]
    else (cutAtBlocks [0x40, 0x1000, 0x40000] low high).map fun (first, last) =>
      (encode first).zip (encode last)

end TreePath.Text.Utf8

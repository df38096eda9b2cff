import TreePath.Path.Reader

/-!
# Scanning a text

A scanner is a text with a position in it. It runs the readers of this library one at a time, at its position, and
stands behind what was read afterwards, or where the reader gave up. Advancing is not stopped by the end of
the text, so a position may lie beyond it.
-/

namespace TreePath

/-- A text and a position in it. -/
structure Scanner where
  text : List Char
  position : Nat

namespace Scanner

def ofText (text : String) : Scanner :=
  ⟨text.toList, 0⟩

def rest (scanner : Scanner) : List Char :=
  scanner.text.drop scanner.position

def atEnd (scanner : Scanner) : Bool :=
  decide (scanner.text.length ≤ scanner.position)

def peek? (scanner : Scanner) (distance : Nat) : Option Char :=
  scanner.text[scanner.position + distance]?

def current? (scanner : Scanner) : Option Char :=
  scanner.peek? 0

/-- One place further, whether or not there is a character. -/
def advance (scanner : Scanner) : Scanner :=
  { scanner with position := scanner.position + 1 }

/-- At another position, but not beyond the end. -/
def reset (scanner : Scanner) (position : Nat) : Scanner :=
  { scanner with position := min position scanner.text.length }

def leaving (scanner : Scanner) (left : List Char) : Scanner :=
  { scanner with position := scanner.position + (scanner.rest.length - left.length) }

/-- An error that is reported at a position, which may lie beyond the end. -/
def errorAt (scanner : Scanner) (position : Nat) (cause : SyntaxCause) : SyntaxError :=
  ⟨cause, position, String.ofList ((scanner.text.drop position).take SyntaxError.nearLength)⟩

def run {α : Type} (scanner : Scanner) (reader : Reader α) : Except SyntaxError α × Scanner :=
  match reader scanner.rest with
  | .ok (read, left) => (.ok read, scanner.leaving left)
  | .error fault => (.error (.ofFault scanner.position scanner.rest fault), scanner.leaving fault.stop)

/-- Runs a reader that takes the first character as its opening mark. At the end there is none, but it is passed nevertheless. -/
def runOpened {α : Type} (scanner : Scanner) (reader : Reader α) : Except SyntaxError α × Scanner :=
  if scanner.atEnd then
    let (result, scanner) := scanner.run reader
    (result, scanner.advance)
  else scanner.run reader

def skip (scanner : Scanner) : Scanner :=
  scanner.leaving (skipBlanks scanner.rest)

/-- Reads a name without quotes, which may be empty. -/
def name (scanner : Scanner) : String × Scanner :=
  let name := scanner.rest.takeWhile isNameCharacter
  (String.ofList name, scanner.leaving (scanner.rest.drop name.length))

def quoted (scanner : Scanner) (quote : Char) : Except SyntaxError (List Char) × Scanner :=
  scanner.runOpened (readQuoted quote)

def integer (scanner : Scanner) : Except SyntaxError Int64 × Scanner :=
  scanner.run readInteger

def numeric (scanner : Scanner) : Except SyntaxError Numeric × Scanner :=
  scanner.run readNumeric

/-- Reads the source of a pattern between slashes. -/
def slashed (scanner : Scanner) : Except SyntaxError (List Char) × Scanner :=
  scanner.runOpened readSlashed

def token (scanner : Scanner) : Except SyntaxError Token × Scanner :=
  scanner.run readToken

end Scanner

end TreePath

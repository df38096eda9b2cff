import TreePath.Reading.Numeral
import TreePath.Script.Operator
import TreePath.Text.Blank

/-!
# Tokens of scripts

The words, numbers and marks that stand between the operands of a script. Paths, texts and patterns are operands
and not tokens.
-/

namespace TreePath

/-- A token of a script. -/
inductive Token where
  | integer (n : Int64)
  | float (x : Binary64)
  | word (text : String)
  | equal
  | notEqual
  | less
  | greater
  | lessOrEqual
  | greaterOrEqual
  | tilde
  | and
  | or
  | bang
  | plus
  | minus
  | star
  | slash
  | finish
deriving DecidableEq

/-- Whether a character can be part of a name that is written without quotes: any that is not ASCII, and some. -/
def isNameCharacter (c : Char) : Bool :=
  128 ≤ c.toNat || c.isAlpha || isDigit c ||
    ['_', '#', '%', '?', '^', ':', ';', '\x7b', '\x7d'].contains c

def isWordPart (c : Char) : Bool :=
  isAlphanumeric c || c == '_'

theorem isWordPart_of_isLetter {c : Char} (letter : isLetter c = true) : isWordPart c = true := by
  rw [isWordPart, isAlphanumeric]
  split
  · rename_i ascii
    rw [isLetter, if_pos ascii] at letter
    rw [letter]
    rfl
  · rw [letter]
    rfl

/-- What can begin a word can be a part of it. -/
theorem isWordPart_of_begins {c : Char} (begins : (isLetter c || c == '_') = true) : isWordPart c = true := by
  rcases Bool.or_eq_true _ _ ▸ begins with letter | underscore
  · exact isWordPart_of_isLetter letter
  · rw [isWordPart, underscore, Bool.or_true]

/-- The longest word at the beginning of a text, and the rest. -/
def splitWord (text : List Char) : List Char × List Char :=
  let word := text.takeWhile isWordPart
  (word, text.drop word.length)

/-- The mark at the beginning of a text, and the rest. -/
def readMark (c : Char) (rest : List Char) : Except Fault (Token × List Char) :=
  let next := rest.head?
  if c = '+' then .ok (.plus, rest)
  else if c = '-' then .ok (.minus, rest)
  else if c = '*' then .ok (.star, rest)
  else if c = '/' then .ok (.slash, rest)
  else if c = '=' then
    if next = some '=' then .ok (.equal, rest.drop 1)
    else if next = some '~' then .ok (.tilde, rest.drop 1)
    else .error (Fault.here .loneEquals (c :: rest))
  else if c = '~' ∧ next = some '=' then .ok (.tilde, rest.drop 1)
  else if c = '!' then
    if next = some '=' then .ok (.notEqual, rest.drop 1) else .ok (.bang, rest)
  else if c = '<' then
    if next = some '=' then .ok (.lessOrEqual, rest.drop 1) else .ok (.less, rest)
  else if c = '>' then
    if next = some '=' then .ok (.greaterOrEqual, rest.drop 1) else .ok (.greater, rest)
  else if c = '&' ∧ next = some '&' then .ok (.and, rest.drop 1)
  else if c = '|' ∧ next = some '|' then .ok (.or, rest.drop 1)
  else .error (Fault.here (.unexpected c) (c :: rest))

/-- The next token, after blanks. -/
def readToken : Reader Token := fun text =>
  match skipBlanks text with
  | [] => .ok (.finish, [])
  | c :: rest =>
    if isDigit c then
      match readNumeric (c :: rest) with
      | .ok (.integer n, rest) => .ok (.integer n, rest)
      | .ok (.float x, rest) => .ok (.float x, rest)
      | .error fault => .error fault
    else if isLetter c || c == '_' then
      let (word, rest) := splitWord (c :: rest)
      .ok (.word (String.ofList word), rest)
    else readMark c rest

/-- The operator that a token writes between two operands. -/
def Token.operator? : Token → Option Operator
  | equal => some .equal
  | notEqual => some .notEqual
  | less => some .less
  | greater => some .greater
  | lessOrEqual => some .lessOrEqual
  | greaterOrEqual => some .greaterOrEqual
  | tilde => some .finds
  | and => some .and
  | or => some .or
  | plus => some .add
  | minus => some .subtract
  | star => some .multiply
  | slash => some .divide
  | word text => Operator.word? text
  | integer _ | float _ | bang | finish => none

end TreePath

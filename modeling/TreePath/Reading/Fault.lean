import TreePath.Text.Digit

/-!
# Faults of a text

A reader takes a list of characters and gives what it has read together with the characters that are left. Where
it cannot go on it reports a fault: the cause, the characters from the reported place on (the *site*) and the
characters from the place where it gave up on (the *stop*). Counted from the end of the text, both
are places in it, so a reader needs to know neither the text before it nor its own position.
-/

namespace TreePath

/-- What is wrong with the text of a path or script. -/
inductive SyntaxCause where
  | cannotStart (c : Char)
  | emptyFragment
  | unclosedBracket
  | expected (c : Char)
  | invalidSlice
  | invalidUnionEntry
  | trailingText
  | invalidEscape (c : Char)
  | unclosedString
  | invalidUnicodeEscape
  | invalidNumber
  | unclosedPattern
  | invalidPattern
  | loneEquals
  | unexpected (c : Char)
  | missingOperand
  | unknownWord
  /-- The nesting exceeds the budget of a reader. The budget of a whole text is enough for it, so that no text has
  this cause. -/
  | exhausted
  /-- A remark of the caller. -/
  | remark (text : String)
deriving DecidableEq

def SyntaxCause.message : SyntaxCause → String
  | cannotStart c => "an expression fragment can not start with a '" ++ c.toString ++ "'"
  | emptyFragment => "empty expression fragment"
  | unclosedBracket => "not terminated"
  | expected c => "expected '" ++ c.toString ++ "'"
  | invalidSlice => "invalid slice"
  | invalidUnionEntry => "invalid union entry"
  | trailingText => "parse error"
  | invalidEscape c => "invalid escape sequence '\\" ++ c.toString ++ "'"
  | unclosedString => "string not terminated"
  | invalidUnicodeEscape => "invalid unicode escape"
  | invalidNumber => "invalid number"
  | unclosedPattern => "regular expression not terminated"
  | invalidPattern => "invalid regular expression"
  | loneEquals => "unexpected '=' (did you mean '==' or '=~'?)"
  | unexpected c => "unexpected character '" ++ c.toString ++ "'"
  | missingOperand => "missing operand"
  | unknownWord => "unknown identifier"
  | exhausted => "nested too deeply"
  | remark text => text

/-- Why and where a reader gave up. -/
structure Fault where
  cause : SyntaxCause
  site : List Char
  stop : List Char
deriving DecidableEq

/-- A fault that is reported where the reader gave up. -/
def Fault.here (cause : SyntaxCause) (text : List Char) : Fault :=
  ⟨cause, text, text⟩

/-- A reader of a text. -/
abbrev Reader (α : Type) := List Char → Except Fault (α × List Char)

/-- An error in the text of a path or script. -/
structure SyntaxError where
  cause : SyntaxCause
  /-- The number of characters before the reported place. -/
  position : Nat
  /-- The characters from the reported place on, twelve at most. -/
  near : String
deriving DecidableEq

namespace SyntaxError

def nearLength : Nat := 12

/-- The error for a fault in a text that begins a number of characters after the place that positions count from. -/
def ofFault (offset : Nat) (text : List Char) (fault : Fault) : SyntaxError where
  cause := fault.cause
  position := offset + (text.length - fault.site.length)
  near := String.ofList (fault.site.take nearLength)

def message (error : SyntaxError) : String :=
  error.cause.message ++ " at position " ++ toString error.position ++ " near '" ++ error.near ++ "'"

end SyntaxError

end TreePath

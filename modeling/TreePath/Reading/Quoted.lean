import TreePath.Reading.Fault

/-!
# Quoted text

A quoted text stands between two equal quotes. A backslash introduces an escape: one of eight characters, or `u`
and the four hexadecimal digits of a code point. Quoted text is written between single quotes, with an escape
for every quote, backslash, line feed, tab and carriage return.
-/

namespace TreePath

/-- The character that a one-letter escape stands for. -/
def plainEscape? (c : Char) : Option Char :=
  if c = 'n' then some '\n'
  else if c = 't' then some '\t'
  else if c = 'r' then some '\r'
  else if c = '"' ∨ c = '\'' ∨ c = '\\' ∨ c = '/' then some c
  else none

/-- The character of a code point in four hexadecimal digits. -/
def codeEscape? (a b c d : Char) : Option Char :=
  match hexValue? a, hexValue? b, hexValue? c, hexValue? d with
  | some a, some b, some c, some d =>
    let code := 4096 * a + 256 * b + 16 * c + d
    if code.isValidChar then some (Char.ofNat code) else none
  | _, _, _, _ => none

/-- The text after the hexadecimal digits at the beginning, four at most. -/
def dropHexDigits (text : List Char) : List Char :=
  text.drop ((text.take 4).takeWhile fun c => (hexValue? c).isSome).length

/--
Reads up to and including the closing quote. A text that is not closed is reported at `start`, the place of the
opening quote.
-/
def readQuotedBody (quote : Char) (start : List Char) : Reader (List Char)
  | [] => .error ⟨.unclosedString, start, []⟩
  | c :: rest =>
    if c = quote then .ok ([], rest)
    else if c = '\\' then
      match rest with
      | [] => .error ⟨.unclosedString, start, []⟩
      | 'u' :: rest =>
        match rest with
        | h₁ :: h₂ :: h₃ :: h₄ :: more =>
          match codeEscape? h₁ h₂ h₃ h₄ with
          | some escaped =>
            (readQuotedBody quote start more).map fun (text, rest) => (escaped :: text, rest)
          | none => .error ⟨.invalidUnicodeEscape, 'u' :: rest, dropHexDigits rest⟩
        | _ => .error ⟨.invalidUnicodeEscape, 'u' :: rest, dropHexDigits rest⟩
      | e :: rest =>
        match plainEscape? e with
        | some escaped =>
          (readQuotedBody quote start rest).map fun (text, rest) => (escaped :: text, rest)
        | none => .error (Fault.here (.invalidEscape e) (e :: rest))
    else (readQuotedBody quote start rest).map fun (text, rest) => (c :: text, rest)

/-- Reads a quoted text whose opening quote is the first character, whatever that is. -/
def readQuoted (quote : Char) (text : List Char) : Except Fault (List Char × List Char) :=
  readQuotedBody quote text (text.drop 1)

/-- How a character is written within single quotes. -/
def escapeQuoted (c : Char) : List Char :=
  if c = '\'' then ['\\', '\'']
  else if c = '\\' then ['\\', '\\']
  else if c = '\n' then ['\\', 'n']
  else if c = '\t' then ['\\', 't']
  else if c = '\r' then ['\\', 'r']
  else [c]

def writeQuoted (text : List Char) : List Char :=
  '\'' :: text.flatMap escapeQuoted ++ ['\'']

end TreePath

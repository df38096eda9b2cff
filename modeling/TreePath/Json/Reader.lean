import TreePath.Json.Basic
import TreePath.Text.Digit

/-!
# Reading JSON

A text is JSON as RFC 8259 has it, with these limits: arrays and objects are nested at most 127 deep, numbers do
not lie beyond the floating-point range, and surrogates come in pairs. Of several members with one name the
last counts. A number without fraction and exponent is an integer as long as it lies in the range of JSON
integers; minus zero is a floating-point number.

A floating-point number is computed from its first digits, as many as a 64-bit number holds, and a power of ten,
with one rounding for each. It can differ from the nearest number in the last place.
-/

namespace TreePath

namespace Json

/-- Whether a character may stand between the tokens of a JSON text. -/
def isSpace (c : Char) : Bool :=
  c == ' ' || c == '\n' || c == '\t' || c == '\r'

def skipSpace (text : List Char) : List Char :=
  text.dropWhile isSpace

/-! ## Numbers -/

/-- Appends digits to a significand until it would exceed 64 bits. The result is the significand and the digits left. -/
def gather : Nat → List Char → Nat × List Char
  | significand, [] => (significand, [])
  | significand, digit :: digits =>
    let longer := 10 * significand + digitValue digit
    if longer < 2 ^ (64 : Nat) then gather longer digits else (significand, digit :: digits)

/--
The number `x * 10 ^ exponent`. A power beyond the floating-point range is divided by in several rounds, after a few of
which nothing is left. There is no result beyond that range.
-/
def scaled? : Nat → Binary64 → Int → Option Binary64
  | 0, x, _ => some x
  | rounds + 1, x, exponent =>
    let power (n : Nat) : Binary64 := .ofDecimal false 1 n
    if 0 ≤ exponent then
      if exponent ≤ 308 then
        let product := x.mul (power exponent.toNat)
        if product.isFinite then some product else none
      else if x.isZero then some x
      else none
    else if -308 ≤ exponent then some (x.div (power exponent.natAbs))
    else if x.isZero then some x
    else scaled? rounds (x.div (power 308)) (exponent + 308)

/-- The number that a sign, a significand and a power of ten make. -/
def real? (negative : Bool) (significand : Nat) (exponent : Int) : Option Json := do
  let magnitude ← scaled? 8 (.ofInt significand) exponent
  ofFloat? (if negative then magnitude.neg else magnitude)

/-- The power of ten and the rest of an exponent, after its letter. Powers beyond 32 bits are cut, apart from the sign. -/
def readExponent? (text : List Char) : Option (Int × List Char) :=
  let (negative, text) := match text with
    | '+' :: rest => (false, rest)
    | '-' :: rest => (true, rest)
    | text => (false, text)
  let digits := text.takeWhile isDigit
  let power : Int := (min (digitsValue digits) (2 ^ (31 : Nat)) : Nat)
  if digits.isEmpty then none else some (if negative then -power else power, text.drop digits.length)

/-- The rest of a floating-point number from its exponent on, if it has one. -/
def readReal? (negative : Bool) (significand : Nat) (exponent : Int) (text : List Char) :
    Option (Json × List Char) :=
  match text with
  | c :: rest =>
    if c = 'e' ∨ c = 'E' then do
      let (power, rest) ← readExponent? rest
      let number ← real? negative significand (exponent + power)
      some (number, rest)
    else (real? negative significand exponent).map (·, text)
  | [] => (real? negative significand exponent).map (·, [])

def readNumber? (text : List Char) : Option (Json × List Char) := do
  let (negative, text) := match text with
    | '-' :: rest => (true, rest)
    | text => (false, text)
  let digits := text.takeWhile isDigit
  let rest := text.drop digits.length
  if digits.isEmpty ∨ (digits.head? = some '0' ∧ 1 < digits.length) then none
  else
    let (significand, left) := gather 0 digits
    match rest with
    | '.' :: rest =>
      let fraction := rest.takeWhile isDigit
      if fraction.isEmpty then none
      else
        let (significand, ignored) := gather significand fraction
        readReal? negative significand ((left.length : Int) - (fraction.length - ignored.length : Nat))
          (rest.drop fraction.length)
    | _ =>
      let isInteger := left.isEmpty && rest.head? ≠ some 'e' && rest.head? ≠ some 'E'
      let integer? := if negative && significand == 0 then none
        else ofInt? (if negative then -(significand : Int) else significand)
      match isInteger, integer? with
      | true, some number => some (number, rest)
      | _, _ => readReal? negative significand left.length rest

/-! ## Texts -/

def readUnit? (text : List Char) : Option (Nat × List Char) :=
  match text with
  | a :: b :: c :: d :: rest => do
    some (4096 * (← hexValue? a) + 256 * (← hexValue? b) + 16 * (← hexValue? c) + (← hexValue? d), rest)
  | _ => none

def escape? (c : Char) : Option Char :=
  if c = '"' ∨ c = '\\' ∨ c = '/' then some c
  else if c = 'b' then some '\x08'
  else if c = 'f' then some '\x0c'
  else if c = 'n' then some '\n'
  else if c = 'r' then some '\r'
  else if c = 't' then some '\t'
  else none

/-- The character of an escaped code unit, or of two that are a surrogate pair, after the letter of the escape. -/
def readEscapedUnit? (text : List Char) : Option (Char × List Char) := do
  let (unit, rest) ← readUnit? text
  if unit < 0xD800 ∨ 0xE000 ≤ unit then some (Char.ofNat unit, rest)
  else if 0xDC00 ≤ unit then none
  else match rest with
    | '\\' :: 'u' :: rest =>
      let (second, rest) ← readUnit? rest
      if 0xDC00 ≤ second ∧ second < 0xE000 then
        some (Char.ofNat (0x10000 + (unit - 0xD800) * 0x400 + (second - 0xDC00)), rest)
      else none
    | _ => none

/-- The characters of a text up to and including its closing quote. The budget bounds their number. -/
def readCharacters? : Nat → List Char → Option (List Char × List Char)
  | 0, _ => none
  | _ + 1, [] => none
  | budget + 1, c :: rest =>
    if c = '"' then some ([], rest)
    else if c = '\\' then do
      let (escaped, rest) ← match rest with
        | 'u' :: rest => readEscapedUnit? rest
        | e :: rest => (escape? e).map (·, rest)
        | [] => none
      let (characters, rest) ← readCharacters? budget rest
      some (escaped :: characters, rest)
    else if c.toNat < 0x20 then none
    else do
      let (characters, rest) ← readCharacters? budget rest
      some (c :: characters, rest)

/-- A text, after its opening quote. -/
def readString? (text : List Char) : Option (String × List Char) :=
  (readCharacters? (text.length + 1) text).map fun (characters, rest) => (String.ofList characters, rest)

/-! ## Values -/

def readWord? (word : String) (value : Json) (text : List Char) : Option (Json × List Char) :=
  if word.toList.isPrefixOf text then some (value, text.drop word.length) else none

/-- The greatest depth that the reader starts with; entering an array or object takes one from it, and none may be left. -/
def depthLimit : Nat := 128

mutual

/-- A value. The first number bounds the nesting of the reader, the second that of the value. -/
def readValue? : Nat → Nat → List Char → Option (Json × List Char)
  | 0, _, _ => none
  | budget + 1, depth, text =>
    match skipSpace text with
    | [] => none
    | c :: rest =>
      if c = '[' then
        if depth ≤ 1 then none
        else do
          let (items, rest) ← readItems? budget (depth - 1) true rest
          some (array items, rest)
      else if c = '\x7b' then
        if depth ≤ 1 then none
        else do
          let (pairs, rest) ← readPairs? budget (depth - 1) true rest
          some (ofMembers pairs, rest)
      else if c = '"' then (readString? rest).map fun (content, rest) => (.string content, rest)
      else if c = 't' then readWord? "true" (boolean true) (c :: rest)
      else if c = 'f' then readWord? "false" (boolean false) (c :: rest)
      else if c = 'n' then readWord? "null" null (c :: rest)
      else readNumber? (c :: rest)

/-- The items of an array up to its closing bracket. The flag says whether the first item comes next. -/
def readItems? : Nat → Nat → Bool → List Char → Option (List Json × List Char)
  | 0, _, _, _ => none
  | budget + 1, depth, isFirst, text =>
    match skipSpace text with
    | [] => none
    | c :: rest =>
      if c = ']' then some ([], rest)
      else do
        let rest ← if isFirst then some (c :: rest) else if c = ',' then some rest else none
        let (item, rest) ← readValue? budget depth rest
        let (items, rest) ← readItems? budget depth false rest
        some (item :: items, rest)

/-- The members of an object up to its closing brace. The flag says whether the first member comes next. -/
def readPairs? : Nat → Nat → Bool → List Char → Option (List (String × Json) × List Char)
  | 0, _, _, _ => none
  | budget + 1, depth, isFirst, text =>
    match skipSpace text with
    | [] => none
    | c :: rest =>
      if c = '\x7d' then some ([], rest)
      else do
        let rest ← if isFirst then some (c :: rest) else if c = ',' then some (skipSpace rest) else none
        let rest ← if rest.head? = some '"' then some (rest.drop 1) else none
        let (name, rest) ← readString? rest
        let rest ← match skipSpace rest with
          | ':' :: rest => some rest
          | _ => none
        let (value, rest) ← readValue? budget depth rest
        let (pairs, rest) ← readPairs? budget depth false rest
        some ((name, value) :: pairs, rest)

end

def ofText? (text : String) : Option Json :=
  let text := text.toList
  match readValue? (2 * text.length + 2) depthLimit text with
  | some (value, rest) => if (skipSpace rest).isEmpty then some value else none
  | none => none

end Json

def Value.ofJsonText? (text : String) : Option Value :=
  (Json.ofText? text).map ofJson

end TreePath

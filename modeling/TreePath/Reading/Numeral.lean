import TreePath.Reading.Fault
import TreePath.Number.Numeric

/-!
# Numerals

Integers and floating-point numbers in base ten. Leading zeros are allowed. An integer has to lie in the 64-bit
range, and a floating-point number, which is correctly rounded, has to be finite.
-/

namespace TreePath

/-- The sign, the digits and the rest of an integer. -/
def splitInteger (text : List Char) : Bool × List Char × List Char :=
  let (negative, text) := match text with
    | '-' :: rest => (true, rest)
    | text => (false, text)
  let digits := text.takeWhile isDigit
  (negative, digits, text.drop digits.length)

/-- The 64-bit integer that a sign and digits write. -/
def integerOf? (negative : Bool) (digits : List Char) : Option Int64 :=
  if digits.isEmpty then none
  else int64? (if negative then -(digitsValue digits : Int) else digitsValue digits)

/-- Reads an integer, after which no point, letter, numeral or underscore may follow. -/
def readInteger : Reader Int64 := fun text =>
  let (negative, digits, rest) := splitInteger text
  let goesOn := match rest with
    | c :: _ => c == '.' || isAlphanumeric c || c == '_'
    | [] => false
  if goesOn then .error ⟨.invalidNumber, text, rest⟩
  else match integerOf? negative digits with
    | some n => .ok (n, rest)
    | none => .error ⟨.invalidNumber, text, rest⟩

/-- The digits of a fraction and the rest; there is a fraction only if a digit follows the point. -/
def splitFraction : List Char → Option (List Char) × List Char
  | '.' :: rest =>
    let digits := rest.takeWhile isDigit
    if digits.isEmpty then (none, '.' :: rest) else (some digits, rest.drop digits.length)
  | text => (none, text)

/-- The sign and the digits of an exponent, and the rest. The digits may be missing. -/
def splitExponent : List Char → Option (Bool × List Char) × List Char
  | c :: rest =>
    if c = 'e' ∨ c = 'E' then
      let (negative, rest) := match rest with
        | '+' :: rest => (false, rest)
        | '-' :: rest => (true, rest)
        | rest => (false, rest)
      let digits := rest.takeWhile isDigit
      (some (negative, digits), rest.drop digits.length)
    else (none, c :: rest)
  | [] => (none, [])

/--
The finite number that the parts of a numeral write. An exponent far beyond all finite numbers is cut, which
makes no difference to the result.
-/
def floatOf? (negative : Bool) (whole fraction : List Char) (exponent : Option (Bool × List Char)) :
    Option Binary64 :=
  let digits := whole ++ fraction
  let cut (n : Nat) : Int := (min n (20000 + digits.length) : Nat)
  let power? : Option Int := match exponent with
    | none => some 0
    | some (_, []) => none
    | some (down, digits) => some (if down then -cut (digitsValue digits) else cut (digitsValue digits))
  match power? with
  | none => none
  | some power =>
    let number := Binary64.ofDecimal negative (digitsValue digits) (power - fraction.length)
    if !digits.isEmpty && number.isFinite then some number else none

/-- Reads an integer, or a floating-point number if there is a fraction or an exponent. -/
def readNumeric : Reader Numeric := fun text =>
  let (negative, whole, afterWhole) := splitInteger text
  let (fraction, afterFraction) := splitFraction afterWhole
  let (exponent, rest) := splitExponent afterFraction
  let number? : Option Numeric :=
    if fraction.isNone && exponent.isNone then (integerOf? negative whole).map .integer
    else (floatOf? negative whole (fraction.getD []) exponent).map .float
  match number? with
  | some number => .ok (number, rest)
  | none => .error ⟨.invalidNumber, text, rest⟩

end TreePath

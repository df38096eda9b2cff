import TreePath.Number.Integer
import TreePath.Text.Digit

/-!
# The shortest digits of a number

A finite number is written in the fewest decimal digits that read back as the same number; of several
such the nearest is taken, and of two equally near ones the larger. Numbers that are neither very large nor
very small are written positionally and always have a fraction, all others with an exponent.
-/

namespace TreePath

/-- A decimal numeral: its digits without trailing zeros, and the power of ten of the first digit. -/
structure Numeral where
  digits : List Char
  place : Int

def natDigits (n : Nat) : List Char :=
  Nat.toDigits 10 n

/-- The digits of an integer in base ten, under a sign if it is negative. -/
def intDigits (n : Int) : List Char :=
  if n < 0 then '-' :: natDigits n.natAbs else natDigits n.natAbs

namespace Numeral

/-- The numeral of `digits * 10 ^ exponent`. -/
def ofScaled (digits : Nat) (exponent : Int) : Numeral where
  digits := ((natDigits digits).reverse.dropWhile (· == '0')).reverse
  place := (natDigits digits).length - 1 + exponent

/-- The power of ten of the first digit of a positive quotient. -/
def leadingPlace (numerator denominator : Nat) : Int :=
  if denominator ≤ numerator then (natDigits (numerator / denominator)).length - 1
  else -((natDigits ((denominator - 1) / numerator)).length : Int)

/-- Whether `digits * 10 ^ exponent` reads back as the magnitude of a code. -/
def readsBack (code : Fin 0x7FF0000000000000) (digits : Nat) (exponent : Int) : Bool :=
  Binary64.ofDecimal false digits exponent == .finite false code

/--
The multiple of `10 ^ exponent` that reads back as the magnitude of a code, if one does. The neighbours of the
magnitude are tried, and of two that read back the nearer is taken.
-/
def atExponent? (code : Fin 0x7FF0000000000000) (exponent : Int) : Option Nat :=
  let scaledNumerator := Binary64.magnitude code * 10 ^ (-exponent).toNat
  let scaledDenominator := Binary64.unitsPerOne * 10 ^ exponent.toNat
  let lower := scaledNumerator / scaledDenominator
  match readsBack code lower exponent, readsBack code (lower + 1) exponent with
  | true, true =>
    if 2 * scaledNumerator < (2 * lower + 1) * scaledDenominator then some lower else some (lower + 1)
  | true, false => some lower
  | false, true => some (lower + 1)
  | false, false => none

/--
The shortest numeral of a positive magnitude. Seventeen digits always suffice; the exact expansion stands
behind them so that the result reads back in any case.
-/
def shortest (code : Fin 0x7FF0000000000000) : Numeral :=
  let place := leadingPlace (Binary64.magnitude code) Binary64.unitsPerOne
  let attempt (count : Nat) : Option Numeral :=
    let exponent := place - count
    (atExponent? code exponent).map (ofScaled · exponent)
  ((List.range 17).findSome? attempt).getD
    (ofScaled (Binary64.magnitude code * 5 ^ (1074 : Nat)) (-1074))

/-- The numeral written positionally, with at least one digit on each side of the point. -/
def positional (numeral : Numeral) : List Char :=
  if numeral.place < 0 then
    '0' :: '.' :: List.replicate (-numeral.place - 1).toNat '0' ++ numeral.digits
  else
    let width := numeral.place.toNat + 1
    let fraction := numeral.digits.drop width
    numeral.digits.take width ++ List.replicate (width - numeral.digits.length) '0' ++
      '.' :: (if fraction.isEmpty then ['0'] else fraction)

/-- The numeral written with one digit before the point and an exponent. -/
def exponential (numeral : Numeral) : List Char :=
  let mantissa := match numeral.digits with
    | [] => ['0']
    | [digit] => [digit]
    | digit :: fraction => digit :: '.' :: fraction
  mantissa ++ 'e' :: intDigits numeral.place

end Numeral

/--
The text of a number. It is positional if the first digit stands for `10 ^ lowest` or more, and for less than
`10 ^ 16`.
-/
def Binary64.digitsFrom (lowest : Int) : Binary64 → List Char
  | nan => "NaN".toList
  | infinite negative => (if negative then "-inf" else "inf").toList
  | finite negative code =>
    let sign := if negative then ['-'] else []
    if code.val = 0 then sign ++ "0.0".toList
    else
      let numeral := Numeral.shortest code
      sign ++ if lowest ≤ numeral.place ∧ numeral.place < 16 then numeral.positional else numeral.exponential

def Binary64.digits : Binary64 → List Char :=
  Binary64.digitsFrom (-4)

end TreePath

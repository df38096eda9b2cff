import TreePath.Number.Integer

/-!
# Decimals of 96 bits

A decimal is a sign, a mantissa below `2 ^ 96` and a scale from 0 to 28: its value is the mantissa divided by
ten to the scale. An integer and a double-precision number are combined as decimals, so that a sum or
product of short decimal fractions is what it is on paper. Every operation may fail; a result with too
many digits is rounded half to even if only digits of the fraction are lost.
-/

namespace TreePath

/-- A decimal: `mantissa / 10 ^ scale` under a sign. -/
structure Decimal where
  negative : Bool
  mantissa : Nat
  scale : Nat
deriving DecidableEq

namespace Decimal

def mantissaBound : Nat := 2 ^ (96 : Nat)

def scaleBound : Nat := 28

def signed (x : Decimal) : Int :=
  if x.negative then -(x.mantissa : Int) else x.mantissa

/-- An integer, exactly. -/
def ofInt (value : Int) : Decimal where
  negative := decide (value < 0)
  mantissa := value.natAbs
  scale := 0

/-! ## From double precision

A magnitude `m * 2 ^ e` is brought to the form `m' * 10 ^ e'` in steps that each use up one factor of two
or five; `m'` stays below the bound, losing its last bits or digits where it would not.
-/

/--
Uses up factors of `2 ^ -1 = 5 * 10 ^ -1`: the mantissa takes the factor five, or, where there is no room for it,
loses a factor two.
-/
def useNegativePowers : Nat → Nat → Int → Nat × Int
  | 0, mantissa, exponent => (mantissa, exponent)
  | count + 1, mantissa, exponent =>
    if mantissa % 2 = 0 then useNegativePowers count (mantissa / 2) (exponent + 1)
    else if 5 * mantissa < mantissaBound then useNegativePowers count (5 * mantissa) exponent
    else useNegativePowers count (mantissa / 2) (exponent + 1)

/--
Uses up factors of two as `2 = 10 / 5`: the mantissa takes the factor two and one of the tens is dropped, or, where there
is no room for it, loses a factor five and the ten stays. There is no result where the tens are more than half of the
factors that are left, since more of them would stay than the mantissa can take. A conversion begins with as many tens as
factors, so that it fails at the first factor without room: the number is then `2 ^ 96` or larger.
-/
def usePositivePowers : Nat → Nat → Int → Option (Nat × Int)
  | 0, mantissa, exponent => some (mantissa, exponent)
  | count + 1, mantissa, exponent =>
    if mantissa < 2 ^ (95 : Nat) then usePositivePowers count (2 * mantissa) (exponent - 1)
    else if 2 * exponent > count + 1 then none
    else usePositivePowers count (mantissa / 5) exponent

/-- Multiplies by a power of ten, as long as the mantissa stays below its bound. -/
def multiplyTens : Nat → Nat → Option Nat
  | 0, mantissa => some mantissa
  | count + 1, mantissa =>
    if 10 * mantissa < mantissaBound then multiplyTens count (10 * mantissa) else none

/--
Drops the digits below the largest scale, rounding half up at every digit. There is no result once no digit
is left.
-/
def dropBelowScale : Nat → Nat → Option Nat
  | 0, mantissa => some mantissa
  | count + 1, mantissa =>
    let shorter := mantissa / 10
    if shorter = 0 then none
    else dropBelowScale count (if mantissa % 10 ≥ 5 then shorter + 1 else shorter)

/-- Drops digits of the fraction until the mantissa fits 52 bits; the result is the mantissa and its scale. -/
def dropBelowPrecision : Nat → Nat → Nat × Nat
  | 0, mantissa => (mantissa, 0)
  | scale + 1, mantissa =>
    if mantissa < 2 ^ (52 : Nat) then (mantissa, scale + 1)
    else dropBelowPrecision scale (if mantissa % 10 ≥ 5 then mantissa / 10 + 1 else mantissa / 10)

def dropZeros : Nat → Nat → Nat × Nat
  | 0, mantissa => (mantissa, 0)
  | scale + 1, mantissa =>
    if mantissa % 10 = 0 then dropZeros scale (mantissa / 10) else (mantissa, scale + 1)

/-- The decimal `mantissa * 10 ^ exponent` with a fraction of at most 52 bits and without trailing zeros. -/
def ofTens (negative : Bool) (mantissa : Nat) (exponent : Int) : Option Decimal :=
  match exponent with
  | .ofNat tens => (multiplyTens tens mantissa).map fun value => ⟨negative, value, 0⟩
  | .negSucc scale =>
    let excess := scale + 1 - scaleBound
    match dropBelowScale excess mantissa with
    | none => some ⟨negative, 0, 0⟩
    | some value =>
      let (value, scale) := dropBelowPrecision (scale + 1 - excess) value
      let (value, scale) := dropZeros scale value
      some ⟨negative, value, scale⟩

/-- The decimal near a finite number, if the number is not too large. -/
def ofBinary64? : Binary64 → Option Decimal
  | .finite negative code =>
    if code.val = 0 then some ⟨false, 0, 0⟩
    else
      let field := code.val / 2 ^ (52 : Nat)
      let fraction := code.val % 2 ^ (52 : Nat)
      let mantissa := if field = 0 then fraction else 2 ^ (52 : Nat) + fraction
      let exponent : Int := (if field = 0 then 1 else field : Nat) - 1075
      match exponent with
      | .ofNat power =>
        match usePositivePowers power mantissa power with
        | some (value, tens) => ofTens negative value tens
        | none => none
      | .negSucc power =>
        let (value, tens) := useNegativePowers (power + 1) mantissa exponent
        ofTens negative value tens
  | _ => none

/-! ## Arithmetic -/

/--
The decimal nearest to `value / 10 ^ scale`, by dropping as few digits as will bring mantissa and scale
within their bounds. Digits before the point are never dropped.
-/
def fit? (negative : Bool) (value scale : Nat) : Option Decimal :=
  let attempt (dropped : Nat) : Option Decimal :=
    let rounded := roundHalfEven value (10 ^ dropped)
    if rounded < mantissaBound ∧ scale - dropped ≤ scaleBound then
      some ⟨negative, rounded, scale - dropped⟩
    else none
  (List.range (scale + 1)).findSome? attempt

def neg (x : Decimal) : Decimal :=
  { x with negative := !x.negative }

/-- The sum. A zero leaves the other operand as it is. -/
def add? (x y : Decimal) : Option Decimal :=
  if x.mantissa = 0 then some y
  else if y.mantissa = 0 then some x
  else
    let scale := max x.scale y.scale
    let sum := x.signed * 10 ^ (scale - x.scale) + y.signed * 10 ^ (scale - y.scale)
    fit? (decide (sum < 0)) sum.natAbs scale

def sub? (x y : Decimal) : Option Decimal :=
  if y.mantissa = 0 then some x
  else x.add? y.neg

/-- The product. Two short mantissas whose scales add up to more than 47 give zero. -/
def mul? (x y : Decimal) : Option Decimal :=
  if x.mantissa = 0 ∨ y.mantissa = 0 then some ⟨false, 0, 0⟩
  else if x.mantissa < 2 ^ (32 : Nat) ∧ y.mantissa < 2 ^ (32 : Nat) ∧ x.scale + y.scale > 47 then some ⟨false, 0, 0⟩
  else fit? (x.negative != y.negative) (x.mantissa * y.mantissa) (x.scale + y.scale)

/-- The most digits, up to a limit, by which a quotient can grow and stay below the mantissa bound. -/
def roomFor (quotient : Nat) : Nat → Nat
  | 0 => 0
  | limit + 1 => if quotient * 10 ^ (limit + 1) < mantissaBound then limit + 1 else roomFor quotient limit

/--
Long division: the quotient and the remainder so far, and the scale of the quotient, which may be below zero
at first. Up to nine digits are brought down at once. The result is the quotient, its scale and
whether a remainder was ever left. A round raises the scale, which stays within -28 and 28.
-/
def divideOn (divisor : Nat) : Nat → Nat → Nat → Int → Bool → Option (Nat × Nat × Bool)
  | 0, _, _, _, _ => none
  | rounds + 1, quotient, remainder, scale, inexact =>
    if remainder = 0 then
      if 0 ≤ scale then some (quotient, scale.toNat, inexact)
      else
        let power := min 9 (-scale).toNat
        if quotient * 10 ^ power < mantissaBound then
          divideOn divisor rounds (quotient * 10 ^ power) 0 (scale + power) inexact
        else none
    else
      let power := roomFor quotient (min 9 (28 - scale).toNat)
      if power = 0 then
        if scale < 0 then none
        else
          let twice := 2 * remainder
          let up := divisor < twice ∨ (twice = divisor ∧ quotient % 2 = 1)
          some (if up then quotient + 1 else quotient, scale.toNat, true)
      else
        divideOn divisor rounds (quotient * 10 ^ power + remainder * 10 ^ power / divisor)
          (remainder * 10 ^ power % divisor) (scale + power) true

/-- Strips eight zeros at a time from a quotient whose low 32 bits are zero. -/
def stripEights : Nat → Nat → Nat → Nat × Nat
  | 0, quotient, scale => (quotient, scale)
  | rounds + 1, quotient, scale =>
    if quotient % 2 ^ (32 : Nat) = 0 ∧ quotient % 10 ^ (8 : Nat) = 0 ∧ 8 ≤ scale then
      stripEights rounds (quotient / 10 ^ (8 : Nat)) (scale - 8)
    else (quotient, scale)

/-- Strips a number of zeros from a quotient, if it ends in them and its scale allows. -/
def stripZeros (count : Nat) (quotient : Nat × Nat) : Nat × Nat :=
  if quotient.1 % 10 ^ count = 0 ∧ count ≤ quotient.2 then (quotient.1 / 10 ^ count, quotient.2 - count)
  else quotient

/-- The quotient, to as many digits as there is room for. -/
def div? (x y : Decimal) : Option Decimal :=
  if y.mantissa = 0 then none
  else if x.mantissa = 0 then some ⟨false, 0, 0⟩
  else
    match divideOn y.mantissa 64 (x.mantissa / y.mantissa) (x.mantissa % y.mantissa)
        ((x.scale : Int) - y.scale) false with
    | none => none
    | some (quotient, scale, inexact) =>
      let (quotient, scale) :=
        if inexact then
          stripZeros 1 (stripZeros 2 (stripZeros 4 (stripEights 4 quotient scale)))
        else (quotient, scale)
      some ⟨x.negative != y.negative, quotient, scale⟩

/-! ## Results -/

/-- The integer that a decimal is, if it is one. -/
def toInt? (x : Decimal) : Option Int :=
  if x.mantissa % 10 ^ x.scale = 0 then
    let whole : Int := (x.mantissa / 10 ^ x.scale : Nat)
    some (if x.negative then -whole else whole)
  else none

/--
The number near a decimal: the fraction is divided on its own, added to the whole part, and the sum is
rounded at the scale of the decimal.
-/
def toBinary64 (x : Decimal) : Binary64 :=
  let magnitude :=
    if x.scale = 0 then Binary64.ofInt x.mantissa
    else
      let power := Binary64.ofInt (10 ^ x.scale : Nat)
      let whole := Binary64.ofInt (x.mantissa / 10 ^ x.scale : Nat)
      let fraction := (Binary64.ofInt (x.mantissa % 10 ^ x.scale : Nat)).div power
      if fraction.isZero then whole
      else (((whole.add fraction).mul power).round).div power
  magnitude.withSign x.negative

end Decimal

end TreePath

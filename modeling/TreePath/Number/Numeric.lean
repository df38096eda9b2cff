import TreePath.Number.Decimal

/-!
# Integers and floating-point numbers together

A number of a script is an integer or a floating-point number. Two of one kind are combined within that kind, and
two of different kinds as decimals, so that a whole result is an integer. Where the decimals cannot hold the
operands or the result, floating-point arithmetic stands in. No operation yields an infinity or
not-a-number: there is no result then.
-/

namespace TreePath

/-- An integer or a floating-point number. -/
inductive Numeric where
  | integer (n : Int64)
  | float (x : Binary64)
deriving DecidableEq

namespace Numeric

/-- The floating-point number nearest to a number. -/
def toFloat : Numeric → Binary64
  | integer n => .ofInt64 n
  | float x => x

/-- The decimal near a number, if it is not too large. -/
def toDecimal? : Numeric → Option Decimal
  | integer n => some (.ofInt n.toInt)
  | float x => Decimal.ofBinary64? x

/-- The order of two numbers. Integers are compared exactly, and otherwise floating-point numbers are. -/
def compare? : Numeric → Numeric → Option Ordering
  | integer a, integer b => some (compare a.toInt b.toInt)
  | x, y => x.toFloat.compare? y.toFloat

/-- A floating-point result, unless it is infinite or not a number. -/
def ofFloat? (x : Binary64) : Option Numeric :=
  if x.isFinite then some (float x) else none

/-- A decimal result: an integer if it is whole and lies in the 64-bit range. -/
def ofDecimal (x : Decimal) : Numeric :=
  match x.toInt?.bind int64? with
  | some n => integer n
  | none => float x.toBinary64

/-- Two numbers are combined by the operation on the kind that they have in common. -/
def combine? (integers : Int64 → Int64 → Option Numeric) (decimals : Decimal → Decimal → Option Decimal)
    (floats : Binary64 → Binary64 → Binary64) : Numeric → Numeric → Option Numeric
  | integer a, integer b => integers a b
  | float a, float b => ofFloat? (floats a b)
  | x, y =>
    match x.toDecimal?, y.toDecimal? with
    | some a, some b =>
      match decimals a b with
      | some result => some (ofDecimal result)
      | none => ofFloat? (floats x.toFloat y.toFloat)
    | _, _ => ofFloat? (floats x.toFloat y.toFloat)

/-- The integer of a result, if it lies in the 64-bit range. -/
def ofInt? (result : Int) : Option Numeric :=
  (int64? result).map integer

def add? : Numeric → Numeric → Option Numeric :=
  combine? (fun a b => ofInt? (a.toInt + b.toInt)) Decimal.add? .add

def sub? : Numeric → Numeric → Option Numeric :=
  combine? (fun a b => ofInt? (a.toInt - b.toInt)) Decimal.sub? .sub

def mul? : Numeric → Numeric → Option Numeric :=
  combine? (fun a b => ofInt? (a.toInt * b.toInt)) Decimal.mul? .mul

/-- The quotient of two integers: an integer where the division leaves no remainder. -/
def divIntegers? (a b : Int64) : Option Numeric :=
  if b.toInt = 0 then none
  else if a.toInt.tmod b.toInt = 0 then ofInt? (a.toInt.tdiv b.toInt)
  else ofFloat? ((Binary64.ofInt64 a).div (.ofInt64 b))

def div? : Numeric → Numeric → Option Numeric :=
  combine? divIntegers? Decimal.div? .div

end Numeric

end TreePath

import TreePath.Number.Rounding

/-!
# Double-precision numbers

The binary interchange format of 64 bits. The finite magnitudes are counted upwards from zero: the
number of a magnitude is its *code*, which is also its bit pattern without the sign. Every magnitude
is a whole number of *units*, the unit being the smallest positive magnitude, so the exact result of an
operation is a quotient of natural numbers and `ofRatio` rounds it. All not-a-numbers count as one.
-/

namespace TreePath

/-- A double-precision number: a finite one is a sign and the code of a magnitude. -/
inductive Binary64 where
  | nan
  | infinite (negative : Bool)
  | finite (negative : Bool) (code : Fin 0x7FF0000000000000)
deriving DecidableEq

namespace Binary64

/-- The number of finite magnitudes, which is also the bit pattern of infinity. -/
def codeCount : Nat := 0x7FF0000000000000

/-- One, counted in units. -/
def unitsPerOne : Nat := 2 ^ (1074 : Nat)

/-- The magnitude of a code, in units. -/
def magnitude (code : Nat) : Nat :=
  let exponent := code / 2 ^ (52 : Nat)
  let fraction := code % 2 ^ (52 : Nat)
  if exponent = 0 then fraction else (2 ^ (52 : Nat) + fraction) * 2 ^ (exponent - 1)

/--
The code of the magnitude nearest to a quotient of units. A code from `codeCount` on stands for a
quotient that lies beyond the finite magnitudes.
-/
def codeOfRatio (numerator denominator : Nat) : Nat :=
  let shift := (numerator / denominator).log2 - 52
  shift * 2 ^ (52 : Nat) + roundHalfEven numerator (denominator * 2 ^ shift)

/-- The number nearest to a quotient of units under a sign. -/
def ofRatio (negative : Bool) (numerator denominator : Nat) : Binary64 :=
  let code := codeOfRatio numerator denominator
  if small : code < 0x7FF0000000000000 then finite negative ⟨code, small⟩ else infinite negative

def zero (negative : Bool) : Binary64 :=
  finite negative ⟨0, by decide⟩

def ofInt (value : Int) : Binary64 :=
  ofRatio (decide (value < 0)) (value.natAbs * unitsPerOne) 1

/-- The number nearest to `digits * 10 ^ exponent` under a sign. -/
def ofDecimal (negative : Bool) (digits : Nat) (exponent : Int) : Binary64 :=
  match exponent with
  | .ofNat power => ofRatio negative (digits * 10 ^ power * unitsPerOne) 1
  | .negSucc power => ofRatio negative (digits * unitsPerOne) (10 ^ (power + 1))

def ofBits (bits : Nat) : Binary64 :=
  let negative := decide (2 ^ (63 : Nat) ≤ bits % 2 ^ (64 : Nat))
  let code := bits % 2 ^ (63 : Nat)
  if small : code < 0x7FF0000000000000 then finite negative ⟨code, small⟩
  else if code = codeCount then infinite negative
  else nan

def toBits : Binary64 → Nat
  | nan => 0x7FF8000000000000
  | infinite negative => (if negative then 2 ^ (63 : Nat) else 0) + codeCount
  | finite negative code => (if negative then 2 ^ (63 : Nat) else 0) + code.val

/-- Whether a number is neither infinite nor not-a-number. -/
def isFinite : Binary64 → Bool
  | finite _ _ => true
  | _ => false

def isZero : Binary64 → Bool
  | finite _ code => code.val == 0
  | _ => false

/-- The exact value of a finite number, in units. -/
def units? : Binary64 → Option Int
  | finite false code => some (magnitude code.val)
  | finite true code => some (-(magnitude code.val : Int))
  | _ => none

/--
The place of a number in the order of all numbers: both zeros have the place zero, and not-a-number has
none.
-/
def place? : Binary64 → Option Int
  | nan => none
  | infinite false => some codeCount
  | infinite true => some (-(codeCount : Int))
  | finite false code => some code.val
  | finite true code => some (-(code.val : Int))

/-- The order of two numbers. Not-a-number is in no order with anything. -/
def compare? (left right : Binary64) : Option Ordering :=
  match left.place?, right.place? with
  | some x, some y => some (compare x y)
  | _, _ => none

/-- Whether two numbers are equal: both zeros are, and not-a-number differs from itself. -/
def same (left right : Binary64) : Bool :=
  left.compare? right == some .eq

def neg : Binary64 → Binary64
  | nan => nan
  | infinite negative => infinite (!negative)
  | finite negative code => finite (!negative) code

/-- The sum, correctly rounded. An exact zero is positive unless both operands are negative. -/
def add : Binary64 → Binary64 → Binary64
  | nan, _ => nan
  | _, nan => nan
  | infinite x, infinite y => if x = y then infinite x else nan
  | infinite x, finite _ _ => infinite x
  | finite _ _, infinite y => infinite y
  | finite x a, finite y b =>
    let left : Int := if x then -(magnitude a.val : Int) else magnitude a.val
    let right : Int := if y then -(magnitude b.val : Int) else magnitude b.val
    let sum := left + right
    if sum = 0 then zero (x && y) else ofRatio (decide (sum < 0)) sum.natAbs 1

/-- The difference, correctly rounded. -/
def sub (left right : Binary64) : Binary64 :=
  left.add right.neg

/-- The product, correctly rounded. -/
def mul : Binary64 → Binary64 → Binary64
  | nan, _ => nan
  | _, nan => nan
  | infinite x, infinite y => infinite (x != y)
  | infinite x, finite y b => if b.val = 0 then nan else infinite (x != y)
  | finite x a, infinite y => if a.val = 0 then nan else infinite (x != y)
  | finite x a, finite y b => ofRatio (x != y) (magnitude a.val * magnitude b.val) unitsPerOne

/-- The quotient, correctly rounded. -/
def div : Binary64 → Binary64 → Binary64
  | nan, _ => nan
  | _, nan => nan
  | infinite _, infinite _ => nan
  | infinite x, finite y _ => infinite (x != y)
  | finite x _, infinite y => zero (x != y)
  | finite x a, finite y b =>
    if b.val = 0 then (if a.val = 0 then nan else infinite (x != y))
    else ofRatio (x != y) (magnitude a.val * unitsPerOne) (magnitude b.val)

/-- The nearest integral number; a half goes away from zero. -/
def round : Binary64 → Binary64
  | finite negative code =>
    ofRatio negative (roundHalfUp (magnitude code.val) unitsPerOne * unitsPerOne) 1
  | x => x

/-- The number with the given sign and the magnitude of this one. -/
def withSign (negative : Bool) : Binary64 → Binary64
  | nan => nan
  | infinite _ => infinite negative
  | finite _ code => finite negative code

/-- The integer that a number is, if it is one. -/
def toInt? (x : Binary64) : Option Int :=
  match x.units? with
  | some units => if units % unitsPerOne = 0 then some (units / unitsPerOne) else none
  | none => none

example : ofInt 1 = ofBits 0x3FF0000000000000 := by decide +kernel
example : ofDecimal false 1 (-1) = ofBits 0x3FB999999999999A := by decide +kernel
example : ofDecimal true 5 (-324) = ofBits 0x8000000000000001 := by decide +kernel
example : ofDecimal false 1 309 = infinite false := by decide +kernel
example : (ofInt (2 ^ (53 : Nat))).compare? (ofInt (2 ^ (53 : Nat) + 1)) = some .eq := by decide +kernel

end Binary64

end TreePath

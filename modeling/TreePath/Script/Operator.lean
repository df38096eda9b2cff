/-!
# Operators

The operators and functions of scripts. A lower precedence number binds tighter; infix operators of equal
precedence group to the left. Functions are written with their arguments in parentheses.
-/

namespace TreePath

/-- An operator or function of scripts. -/
inductive Operator where
  | equal
  | notEqual
  | less
  | greater
  | lessOrEqual
  | greaterOrEqual
  /-- Membership in a list. -/
  | memberOf
  /-- Whether a text, array or object is empty, compared with a truth value. -/
  | emptiness
  /-- Whether there is a value, compared with a truth value. -/
  | presence
  /-- The same as `presence`, under another name. -/
  | existence
  /-- Whether a regular expression matches some part of a text. -/
  | finds
  | add
  | subtract
  | multiply
  | divide
  | and
  | or
  | not
  /-- All values that a path finds. -/
  | get
  /-- The size of a text, array or object. -/
  | length
  /-- The number of values that a path finds. -/
  | count
  /-- Whether a regular expression matches a whole text. -/
  | matchWhole
  /-- Whether a regular expression matches some part of a text. -/
  | search
deriving DecidableEq

namespace Operator

def name : Operator → String
  | equal => "=="
  | notEqual => "!="
  | less => "<"
  | greater => ">"
  | lessOrEqual => "<="
  | greaterOrEqual => ">="
  | memberOf => "in"
  | emptiness => "empty"
  | presence => "has"
  | existence => "exists"
  | finds => "=~"
  | add => "+"
  | subtract => "-"
  | multiply => "*"
  | divide => "/"
  | and => "&&"
  | or => "||"
  | not => "!"
  | get => "get"
  | length => "length"
  | count => "count"
  | matchWhole => "match"
  | search => "search"

/-- How tightly an operator binds: zero for functions and negation, which take their operands at once. -/
def precedence : Operator → Nat
  | not | get | length | count | matchWhole | search => 0
  | multiply | divide => 1
  | add | subtract => 2
  | and => 4
  | or => 5
  | _ => 3

def loosest : Nat := 5

def arity : Operator → Nat
  | not | get | length | count => 1
  | _ => 2

/-- Whether the operands are written in parentheses after the name. -/
def isFunction : Operator → Bool
  | get | length | count | matchWhole | search => true
  | _ => false

/-- Whether a path as operand means all that it finds and not just the first. -/
def gathers : Operator → Bool
  | get | count => true
  | _ => false

def function? (name : String) : Option Operator :=
  if name = "get" then some get
  else if name = "length" then some length
  else if name = "count" then some count
  else if name = "match" then some matchWhole
  else if name = "search" then some search
  else none

def word? (name : String) : Option Operator :=
  if name = "in" then some memberOf
  else if name = "empty" then some emptiness
  else if name = "has" then some presence
  else if name = "exists" then some existence
  else none

theorem precedence_le_loosest (operator : Operator) : operator.precedence ≤ loosest := by
  cases operator <;> decide

end Operator

end TreePath

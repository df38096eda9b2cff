import TreePath.Number.Numeric
import TreePath.Query.Walk

/-!
# Terms

What an operand or operator of a script yields: no value, a value of the document, a number that was computed, a
pattern, or the list of all that a path finds. Operators look at terms by kind; an array or object found in
the document is a *node* and is not copied.
-/

namespace TreePath

variable [RegexSyntax]

/-- An intermediate result of a script. -/
inductive Term where
  /-- No value, which is something else than null. -/
  | nothing
  | null
  | boolean (truth : Bool)
  | number (x : Numeric)
  | text (characters : String)
  | time (instant : Instant)
  | pattern (pattern : Pattern)
  | node (value : Value)
  | list (values : List Value)

namespace Term

def ofValue : Value → Term
  | .null => null
  | .boolean truth => boolean truth
  | .integer n => number (.integer n)
  | .float x => number (.float x)
  | .string characters => text characters
  | .time instant => time instant
  | .array items => node (.array items)
  | .object members => node (.object members)

/-- The value of a term. A pattern is the text that it was compiled from. -/
def toValue? : Term → Option Value
  | nothing => none
  | null => some .null
  | boolean truth => some (.boolean truth)
  | number (.integer n) => some (.integer n)
  | number (.float x) => some (.float x)
  | text characters => some (.string characters)
  | time instant => some (.time instant)
  | pattern compiled => some (.string compiled.text)
  | node value => some value
  | list values => some (.array values)

def isTrue : Term → Bool
  | boolean truth => truth
  | _ => false

def isPresent : Term → Bool
  | nothing => false
  | _ => true

/-- The number of characters of a text, of items or of members. -/
def size? : Term → Option Nat
  | text characters => some characters.length
  | node value => value.size?
  | list values => some values.length
  | _ => none

/-- The instant that a term is or names. -/
def toInstant? : Term → Option Instant
  | time instant => some instant
  | text characters => Instant.ofText? characters.toList
  | _ => none

def ofNumeric? : Option Numeric → Term
  | some x => number x
  | none => nothing

def ofSize (size : Nat) : Term :=
  match int64? size with
  | some n => number (.integer n)
  | none => nothing

/-! ## Comparison -/

/-- The order of two texts by their code points. -/
def compareTexts (left right : String) : Ordering :=
  if left < right then .lt else if left = right then .eq else .gt

/-- Whether two terms are equal. An instant equals a text that names it, and a list equals an array of the same values. -/
def equal : Term → Term → Bool
  | nothing, nothing => true
  | null, null => true
  | boolean x, boolean y => x == y
  | text x, text y => x == y
  | number x, number y => x.compare? y == some .eq
  | time x, other => match other.toInstant? with
    | some y => x.compare y == .eq
    | none => false
  | other, time y => match other.toInstant? with
    | some x => x.compare y == .eq
    | none => false
  | node x, node y => x.same y
  | list xs, list ys => Value.sameItems xs ys
  | list xs, node (.array ys) => Value.sameItems xs ys
  | node (.array xs), list ys => Value.sameItems xs ys
  | _, _ => false

/-- The order of two terms: of two numbers, of two texts, or of two instants of which one may be named by a text. -/
def order? : Term → Term → Option Ordering
  | number x, number y => x.compare? y
  | text x, text y => some (compareTexts x y)
  | time x, other => other.toInstant?.map fun y => x.compare y
  | other, time y => other.toInstant?.map fun x => x.compare y
  | _, _ => none

/-- Whether some value of a list or array equals a term. -/
def contains : Term → Term → Bool
  | list values, sought => values.any fun value => (ofValue value).equal sought
  | node (.array values), sought => values.any fun value => (ofValue value).equal sought
  | _, _ => false

/--
Whether a text matches a regular expression. A pattern has been compiled before; a text is compiled here, and one
that is no regular expression matches nothing.
-/
def matchesPattern (anchored : Bool) : Term → Term → Bool
  | text subject, pattern compiled => compiled.regex.isMatch subject
  | text subject, text source => match Pattern.compile? source anchored with
    | some regex => regex.isMatch subject
    | none => false
  | _, _ => false

/-! ## Operators -/

/-- The sum of two numbers, or two texts one after the other. -/
def add : Term → Term → Term
  | number x, number y => ofNumeric? (x.add? y)
  | text x, text y => text (x ++ y)
  | _, _ => nothing

/-- An operation on two numbers, as an operation on terms. -/
def arithmetic (operation : Numeric → Numeric → Option Numeric) : Term → Term → Term
  | number x, number y => ofNumeric? (operation x y)
  | _, _ => nothing

/-- The opposite of a truth value. Nothing counts as false here, and every other term as true. -/
def negate : Term → Term
  | boolean truth => boolean !truth
  | nothing => boolean true
  | _ => boolean false

def countFound : Term → Nat
  | nothing => 0
  | list values => values.length
  | node (.array items) => items.length
  | _ => 1

def applyUnary (operator : Operator) (argument : Term) : Term :=
  match operator with
  | .not => argument.negate
  | .get => argument
  | .length => match argument.size? with
    | some size => ofSize size
    | none => nothing
  | .count => ofSize argument.countFound
  | _ => nothing

/-- Whether the emptiness of a term is the one that is asked for. -/
def checkEmptiness (subject wanted : Term) : Bool :=
  match subject.size?, wanted with
  | some size, boolean wanted => (size == 0) == wanted
  | _, _ => false

/-- Whether the presence of a term is the one that is asked for. -/
def checkPresence (subject wanted : Term) : Bool :=
  match wanted with
  | boolean wanted => subject.isPresent == wanted
  | _ => false

def applyBinary (operator : Operator) (left right : Term) : Term :=
  match operator with
  | .equal => boolean (left.equal right)
  | .notEqual => boolean !(left.equal right)
  | .less => boolean (left.order? right == some .lt)
  | .greater => boolean (left.order? right == some .gt)
  | .lessOrEqual => boolean (left.order? right == some .lt || left.order? right == some .eq)
  | .greaterOrEqual => boolean (left.order? right == some .gt || left.order? right == some .eq)
  | .and => boolean (left.isTrue && right.isTrue)
  | .or => boolean (left.isTrue || right.isTrue)
  | .memberOf => boolean (right.contains left)
  | .emptiness => boolean (left.checkEmptiness right)
  | .presence | .existence => boolean (left.checkPresence right)
  | .finds | .search => boolean (left.matchesPattern false right)
  | .matchWhole => boolean (left.matchesPattern true right)
  | .add => left.add right
  | .subtract => left.arithmetic Numeric.sub? right
  | .multiply => left.arithmetic Numeric.mul? right
  | .divide => left.arithmetic Numeric.div? right
  | .not | .get | .length | .count => nothing

/-- An operator takes its operands from the front of a list and puts what it yields in their place. -/
def apply (operator : Operator) (operands : List Term) : List Term :=
  let first := operands.headD nothing
  if operator.arity = 1 then applyUnary operator first :: operands.drop 1
  else applyBinary operator first ((operands.drop 1).headD nothing) :: operands.drop 2

end Term

end TreePath

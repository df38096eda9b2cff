import TreePath.Value.Members
import TreePath.Instant

/-!
# Values

The tree of values that a document is. Integers and floating-point numbers are distinct kinds, and beside
what JSON knows there are instants of time. `Value.WellFormed` says that the members of every object are in
order; all operations of this library keep it.
-/

namespace TreePath

/-- A value of a document. -/
inductive Value where
  | null
  | boolean (truth : Bool)
  | integer (n : Int64)
  | float (x : Binary64)
  | string (text : String)
  | time (instant : Instant)
  | array (items : List Value)
  | object (members : List (String × Value))

/-- The kinds of values. -/
inductive Kind where
  | null
  | boolean
  | integer
  | float
  | string
  | time
  | array
  | object
deriving DecidableEq

def Kind.name : Kind → String
  | null => "null"
  | boolean => "boolean"
  | integer => "integer"
  | float => "float"
  | string => "string"
  | time => "time"
  | array => "array"
  | object => "object"

namespace Value

def kind : Value → Kind
  | null => .null
  | boolean _ => .boolean
  | integer _ => .integer
  | float _ => .float
  | string _ => .string
  | time _ => .time
  | array _ => .array
  | object _ => .object

def isContainer : Value → Bool
  | array _ => true
  | object _ => true
  | _ => false

def isNull : Value → Bool
  | null => true
  | _ => false

/-- The integer that a value is, if it is one. -/
def toInteger? : Value → Option Int64
  | integer n => some n
  | _ => none

/-- The text that a value is, if it is one. -/
def toText? : Value → Option String
  | string text => some text
  | _ => none

/-- The number of characters of a text, of items of an array or of members of an object. -/
def size? : Value → Option Nat
  | string text => some text.length
  | array items => some items.length
  | object members => some members.length
  | _ => none

/-- The values that a value holds, in order. -/
def children : Value → List Value
  | array items => items
  | object members => members.map (·.2)
  | _ => []

mutual

/--
Whether two values are equal. Floating-point numbers are compared as numbers, so not-a-number differs from
itself; an integer never equals a floating-point number.
-/
def same : Value → Value → Bool
  | null, null => true
  | boolean x, boolean y => x == y
  | integer x, integer y => x == y
  | float x, float y => x.same y
  | string x, string y => x == y
  | time x, time y => x == y
  | array xs, array ys => sameItems xs ys
  | object xs, object ys => sameMembers xs ys
  | _, _ => false

/-- Whether two lists of values are equal, item by item. -/
def sameItems : List Value → List Value → Bool
  | [], [] => true
  | x :: xs, y :: ys => same x y && sameItems xs ys
  | _, _ => false

/-- Whether two lists of members are equal, member by member. -/
def sameMembers : List (String × Value) → List (String × Value) → Bool
  | [], [] => true
  | (name, x) :: xs, (other, y) :: ys => name == other && same x y && sameMembers xs ys
  | _, _ => false

end

mutual

/-- In every object of the value the members are in order. -/
def WellFormed : Value → Prop
  | array items => WellFormedItems items
  | object members => Members.Ordered members ∧ WellFormedMembers members
  | _ => True

def WellFormedItems : List Value → Prop
  | [] => True
  | item :: items => WellFormed item ∧ WellFormedItems items

def WellFormedMembers : List (String × Value) → Prop
  | [] => True
  | (_, value) :: members => WellFormed value ∧ WellFormedMembers members

end

mutual

/-- The number of values in a value, itself included. -/
def count : Value → Nat
  | array items => countItems items + 1
  | object members => countMembers members + 1
  | _ => 1

def countItems : List Value → Nat
  | [] => 0
  | item :: items => count item + countItems items

def countMembers : List (String × Value) → Nat
  | [] => 0
  | (_, value) :: members => count value + countMembers members

end

/-- The object with the given members, of which the last with a name counts. -/
def ofMembers (pairs : List (String × Value)) : Value :=
  object (Members.ofList pairs)

end Value

end TreePath

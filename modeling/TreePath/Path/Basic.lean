import TreePath.Regex.Pattern
import TreePath.Script.Operator
import TreePath.Value.Location

/-!
# Paths and scripts

A path is a list of fragments. A filter fragment carries a script, and a path may be an operand of a script,
so the two are defined together. A script keeps its operators and operands in one list, each operator in
front of its operands; `Equation` is the same as a tree, and `Equation.flatten` the passage from one to the
other.
-/

namespace TreePath

/-- One entry of a union: a key picks from objects and an index from arrays. -/
inductive Selector where
  | key (name : String)
  | index (i : Int64)
deriving DecidableEq

/-- A step of a path, over the kind of tests that its filters carry. -/
inductive Fragment (Test : Type) where
  /-- The root of the document. -/
  | root
  /-- The value at hand. -/
  | current
  /-- The member of an object. -/
  | child (name : String)
  /-- The item of an array; negative indexes count from the end. -/
  | nth (i : Int64)
  /-- All children. -/
  | wildcard
  /-- The value at hand and all that lies below it. -/
  | descent
  /-- A range of the items of an array. -/
  | slice (start stop step : Option Int64)
  /-- Several members or items. -/
  | union (selectors : List Selector)
  /-- The children that pass a test. -/
  | filter (test : Test)

variable [RegexSyntax]

mutual

/-- A path: fragments that are followed one after the other. -/
structure Path where
  fragments : List (Fragment Script)

/-- A script: an expression with its operators in front of their operands. -/
structure Script where
  template : List Entry

/-- An operator or operand of a script. -/
inductive Entry where
  | operator (operator : Operator)
  | literal (value : Value)
  /-- The absence of a value. -/
  | nothing
  | path (path : Path)
  | pattern (pattern : Pattern)

end

/-- An operand of a script. -/
inductive Operand where
  | literal (value : Value)
  | nothing
  | path (path : Path)
  | pattern (pattern : Pattern)

def Operand.entry : Operand → Entry
  | .literal value => .literal value
  | .nothing => .nothing
  | .path inner => .path inner
  | .pattern inner => .pattern inner

/-- A script as a tree. -/
inductive Equation where
  | operand (operand : Operand)
  | unary (operator : Operator) (argument : Equation)
  | binary (operator : Operator) (left right : Equation)

namespace Equation

/-- The entries of a tree, each operator in front of its operands. -/
def flatten : Equation → List Entry
  | .operand leaf => [leaf.entry]
  | .unary operator argument => .operator operator :: argument.flatten
  | .binary operator left right => .operator operator :: (left.flatten ++ right.flatten)

def script (equation : Equation) : Script where
  template := equation.flatten

end Equation

namespace Fragment

variable {Test : Type}

def kindName : Fragment Test → String
  | root => "Root"
  | current => "Current"
  | child _ => "Child"
  | nth _ => "Nth"
  | wildcard => "Wildcard"
  | descent => "Descent"
  | slice _ _ _ => "Slice"
  | union _ => "Union"
  | filter _ => "Filter"

/-- Whether a value can be written to what the fragment picks. -/
def isAssignable : Fragment Test → Bool
  | child _ | nth _ | wildcard | union _ => true
  | _ => false

def isDescent : Fragment Test → Bool
  | descent => true
  | _ => false

def isFilter : Fragment Test → Bool
  | filter _ => true
  | _ => false

/-- Whether the fragment stays where it is: at the root or at the value at hand. -/
def isAnchor : Fragment Test → Bool
  | root | current => true
  | _ => false

/-- Whether the fragment says by name or index which children it picks. -/
def isNaming : Fragment Test → Bool
  | child _ | nth _ | union _ => true
  | _ => false

end Fragment

/-! ## Equality -/

mutual

def Path.same : Path → Path → Bool
  | ⟨xs⟩, ⟨ys⟩ => sameFragments xs ys

def Script.same : Script → Script → Bool
  | ⟨xs⟩, ⟨ys⟩ => sameEntries xs ys

def sameFragments : List (Fragment Script) → List (Fragment Script) → Bool
  | [], [] => true
  | x :: xs, y :: ys => sameFragment x y && sameFragments xs ys
  | _, _ => false

def sameFragment : Fragment Script → Fragment Script → Bool
  | .root, .root => true
  | .current, .current => true
  | .child x, .child y => x == y
  | .nth x, .nth y => x == y
  | .wildcard, .wildcard => true
  | .descent, .descent => true
  | .slice a b c, .slice x y z => a == x && b == y && c == z
  | .union xs, .union ys => xs == ys
  | .filter x, .filter y => x.same y
  | _, _ => false

def sameEntries : List Entry → List Entry → Bool
  | [], [] => true
  | x :: xs, y :: ys => x.same y && sameEntries xs ys
  | _, _ => false

/-- Whether two entries are equal. Literals are compared as values, patterns by what they are written from. -/
def Entry.same : Entry → Entry → Bool
  | .operator x, .operator y => x == y
  | .literal x, .literal y => x.same y
  | .nothing, .nothing => true
  | .path x, .path y => x.same y
  | .pattern x, .pattern y => x == y
  | _, _ => false

end

/-! ## Building paths -/

namespace Path

/-- The path without fragments, which finds nothing. -/
def empty : Path := ⟨[]⟩

def root : Path := ⟨[.root]⟩

def current : Path := ⟨[.current]⟩

def length (path : Path) : Nat := path.fragments.length

def isEmpty (path : Path) : Bool := path.fragments.isEmpty

def push (path : Path) (fragment : Fragment Script) : Path :=
  ⟨path.fragments ++ [fragment]⟩

def take (path : Path) (count : Nat) : Path :=
  ⟨path.fragments.take count⟩

def child (path : Path) (name : String) : Path := path.push (.child name)

def nth (path : Path) (i : Int64) : Path := path.push (.nth i)

def wildcard (path : Path) : Path := path.push .wildcard

/-- The path to the value and all that lies below it. -/
def descent (path : Path) : Path := path.push .descent

def slice (path : Path) (start stop step : Option Int64) : Path := path.push (.slice start stop step)

def filter (path : Path) (script : Script) : Path := path.push (.filter script)

/--
The path to several members or items. One selector alone is a plain fragment, which is how its text reads; there
is no path for none.
-/
def union? (path : Path) : List Selector → Option Path
  | [] => none
  | [.key name] => some (path.child name)
  | [.index i] => some (path.nth i)
  | selectors => some (path.push (.union selectors))

def emptyUnionMessage : String := "a union needs at least one selector"

/-- Whether a value can be written to what the path finds; nothing is said of the empty path. -/
def isAssignable? (path : Path) : Option Bool :=
  path.fragments.getLast?.map Fragment.isAssignable

end Path

end TreePath

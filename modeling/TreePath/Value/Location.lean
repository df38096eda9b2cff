import TreePath.Value.Basic

/-!
# Locations

A location says where a value stands in a document: the segments that lead to it from the root, each a member
name or an array index. Looking up and changing a value at a location that does not exist gives nothing and
changes nothing.
-/

namespace TreePath

/-- The way from a value to one of its children. -/
inductive Segment where
  | field (name : String)
  | index (i : Nat)
deriving DecidableEq

/-- The way from the root of a document to a value in it. -/
abbrev Location := List Segment

/-- The index that a signed index means in an array of a length; negative ones count from the end. -/
def resolveIndex (index : Int64) (length : Nat) : Option Nat :=
  if index.toInt < 0 then
    if index.toInt.natAbs ≤ length then some (length - index.toInt.natAbs) else none
  else if index.toInt.toNat < length then some index.toInt.toNat
  else none

namespace Value

def child? : Value → Segment → Option Value
  | object members, .field name => Members.get? members name
  | array items, .index i => items[i]?
  | _, _ => none

def at? : Value → Location → Option Value
  | value, [] => some value
  | value, segment :: location => match value.child? segment with
    | some child => child.at? location
    | none => none

/-- The segments that lead to the children, in order. -/
def segments : Value → List Segment
  | array items => (List.range items.length).map .index
  | object members => members.map fun member => .field member.1
  | _ => []

/-- Applies a function to the child that a segment leads to. -/
def updateChild (f : Value → Value) : Value → Segment → Value
  | object members, .field name => object (Members.update members name f)
  | array items, .index i => array (items.modify i f)
  | value, _ => value

/-- Applies a function to the value at a location. -/
def updateAt (f : Value → Value) : Value → Location → Value
  | value, [] => f value
  | value, segment :: location => value.updateChild (updateAt f · location) segment

/-- Stores a value as a child. A member is created if need be; an array keeps its length. -/
def place (stored : Value) : Value → Segment → Value
  | object members, .field name => object (Members.insert members name stored)
  | array items, .index i => array (items.set i stored)
  | value, _ => value

/-- Removes a member, or puts null into an array slot so that later ones keep their indexes. -/
def remove : Value → Segment → Value
  | object members, .field name => object (Members.erase members name)
  | array items, .index i => array (items.set i null)
  | value, _ => value

end Value

end TreePath

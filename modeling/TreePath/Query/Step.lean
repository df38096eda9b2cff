import TreePath.Path.Basic
import TreePath.Path.Slice

/-!
# Steps

A step is a fragment whose filters carry tests in place of scripts. A test says whether a child passes, given
the root of the document. `Step.pick` is what one step finds from a value.
-/

namespace TreePath

/-- A test of a child, given the child and the root of the document. -/
abbrev Test := Value → Value → Bool

/-- A fragment that is ready to be followed. -/
abbrev Step := Fragment Test

def Selector.pick? : Selector → Value → Option Value
  | key name, .object members => Members.get? members name
  | index i, .array items => (resolveIndex i items.length).bind (items[·]?)
  | _, _ => none

namespace Step

/--
What a step finds from a value, in order. A descent finds the value itself; the rest of it is found from the
children.
-/
def pick (root node : Value) : Step → List Value
  | .root => [root]
  | .current => [node]
  | .descent => [node]
  | .child name => ((Selector.key name).pick? node).toList
  | .nth i => ((Selector.index i).pick? node).toList
  | .wildcard => node.children
  | .slice start stop step => match node with
    | .array items => (Slice.indices start stop step items.length).filterMap (items[·]?)
    | _ => []
  | .union selectors => selectors.filterMap (·.pick? node)
  | .filter test => node.children.filter (test · root)

end Step

end TreePath

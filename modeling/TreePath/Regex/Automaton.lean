import Std.Data.HashMap

/-!
# Automata by their size

An automaton over bytes is built part by part. Only its size is kept: the number of its states and the bytes
that they take. A state takes 32 bytes, 8 more for each range of bytes that it tells apart, and 4 more for
each way out if it branches. A part that is repeated is built as often.

Within a set of characters states with the same ways out are shared, as far as a table of bounded size
remembers them; what the table remembers depends on the numbers of the states. A `Blueprint` says what a part
is made of, so that all that does not depend on these numbers is worked out once.
-/

namespace TreePath

/-- Sequences of byte ranges as a tree: the sequences that begin with one range, and the others. -/
inductive ByteTree where
  | none
  | branch (first last : Nat) (below others : ByteTree)

namespace ByteTree

def add : List (Nat × Nat) → ByteTree → ByteTree
  | [], tree => tree
  | (first, last) :: ranges, none => branch first last (add ranges none) none
  | (first, last) :: ranges, branch low high below others =>
    if first = low ∧ last = high then branch low high (add ranges below) others
    else branch first last (add ranges none) (branch low high below others)

def ofSequences (sequences : List (List (Nat × Nat))) : ByteTree :=
  sequences.foldr add none

end ByteTree

/-- What a part of an automaton is made of. -/
inductive Blueprint where
  /-- A number of states that take a number of bytes. -/
  | states (count bytes : Nat)
  /-- A set of characters, read forward. -/
  | forwardSet (tree : ByteTree)
  /-- A set of characters, read backward. -/
  | backwardSet (sequences : List (List (Nat × Nat)))
  /-- Two parts, of which the first leads to the second. -/
  | sequence (first second : Blueprint)
  /-- An alternative of a choice and those after it. -/
  | choice (left right : Blueprint)
  /-- The alternative of a choice at an index. -/
  | alternative (index : Nat) (body : Blueprint)
  /-- A repetition of a part, which may take up bytes whenever it matches. -/
  | repetition (body : Blueprint) (consumes : Bool) (least : Nat) (most : Option Nat)

/-- The part of an automaton that is built so far. -/
structure Automaton where
  states : Nat
  bytes : Nat
  /-- Whether the part that was built last ends in a state that branches. -/
  branching : Bool

namespace Automaton

def limit : Nat :=
  10 * 1024 * 1024

def start : Automaton :=
  ⟨0, 0, false⟩

def isOver (automaton : Automaton) : Bool :=
  decide (limit < automaton.bytes)

/-- More states, with room for a number of byte ranges. -/
def add (states ranges : Nat) (automaton : Automaton) : Automaton :=
  { automaton with
    states := automaton.states + states
    bytes := automaton.bytes + 32 * states + 8 * ranges }

def ways (count : Nat) (automaton : Automaton) : Automaton :=
  { automaton with bytes := automaton.bytes + 4 * count }

/-- The way on from the last part, which takes room if the part ends in a state that branches. -/
def onward (automaton : Automaton) : Automaton :=
  if automaton.branching then automaton.ways 1 else automaton

def ending (branching : Bool) (automaton : Automaton) : Automaton :=
  { automaton with branching := branching }

/-! ## Repetitions -/

/-- A number of further copies of a part, each after the one before. -/
def furtherCopies (build : Automaton → Automaton) : Nat → Automaton → Automaton
  | 0, automaton => automaton
  | count + 1, automaton =>
    if automaton.isOver then automaton else furtherCopies build count (build automaton.onward)

def copies (build : Automaton → Automaton) : Nat → Automaton → Automaton
  | 0, automaton => (automaton.add 1 0).ending false
  | count + 1, automaton => furtherCopies build count (build automaton)

/-- A number of copies of a part, each of which may be left out together with those that follow. -/
def optionalCopies (build : Automaton → Automaton) : Nat → Automaton → Automaton
  | 0, automaton => automaton
  | count + 1, automaton =>
    if automaton.isOver then automaton
    else optionalCopies build count (build (automaton.onward.add 1 0) |>.ways 2)

/-- A repetition of a part. An unbounded one without a least number of copies is simpler if the part takes up
bytes. -/
def repetition (build : Automaton → Automaton) (consumes : Bool) (least : Nat) (most : Option Nat)
    (automaton : Automaton) : Automaton :=
  match least, most with
  | 0, some 1 => (build (automaton.add 1 0)).onward.add 1 0 |>.ways 2 |>.ending false
  | 0, none =>
    if consumes then (build (automaton.add 1 0)).onward.ways 1 |>.ending true
    else (build automaton).onward.add 3 0 |>.ways 4 |>.ending false
  | least, none => (copies build least automaton).onward.add 1 0 |>.ways 1 |>.ending true
  | least, some most =>
    let copied := copies build least automaton
    if least = most then copied
    else (optionalCopies build (most - least) (copied.add 1 0)).onward.ending false

/-! ## Choices -/

/-- The end of an alternative. The state in which the alternatives part and the one in which they meet are
built after the second of them. -/
def alternative (index : Nat) (automaton : Automaton) : Automaton :=
  automaton.onward.ways 1 |>.add (if index = 1 then 2 else 0) 0 |>.ending false

/-! ## Sets of characters -/

/-- States that are kept for sharing: by slot, what a state was made of and its number. -/
abbrev Shared (Key : Type) : Type :=
  Std.HashMap Nat (Key × Nat)

/-- Takes one more number into the hash of what a state is made of. -/
def mix (hash : UInt64) (value : Nat) : UInt64 :=
  (hash ^^^ value.toUInt64) * 1099511628211

def seed : UInt64 :=
  14695981039346656037

/-- A state made of some byte ranges, shared if there is one already; and its number. -/
@[inline]
def sharedState {Key : Type} [DecidableEq Key] (slots : Nat) (key : Key) (hash : UInt64) (ranges : Nat)
    (shared : Shared Key) (automaton : Automaton) : Nat × Shared Key × Automaton :=
  let slot := hash.toNat % slots
  let isPresent (entry : Key × Nat) : Bool := decide (entry.1 = key)
  match shared[slot]?.filter isPresent with
  | some (_, number) => (number, shared, automaton)
  | none => (automaton.states, shared.insert slot (key, automaton.states), automaton.add 1 ranges)

/-- The states of a sequence of byte ranges that is read backward, and the number of the one that it begins
with. A state is made of a byte range and of the number of the state that follows. -/
def backwardStates : List (Nat × Nat) → Nat → Shared Nat → Automaton → Nat × Shared Nat × Automaton
  | [], next, shared, automaton => (next, shared, automaton)
  | (first, last) :: ranges, next, shared, automaton =>
    let hash := mix (mix (mix seed next) first) last
    let (number, shared, automaton) :=
      sharedState 1000 ((next * 256 + first) * 256 + last) hash 0 shared automaton
    backwardStates ranges number shared automaton

/-- A set as sequences of byte ranges that are read backward. They part at one state and meet at another. -/
def backwardSet (sequences : List (List (Nat × Nat))) (automaton : Automaton) : Automaton :=
  let finish := automaton.states + 1
  let (_, automaton) := sequences.foldl (fun (shared, automaton) sequence =>
    let (_, shared, automaton) := backwardStates sequence finish shared automaton
    (shared, automaton.ways 1)) ((∅ : Shared Nat), automaton.add 2 0)
  automaton.ending false

/-- The states of a tree of byte ranges, and the number of its root. A state is made of its byte ranges, each
with the number of the state that follows; those before the given branches come first. -/
def treeStates (finish : Nat) :
    ByteTree → Nat → List Nat → UInt64 → Shared (List Nat) → Automaton →
    Nat × Shared (List Nat) × Automaton
  | .none, count, key, hash, shared, automaton =>
    if count = 0 then (finish, shared, automaton) else sharedState 10000 key hash count shared automaton
  | .branch first last below others, count, key, hash, shared, automaton =>
    let (next, shared, automaton) := treeStates finish below 0 [] seed shared automaton
    treeStates finish others (count + 1) (next :: last :: first :: key)
      (mix (mix (mix hash first) last) next) shared automaton

/-- A set as a tree of byte ranges that is read forward. -/
def forwardSet (tree : ByteTree) (automaton : Automaton) : Automaton :=
  let (_, _, automaton) :=
    treeStates automaton.states tree 0 [] seed ∅ (automaton.add 1 0)
  automaton.ending false

end Automaton

def Blueprint.build : Blueprint → Automaton → Automaton
  | states count bytes, automaton => ⟨automaton.states + count, automaton.bytes + bytes, false⟩
  | forwardSet tree, automaton => automaton.forwardSet tree
  | backwardSet sequences, automaton => automaton.backwardSet sequences
  | sequence first second, automaton => second.build (first.build automaton).onward
  | choice left right, automaton => right.build (left.build automaton)
  | alternative index body, automaton => (body.build automaton).alternative index
  | repetition body consumes least most, automaton =>
    automaton.repetition body.build consumes least most

end TreePath

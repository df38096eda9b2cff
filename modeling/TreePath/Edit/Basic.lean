import TreePath.Query.Walk
import TreePath.Value.Lemmas

/-!
# Edits

An edit sets, deletes or modifies the values that a path finds. It works off a list of tasks, the next one first:
a task is a location and the number of the step that is to be followed from there. Locations are looked
up again when their turn comes, since the document changes meanwhile.

Steps before the first descent are *strict*: what stands in their way is an obstacle that ends the edit, and setting a
value may create one missing container right before the last step. Steps after it skip quietly what they
cannot follow. If there is a descent, the locations that have been written are remembered and not
entered again.
-/

namespace TreePath

/-- What an edit does to the values that are found. -/
inductive Action (Memory : Type) where
  | set (value : Value)
  | delete
  /-- Replaces a value by the answer to it, if there is one. The answer may depend on all values before. -/
  | modify (answer : Memory → Value → Memory × Option Value)

/-- The kinds of edits. -/
inductive Operation where
  | set
  | delete
  | modify
deriving DecidableEq

def Operation.name : Operation → String
  | set => "set"
  | delete => "delete"
  | modify => "modify"

namespace Action

variable {Memory : Type}

def operation : Action Memory → Operation
  | set _ => .set
  | delete => .delete
  | modify _ => .modify

def isSet (action : Action Memory) : Bool :=
  action.operation == .set

def isModify (action : Action Memory) : Bool :=
  action.operation == .modify

end Action

/-- What can stand in the way of an edit, with the number of steps up to the place where it does. -/
inductive Obstacle where
  /-- A value that holds no others. -/
  | scalar (kind : Kind) (extent : Nat)
  | outOfBounds (extent : Nat)
  /-- A missing container of which nothing says what it should be. -/
  | undeducible (extent : Nat)
  /-- More than one missing container. -/
  | tooDeep (extent : Nat)
deriving DecidableEq

/-- What an edit is to do. -/
structure Plan (Memory : Type) where
  steps : List Step
  action : Action Memory
  /-- The most changes to be made. -/
  limit : Option Nat

/-- What an edit has done so far. -/
structure Progress (Memory : Type) where
  document : Value
  /-- The locations that were written, if the plan has a descent. -/
  written : List Location
  /-- The number of changes. -/
  count : Nat
  memory : Memory

/-- A location and the number of the step to be followed from there. -/
structure Task where
  location : Location
  index : Nat
deriving DecidableEq

namespace Progress

variable {Memory : Type}

/-- An edit of a document that has not begun. -/
def start (document : Value) (memory : Memory) : Progress Memory :=
  ⟨document, [], 0, memory⟩

/-- Whether a location is, or lies within, one that was written. -/
def wrote (progress : Progress Memory) (location : Location) : Bool :=
  progress.written.any (·.isPrefixOf location)

end Progress

namespace Plan

variable {Memory : Type}

def descends (plan : Plan Memory) : Bool :=
  plan.steps.any Fragment.isDescent

/-- Whether a step comes before the first descent. -/
def isStrict (plan : Plan Memory) (index : Nat) : Bool :=
  decide (index < plan.steps.findIdx Fragment.isDescent)

/-- Whether as many changes as allowed have been made. -/
def isDone (plan : Plan Memory) (count : Nat) : Bool :=
  match plan.limit with
  | some limit => decide (limit ≤ count)
  | none => false

/-! ## Choosing children -/

/-- The segment of an index. One that is out of bounds is an obstacle to a strict step, unless values are modified. -/
def pickIndex (plan : Plan Memory) (index : Nat) (i : Int64) (length : Nat) : Except Obstacle (List Segment) :=
  match resolveIndex i length with
  | some i => .ok [.index i]
  | none =>
    if plan.isStrict index && !plan.action.isModify then .error (.outOfBounds (index + 1)) else .ok []

/-- The segments of a selector. A key is one whether or not the member exists. -/
def pickSelector (plan : Plan Memory) (index : Nat) (node : Value) :
    Selector → Except Obstacle (List Segment)
  | .key name => match node with
    | .object _ => .ok [.field name]
    | _ => .ok []
  | .index i => match node with
    | .array items => plan.pickIndex index i items.length
    | _ => .ok []

/-- The segments of several selectors, in order. -/
def pickSelectors (plan : Plan Memory) (index : Nat) (node : Value) :
    List Selector → Except Obstacle (List Segment)
  | [] => .ok []
  | selector :: selectors => do
    let first ← plan.pickSelector index node selector
    let others ← plan.pickSelectors index node selectors
    .ok (first ++ others)

/-- The segments of the children of a node that a step picks. -/
def pick (plan : Plan Memory) (index : Nat) (root node : Value) : Step → Except Obstacle (List Segment)
  | .child name => plan.pickSelector index node (.key name)
  | .nth i => plan.pickSelector index node (.index i)
  | .wildcard => .ok node.segments
  | .slice start stop step => match node with
    | .array items => .ok ((Slice.indices start stop step items.length).map .index)
    | _ => .ok []
  | .union selectors => plan.pickSelectors index node selectors
  | .filter test => .ok ((node.segments.zip node.children).filterMap fun (segment, child) =>
      if test child root then some segment else none)
  | .root | .current | .descent => .ok []

/-! ## Going on to children -/

/--
The container to be created in front of a step, judged by that step, which has to be the last. An array is as long as its
last index requires. The limit that memory sets to its length, beyond which the program stops without an answer, is not
modelled.
-/
def deduce (plan : Plan Memory) (index : Nat) : Except Obstacle Value :=
  if index + 2 < plan.steps.length then .error (.tooDeep (index + 2))
  else match plan.steps[index + 1]? with
    | some (.child _) => .ok (.object [])
    | some (.nth i) =>
      if i.toInt < 0 then .error (.undeducible (index + 1))
      else .ok (.array (List.replicate (i.toInt.toNat + 1) .null))
    | _ => .error (.undeducible (index + 1))

/--
How to go on to a child: not at all, or to the segment, with a container to be created there if there is none.
-/
def approach (plan : Plan Memory) (index : Nat) (step : Step) (node : Value) (segment : Segment) :
    Except Obstacle (List (Segment × Option Value)) :=
  let isNamed := step.isNaming && plan.isStrict index
  match node.child? segment with
  | some child =>
    if child.isContainer then .ok [(segment, none)]
    else if child.isNull then
      if isNamed && plan.action.isSet then (plan.deduce index).map fun created => [(segment, some created)]
      else .ok []
    else if isNamed then .error (.scalar child.kind (index + 1))
    else .ok []
  | none =>
    if isNamed && plan.action.isSet then (plan.deduce index).map fun created => [(segment, some created)]
    else .ok []

/-- How to go on to several children, in order. -/
def approachAll (plan : Plan Memory) (index : Nat) (step : Step) (node : Value) :
    List Segment → Except Obstacle (List (Segment × Option Value))
  | [] => .ok []
  | segment :: segments => do
    let first ← plan.approach index step node segment
    let others ← plan.approachAll index step node segments
    .ok (first ++ others)

/-- Creates the containers that are missing at a location. -/
def create (document : Value) (location : Location) : List (Segment × Option Value) → Value
  | [] => document
  | (_, none) :: ways => create document location ways
  | (segment, some created) :: ways =>
    create (document.updateAt (Value.place created · segment) location) location ways

/-- Goes on from a location to the children that a step picks. -/
def follow (plan : Plan Memory) (progress : Progress Memory) (task : Task) (step : Step) :
    Except Obstacle (Progress Memory × List Task) :=
  match progress.document.at? task.location with
  | none => .ok (progress, [])
  | some node => do
    let segments ← plan.pick task.index progress.document node step
    let ways ← plan.approachAll task.index step node segments
    .ok ({ progress with document := create progress.document task.location ways },
      ways.map fun (segment, _) => ⟨task.location ++ [segment], task.index + 1⟩)

/-! ## Changing children -/

def record (plan : Plan Memory) (progress : Progress Memory) (location : Location) : Progress Memory :=
  { progress with
    count := progress.count + 1
    written := if plan.descends then location :: progress.written else progress.written }

/-- Stores a value at a child of a location and notes it. -/
def store (plan : Plan Memory) (progress : Progress Memory) (location : Location) (segment : Segment)
    (value : Value) : Progress Memory :=
  plan.record { progress with
    document := progress.document.updateAt (Value.place value · segment) location } (location ++ [segment])

/-- Does what is to be done to one child of a location. -/
def change (plan : Plan Memory) (progress : Progress Memory) (location : Location) (segment : Segment) :
    Progress Memory :=
  match plan.action with
  | .set value => plan.store progress location segment value
  | .delete =>
    match progress.document.at? (location ++ [segment]) with
    | some _ => { progress with
        document := progress.document.updateAt (Value.remove · segment) location
        count := progress.count + 1 }
    | none => progress
  | .modify answer =>
    match progress.document.at? (location ++ [segment]) with
    | some old =>
      match answer progress.memory old with
      | (memory, some new) => plan.store { progress with memory := memory } location segment new
      | (memory, none) => { progress with memory := memory }
    | none => progress

/-- Does what is to be done to some children of a location, until as many changes as allowed have been made. -/
def changeAll (plan : Plan Memory) (progress : Progress Memory) (location : Location) :
    List Segment → Progress Memory
  | [] => progress
  | segment :: segments =>
    if plan.isDone progress.count then progress
    else plan.changeAll (plan.change progress location segment) location segments

/-- Does what is to be done to the children that the last step picks. -/
def finish (plan : Plan Memory) (progress : Progress Memory) (task : Task) (step : Step) :
    Except Obstacle (Progress Memory × List Task) :=
  match progress.document.at? task.location with
  | none => .ok (progress, [])
  | some node => do
    let segments ← plan.pick task.index progress.document node step
    .ok (plan.changeAll progress task.location segments, [])

/-! ## One task -/

/-- The tasks of a descent: the value itself for the next step, and then its containers for the same. -/
def descendTasks (document : Value) (task : Task) : List Task :=
  let below : List Task := match document.at? task.location with
    | none => []
    | some node => (node.segments.zip node.children).filterMap fun (segment, child) =>
        if child.isContainer then some ⟨task.location ++ [segment], task.index⟩ else none
  ⟨task.location, task.index + 1⟩ :: below

/-- Works off one task. The result is what has been done then, and the tasks that come of it. -/
def perform (plan : Plan Memory) (progress : Progress Memory) (task : Task) :
    Except Obstacle (Progress Memory × List Task) :=
  match plan.steps[task.index]? with
  | none => .ok (progress, [])
  | some .root => .ok (progress, [⟨[], task.index + 1⟩])
  | some .current => .ok (progress, [⟨task.location, task.index + 1⟩])
  | some .descent => .ok (progress, descendTasks progress.document task)
  | some step =>
    if task.index + 1 = plan.steps.length then plan.finish progress task step
    else plan.follow progress task step

end Plan

end TreePath

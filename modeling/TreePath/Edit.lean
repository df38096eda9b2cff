import TreePath.Edit.Error
import TreePath.Script.Evaluation

/-!
# Setting, deleting and modifying values

The edits of a document by a path. An edit is not all or nothing: when it fails, the document is left with what
has been changed before.
-/

namespace TreePath

/-- What an edit leaves behind: the document, the memory of the modification, and the number of changes or an error. -/
structure Edited (Memory : Type) where
  document : Value
  memory : Memory
  outcome : Except EditError Nat

namespace Path

variable [RegexSyntax] {Memory : Type}

/-- What an action with a limit on its changes is to do along a path. -/
def plan (path : Path) (action : Action Memory) (limit : Option Nat) : Plan Memory :=
  ⟨path.steps, action, limit⟩

def modifyWhole (answer : Memory → Value → Memory × Option Value) (memory : Memory) (document : Value) :
    Edited Memory :=
  match answer memory document with
  | (memory, some new) => ⟨new, memory, .ok 1⟩
  | (memory, none) => ⟨document, memory, .ok 0⟩

/-- Runs an edit along a path whose last fragment can be written to. -/
def runEdit (path : Path) (action : Action Memory) (limit : Option Nat) (memory : Memory) (document : Value) :
    Edited Memory :=
  let (progress, obstacle) := (path.plan action limit).run (.start document memory) [⟨[], 0⟩]
  { document := progress.document
    memory := progress.memory
    outcome := match obstacle with
      | some obstacle => .error (.ofObstacle path obstacle)
      | none => .ok progress.count }

/--
Edits a document. The last fragment of the path has to be one that can be written to, except that a path of `$` and
`@` alone gives the whole document to a modification.
-/
def edit (path : Path) (action : Action Memory) (limit : Option Nat) (memory : Memory) (document : Value) :
    Edited Memory :=
  match path.fragments.getLast? with
  | none => ⟨document, memory, .error (.emptyExpression action.operation)⟩
  | some target =>
    let refusedOrRun :=
      if target.isAssignable then path.runEdit action limit memory document
      else ⟨document, memory, .error (.invalidTarget action.operation target.kindName)⟩
    match action with
    | .modify answer =>
      if path.fragments.all Fragment.isAnchor then modifyWhole answer memory document else refusedOrRun
    | _ => refusedOrRun

/-- Assigns a value to all locations that a path selects. One missing container on the way is created. -/
def set (path : Path) (value : Value) (document : Value) : Edited Unit :=
  path.edit (.set value) none () document

/-- Assigns a value to the first location that a path selects. -/
def setOne (path : Path) (value : Value) (document : Value) : Edited Unit :=
  path.edit (.set value) (some 1) () document

/-- Removes every member and nulls every item that a path selects. -/
def delete (path : Path) (document : Value) : Edited Unit :=
  path.edit .delete none () document

/-- Removes the first member or nulls the first item that a path selects. -/
def deleteOne (path : Path) (document : Value) : Edited Unit :=
  path.edit .delete (some 1) () document

/-- Replaces every value that a path selects by the answer to it, if there is one. -/
def modify (path : Path) (answer : Memory → Value → Memory × Option Value) (memory : Memory)
    (document : Value) : Edited Memory :=
  path.edit (.modify answer) none memory document

/-- Replaces the first value that a path selects and to which there is an answer. -/
def modifyOne (path : Path) (answer : Memory → Value → Memory × Option Value) (memory : Memory)
    (document : Value) : Edited Memory :=
  path.edit (.modify answer) (some 1) memory document

end Path

end TreePath

import TreePath.Edit
import TreePath.Json.Basic

/-!
# Typed data

A schema says how data of a type is kept as JSON. With a schema a path can look up, set and delete parts of typed
data: the data is taken apart into a tree of values, and put together again from the changed tree.
-/

namespace TreePath

/-- How data of a type is kept as JSON. Not every JSON value is data of the type. -/
structure Schema (α : Type) where
  decode : Json → Option α
  encode : α → Json

/-- Why an operation on typed data failed. -/
inductive ConversionError where
  /-- A tree is not of the type. -/
  | mismatch
  | edit (error : EditError)
deriving DecidableEq

namespace Schema

variable {α : Type}

def text : Schema String where
  decode
    | .string text => some text
    | _ => none
  encode := .string

/-- A floating-point number; an integer is taken as one. -/
def float : Schema Binary64 where
  decode
    | .integer n _ => some (.ofInt n)
    | .real x _ => some x
    | _ => none
  encode x := (Json.ofFloat? x).getD .null

/-- A 64-bit integer. -/
def integer : Schema Int64 where
  decode
    | .integer n _ => int64? n
    | _ => none
  encode := .ofInt64

/-- Data that may be missing, which null stands for. -/
def optional (schema : Schema α) : Schema (Option α) where
  decode
    | .null => some none
    | json => (schema.decode json).map some
  encode
    | none => .null
    | some data => schema.encode data

def list (schema : Schema α) : Schema (List α) where
  decode
    | .array items => items.mapM schema.decode
    | _ => none
  encode items := .array (items.map schema.encode)

def dictionary (schema : Schema α) : Schema (List (String × α)) where
  decode
    | .object members => members.mapM fun member => (schema.decode member.2).map (member.1, ·)
    | _ => none
  encode members := Json.ofMembers (members.map fun member => (member.1, schema.encode member.2))

/--
The fields of a record, in the order of their names: those of an object, or the items of an array that is not too
long. A field of an object without a value, or past the end of an array, is missing.
-/
def fields? (names : List String) : Json → Option (List (Option Json))
  | .object members => some (names.map (Members.get? members))
  | .array items =>
    if items.length ≤ names.length then
      some (items.map some ++ List.replicate (names.length - items.length) none)
    else none
  | _ => none

def required (schema : Schema α) (field : Option Json) : Option α :=
  field.bind schema.decode

def missable (schema : Schema α) : Option Json → Option (Option α)
  | none => some none
  | some json => schema.optional.decode json

/-- The tree of values that data is taken apart into. -/
def toValue (schema : Schema α) (data : α) : Value :=
  .ofJson (schema.encode data)

/-- The data that a tree of values is put together to. -/
def ofValue? (schema : Schema α) (value : Value) : Option α :=
  schema.decode value.toJson

/-- The data of an edited tree, if the edit succeeded and the tree is of the type. -/
def ofEdited (schema : Schema α) (edited : Edited Unit) : Except ConversionError α :=
  match edited.outcome with
  | .error error => .error (.edit error)
  | .ok _ => match schema.ofValue? edited.document with
    | some data => .ok data
    | none => .error .mismatch

end Schema

namespace Path

variable [RegexSyntax] {α : Type}

def getFrom (path : Path) (schema : Schema α) (data : α) : List Value :=
  path.get (schema.toValue data)

/-- Typed data with a value assigned to all locations that a path selects. -/
def setOn (path : Path) (schema : Schema α) (value : Value) (data : α) : Except ConversionError α :=
  schema.ofEdited (path.set value (schema.toValue data))

/-- Typed data without the values that a path selects. -/
def deleteOn (path : Path) (schema : Schema α) (data : α) : Except ConversionError α :=
  schema.ofEdited (path.delete (schema.toValue data))

end Path

end TreePath

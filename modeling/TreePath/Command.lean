import TreePath.Edit
import TreePath.Json.Reader
import TreePath.Path.Reader
import TreePath.Regex.Standard

/-!
# Commands

What the command line tool does with a path and a JSON document: look values up, change them, or only check the
path.
-/

namespace TreePath

/-- What is to be done with the locations that a path selects. -/
inductive Command where
  /-- All values, as an array. -/
  | get
  /-- The first value, or null. -/
  | first
  /-- Whether there is a value. -/
  | has
  /-- Assigns a value, given as JSON text. -/
  | set (value : String)
  | delete
  /-- Only checks the path. -/
  | check
deriving DecidableEq

/-- A command with what it works on. -/
structure Request where
  path : String
  command : Command
  /-- The document, as JSON text. -/
  input : Option String
  /-- Whether to stop after the first change. -/
  one : Bool

/-- What a command puts out. -/
inductive Response where
  /-- The path can be read; this is its normal form. -/
  | valid (path : String)
  | output (json : Json)

/-- Why a command failed. -/
inductive CommandError where
  | path (error : SyntaxError)
  | noInput
  /-- The document or the value is not JSON. -/
  | json
  | edit (error : EditError)
deriving DecidableEq

def CommandError.message : CommandError → String
  | path error => "Parse error: " ++ error.message
  | noInput => "No input provided. Use --input or pipe JSON to stdin."
  | json => "Invalid JSON"
  | edit error => "Evaluation error: " ++ error.message

def Edited.response (edited : Edited Unit) : Except CommandError Response :=
  match edited.outcome with
  | .ok _ => .ok (.output edited.document.toJson)
  | .error error => .error (.edit error)

def readValue (text : String) : Except CommandError Value :=
  match Value.ofJsonText? text with
  | some value => .ok value
  | none => .error .json

/-- Carries out a command. The path is read first, then the document, then the value to be assigned. -/
def Request.execute (request : Request) : Except CommandError Response := do
  let path ← (Path.parse request.path).mapError CommandError.path
  if request.command = .check then return .valid path.text
  let input ← match request.input with
    | some input => .ok input
    | none => .error CommandError.noInput
  let document ← readValue input
  match request.command with
  | .get => return .output (.array ((path.get document).map Value.toJson))
  | .first => return .output (((path.first? document).map Value.toJson).getD .null)
  | .has => return .output (.boolean (path.has document))
  | .set text =>
    let value ← readValue text
    (if request.one then path.setOne value document else path.set value document).response
  | .delete => (if request.one then path.deleteOne document else path.delete document).response
  | .check => return .valid path.text

end TreePath

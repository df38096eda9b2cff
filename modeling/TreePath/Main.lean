import TreePath.Command
import TreePath.Json.Printer

/-!
# The command line

`treepath get|first|has|set|del|check PATH [VALUE] [--input JSON] [--pretty] [--one]`. Without `--input` the
document is read from standard input.
-/

namespace TreePath

/-- The options and the plain arguments of a command line. -/
structure Arguments where
  plain : List String
  input : Option String
  pretty : Bool
  one : Bool

/-- Sorts the words of a command line into options and plain arguments. -/
def Arguments.ofWords : List String → Arguments
  | [] => ⟨[], none, false, false⟩
  | "--input" :: input :: words => { ofWords words with input := some input }
  | "-i" :: input :: words => { ofWords words with input := some input }
  | "--pretty" :: words => { ofWords words with pretty := true }
  | "-p" :: words => { ofWords words with pretty := true }
  | "--one" :: words => { ofWords words with one := true }
  | word :: words =>
    let others := ofWords words
    { others with plain := word :: others.plain }

/-- The command and the path that plain arguments name. -/
def Command.ofWords? : List String → Option (Command × String)
  | ["get", path] => some (.get, path)
  | ["first", path] => some (.first, path)
  | ["has", path] => some (.has, path)
  | ["set", path, value] => some (.set value, path)
  | ["del", path] => some (.delete, path)
  | ["check", path] => some (.check, path)
  | _ => none

def Response.text (pretty : Bool) : Response → String
  | valid path => "Syntax is valid: " ++ path
  | output json => json.render (if pretty then .pretty else .compact)

end TreePath

open TreePath in
def main (words : List String) : IO UInt32 := do
  let arguments := Arguments.ofWords words
  match Command.ofWords? arguments.plain with
  | none =>
    IO.eprintln "usage: treepath get|first|has|set|del|check PATH [VALUE] [--input JSON] [--pretty] [--one]"
    return 2
  | some (command, path) =>
    let input ← match arguments.input, command with
      | some input, _ => pure (some input)
      | none, .check => pure none
      | none, _ => some <$> (← IO.getStdin).readToEnd
    match (Request.mk path command input arguments.one).execute with
    | .ok response =>
      IO.println (response.text arguments.pretty)
      return 0
    | .error error =>
      IO.eprintln error.message
      return 1

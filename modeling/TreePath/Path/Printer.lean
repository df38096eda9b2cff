import TreePath.Path.Basic
import TreePath.Reading.Quoted
import TreePath.Reading.Slashed
import TreePath.Script.Token

/-!
# Writing paths and scripts

A point stands in front of a name or wildcard unless it comes first or right after a descent. Names that hold
other characters than those of bare names are quoted in brackets. An infix expression stands in parentheses
exactly when it is an operand of another operator that is no function.
-/

namespace TreePath

variable [RegexSyntax]

def isBareName (name : String) : Bool :=
  !name.toList.isEmpty && name.toList.all isNameCharacter

/-- A text for each item, with a separator between two items. -/
def separated {α : Type} (separator : List Char) (render : α → List Char) : List α → List Char
  | [] => []
  | [item] => render item
  | item :: items => render item ++ separator ++ separated separator render items

def Selector.render : Selector → List Char
  | key name => writeQuoted name.toList
  | index i => intDigits i.toInt

def renderBound : Option Int64 → List Char
  | some bound => intDigits bound.toInt
  | none => []

/-- The text of a literal. Arrays and objects are no literals and read as nothing. -/
def Value.renderLiteral : Value → List Char
  | null => "null".toList
  | boolean truth => (if truth then "true" else "false").toList
  | integer n => intDigits n.toInt
  | float x => x.digits
  | string text => writeQuoted text.toList
  | time instant => writeQuoted instant.toText
  | array _ | object _ => "Nothing".toList

/-- The text of a pattern, written as it was read. -/
def Pattern.render (pattern : Pattern) : List Char :=
  if pattern.slashed then writeSlashed pattern.source.toList else writeQuoted pattern.source.toList

/-- The two texts of a part of a script: on its own and as an operand of an operator. -/
structure Rendering where
  alone : List Char
  nested : List Char

namespace Rendering

def same (text : List Char) : Rendering :=
  ⟨text, text⟩

def missing : Rendering :=
  same []

end Rendering

/-- An operator takes the texts of its operands, the first one in front, and puts its own in their place. -/
def Operator.render (operator : Operator) (operands : List Rendering) : List Rendering :=
  let first := operands.headD .missing
  let name := operator.name.toList
  if operator.arity = 1 then
    let text := if operator.isFunction then name ++ '(' :: first.alone ++ [')'] else name ++ first.nested
    .same text :: operands.drop 1
  else
    let second := (operands.drop 1).headD .missing
    let rendering : Rendering :=
      if operator.isFunction then
        .same (name ++ '(' :: first.alone ++ ',' :: ' ' :: second.alone ++ [')'])
      else
        let text := first.nested ++ ' ' :: name ++ ' ' :: second.nested
        ⟨text, '(' :: text ++ [')']⟩
    rendering :: operands.drop 2

mutual

def Path.render : Path → List Char
  | ⟨fragments⟩ => renderFragments true fragments

def Script.render : Script → List Char
  | ⟨template⟩ => ((renderEntries template).headD .missing).alone

/-- The text of fragments. A leading name or wildcard has no point in front. -/
def renderFragments : Bool → List (Fragment Script) → List Char
  | _, [] => []
  | leading, fragment :: fragments =>
    renderFragment leading fragment ++ renderFragments fragment.isDescent fragments

def renderFragment : Bool → Fragment Script → List Char
  | _, .root => ['$']
  | _, .current => ['@']
  | leading, .child name =>
    if isBareName name then (if leading then name.toList else '.' :: name.toList)
    else '[' :: writeQuoted name.toList ++ [']']
  | _, .nth i => '[' :: intDigits i.toInt ++ [']']
  | leading, .wildcard => if leading then ['*'] else ['.', '*']
  | _, .descent => ['.', '.']
  | _, .slice start stop step =>
    '[' :: renderBound start ++ ':' :: renderBound stop ++
      (match step with
        | some step => ':' :: intDigits step.toInt
        | none => []) ++ [']']
  | _, .union selectors => '[' :: separated [','] Selector.render selectors ++ [']']
  | _, .filter script => '[' :: '?' :: '(' :: script.render ++ [')', ']']

/-- The texts of the operands that a list of entries leaves, worked from the last entry to the first. -/
def renderEntries : List Entry → List Rendering
  | [] => []
  | entry :: entries => entry.render (renderEntries entries)

/-- What an entry makes of the texts of the operands after it. -/
def Entry.render : Entry → List Rendering → List Rendering
  | .operator operator, operands => operator.render operands
  | .literal value, operands => .same value.renderLiteral :: operands
  | .nothing, operands => .same "Nothing".toList :: operands
  | .path path, operands => .same path.render :: operands
  | .pattern pattern, operands => .same pattern.render :: operands

end

def Path.text (path : Path) : String :=
  String.ofList path.render

def Script.text (script : Script) : String :=
  String.ofList script.render

end TreePath

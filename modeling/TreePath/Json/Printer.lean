import TreePath.Json.Basic

/-!
# Writing JSON

A JSON value is written on one line without spaces, or over several lines with an indentation of two. Control
characters, quotes and backslashes are escaped.
-/

namespace TreePath

namespace Json

/-- The digits of a hexadecimal number below 256. -/
def hexByte (n : Nat) : List Char :=
  let digits := Nat.toDigits 16 n
  List.replicate (2 - digits.length) '0' ++ digits

def escapeChar (c : Char) : List Char :=
  if c = '"' then ['\\', '"']
  else if c = '\\' then ['\\', '\\']
  else if c = '\x08' then ['\\', 'b']
  else if c = '\x0c' then ['\\', 'f']
  else if c = '\n' then ['\\', 'n']
  else if c = '\r' then ['\\', 'r']
  else if c = '\t' then ['\\', 't']
  else if c.toNat < 0x20 then "\\u00".toList ++ hexByte c.toNat
  else [c]

def renderText (text : String) : List Char :=
  '"' :: text.toList.flatMap escapeChar ++ ['"']

/-- How the parts of arrays and objects are set apart. -/
structure Layout where
  /-- What stands in front of a part at a depth. -/
  lineBreak : Nat → List Char
  /-- What stands between a name and its value. -/
  colon : List Char

def Layout.compact : Layout :=
  ⟨fun _ => [], [':']⟩

def Layout.pretty : Layout :=
  ⟨fun depth => '\n' :: List.replicate (2 * depth) ' ', [':', ' ']⟩

def enclosed (layout : Layout) (depth : Nat) (opening closing : Char) (parts : List (List Char)) : List Char :=
  if parts.isEmpty then [opening, closing]
  else
    let spaced := parts.map (layout.lineBreak (depth + 1) ++ ·)
    opening :: List.intercalate [','] spaced ++ layout.lineBreak depth ++ [closing]

mutual

def renderAt (layout : Layout) : Nat → Json → List Char
  | _, .null => "null".toList
  | _, .boolean truth => (if truth then "true" else "false").toList
  | _, .integer n _ => intDigits n
  | _, .real x _ => x.digitsFrom (-5)
  | _, .string text => renderText text
  | depth, .array items => enclosed layout depth '[' ']' (renderItems layout (depth + 1) items)
  | depth, .object members =>
    enclosed layout depth '\x7b' '\x7d' (renderMembers layout (depth + 1) members)

def renderItems (layout : Layout) : Nat → List Json → List (List Char)
  | _, [] => []
  | depth, item :: items => renderAt layout depth item :: renderItems layout depth items

def renderMembers (layout : Layout) : Nat → List (String × Json) → List (List Char)
  | _, [] => []
  | depth, (name, value) :: members =>
    (renderText name ++ layout.colon ++ renderAt layout depth value) :: renderMembers layout depth members

end

def render (layout : Layout) (value : Json) : String :=
  String.ofList (renderAt layout 0 value)

end Json

end TreePath

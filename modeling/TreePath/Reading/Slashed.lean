import TreePath.Reading.Fault

/-!
# Text between slashes

The source of a regular expression stands between slashes. A backslash before a slash makes the slash part of
the source; every other backslash is kept together with the character after it.
-/

namespace TreePath

/-- Reads up to and including the closing slash. A source that is not closed is reported at `start`. -/
def readSlashedBody (start : List Char) : Reader (List Char)
  | [] => .error ⟨.unclosedPattern, start, []⟩
  | c :: rest =>
    if c = '/' then .ok ([], rest)
    else if c = '\\' then
      match rest with
      | [] => .error ⟨.unclosedPattern, start, []⟩
      | e :: rest =>
        (readSlashedBody start rest).map fun (source, rest) =>
          (if e = '/' then '/' :: source else '\\' :: e :: source, rest)
    else (readSlashedBody start rest).map fun (source, rest) => (c :: source, rest)

/-- Reads a source between slashes, of which the first is the first character of the text. -/
def readSlashed (text : List Char) : Except Fault (List Char × List Char) :=
  readSlashedBody text (text.drop 1)

/-- A source between slashes. -/
def writeSlashed (source : List Char) : List Char :=
  '/' :: source.flatMap (fun c => if c = '/' then ['\\', '/'] else [c]) ++ ['/']

end TreePath

import TreePath.Regex.CharSet
import TreePath.Text.Category
import TreePath.Text.Script

/-!
# Properties of characters

The sets of characters that properties name: general categories, scripts, the characters of upper and of lower case, the
alphabetic ones, the blanks and the joiners. A name stands alone, or as a value behind the property whose value it is. Left
out are extended scripts, ages, the classes that bound graphemes, words and sentences, and the other properties that a
character either has or has not: their names stand for nothing here.
-/

namespace TreePath

namespace Regex.Property

/-- A name without what does not matter in it: case, spaces and lines, `is` in front of it, and all that goes beyond ASCII. -/
def normalized (name : List Char) : String :=
  let lowered := name.map Char.toLower
  let isMarked := ['i', 's'].isPrefixOf lowered
  let kept := (if isMarked then lowered.drop 2 else lowered).filter fun c =>
    c.toNat < 128 && c != ' ' && c != '_' && c != '-'
  -- The short name `isc` is not that of the category `c`, but of comments on characters.
  if isMarked && kept = ['c'] then "isc" else String.ofList kept

/-- The characters of some categories, which may be groups of categories. -/
def ofCategories (names : List String) : CharSet :=
  let members := names.flatMap fun name =>
    ((Text.categoryGroups.find? fun group => group.1.contains name).map Prod.snd).getD [name]
  .ofRanges ((Text.categories.filter fun category => members.any category.1.contains).flatMap Prod.snd)

/-- The code points that are assigned to a character. -/
def assigned : CharSet :=
  .ofRanges (Text.categories.flatMap Prod.snd)

def category? (name : String) : Option CharSet :=
  match name with
  | "any" => some .all
  | "ascii" => some (.range '\x00' '\x7f')
  | "assigned" => some assigned
  | "cn" | "unassigned" => some assigned.complement
  | "c" | "other" => some ((ofCategories ["cc", "cf", "co"]).union assigned.complement)
  | _ =>
    let members := ofCategories [name]
    if members = .empty then none else some members

def script? (name : String) : Option CharSet :=
  let code := (Text.scriptNames.lookup name).getD name
  let runs := (Text.basicScriptRuns ++ Text.supplementaryScriptRuns).filter fun run => run.2.2 == code
  if runs.isEmpty then none else some (.ofRanges (runs.map fun run => (run.1, run.2.1)))

/-- The characters that have a property, of the properties that a character either has or has not. -/
def binary? (name : String) : Option CharSet :=
  match name with
  | "uppercase" | "upper" => some ((ofCategories ["lu"]).union ⟨Text.otherUpperRanges⟩)
  | "lowercase" | "lower" => some ((ofCategories ["ll"]).union ⟨Text.otherLowerRanges⟩)
  | "alphabetic" | "alpha" =>
    some ((ofCategories ["l", "nl"]).union
      (.ofRanges (Text.otherUpperRanges ++ Text.otherLowerRanges ++ Text.otherAlphabeticRanges)))
  | "whitespace" | "wspace" | "space" => some .space
  | "joincontrol" | "joinc" => some (.range '\u200c' '\u200d')
  | _ => none

/-- The text before and behind the first place where a mark stands. -/
def splitAt? (mark : List Char) : List Char → Option (List Char × List Char)
  | [] => none
  | c :: text =>
    if mark.isPrefixOf (c :: text) then some ([], (c :: text).drop mark.length)
    else (splitAt? mark text).map fun (before, behind) => (c :: before, behind)

/-- A property and a value of it. -/
def splitValue? (text : List Char) : Option (List Char × List Char) :=
  (splitAt? ['!', '='] text).or ((splitAt? [':'] text).or (splitAt? ['='] text))

/--
The characters with the property that a text names. The sign between a property and its value does not matter, not even
`!=`: only the letter in front of the braces turns a set around.
-/
def find? (text : List Char) : Option CharSet :=
  match splitValue? text with
  | some (property, value) =>
    match normalized property with
    | "gc" | "generalcategory" => category? (normalized value)
    | "sc" | "script" => script? (normalized value)
    | _ => none
  | none =>
    let name := normalized text
    (binary? name).or ((category? name).or (script? name))

end Regex.Property

end TreePath

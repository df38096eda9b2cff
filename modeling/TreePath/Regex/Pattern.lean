import TreePath.Regex.Search

/-!
# Patterns

A pattern is a regular expression in a script: its source, whether it has to match a whole text, and
whether it is written between slashes or as a quoted text. An anchored pattern is compiled from its
source between `^(?:` and `)$`. Which texts are regular expressions is left open by `RegexSyntax`: paths
and scripts are read, written and evaluated in the same way whatever the answer is.
-/

namespace TreePath

/-- Which texts are regular expressions, and what each of them stands for. -/
class RegexSyntax where
  ofText? : List Char → Option Regex

/-- The text that is compiled for a source. -/
def Pattern.textOf (source : String) (anchored : Bool) : String :=
  if anchored then "^(?:" ++ source ++ ")$" else source

variable [RegexSyntax]

/-- The regular expression of a source. -/
def Pattern.compile? (source : String) (anchored : Bool) : Option Regex :=
  RegexSyntax.ofText? (Pattern.textOf source anchored).toList

/-- A compiled pattern. -/
structure Pattern where
  source : String
  anchored : Bool
  slashed : Bool
  regex : Regex
  compiled : Pattern.compile? source anchored = some regex

namespace Pattern

/-- The pattern of a source, if the source is a regular expression. -/
def ofSource? (source : String) (anchored slashed : Bool) : Option Pattern :=
  match compiled : compile? source anchored with
  | some regex => some ⟨source, anchored, slashed, regex, compiled⟩
  | none => none

def text (pattern : Pattern) : String :=
  textOf pattern.source pattern.anchored

/-- The regular expression of a pattern follows from its other parts. -/
theorem ext {left right : Pattern} (source : left.source = right.source)
    (anchored : left.anchored = right.anchored) (slashed : left.slashed = right.slashed) :
    left = right := by
  rcases left with ⟨leftSource, leftAnchored, leftSlashed, leftRegex, leftCompiled⟩
  rcases right with ⟨rightSource, rightAnchored, rightSlashed, rightRegex, rightCompiled⟩
  simp only at source anchored slashed
  subst source anchored slashed
  rcases Option.some.inj (leftCompiled.symm.trans rightCompiled) with rfl
  rfl

instance : DecidableEq Pattern := fun left right =>
  if h : left.source = right.source ∧ left.anchored = right.anchored ∧ left.slashed = right.slashed then
    isTrue (ext h.1 h.2.1 h.2.2)
  else isFalse fun same => h (same ▸ ⟨rfl, rfl, rfl⟩)

end Pattern

end TreePath

import TreePath.Script.Term

/-!
# Evaluating scripts

A script is worked from its last entry to its first: an operand is put in front of the terms so far, and an
operator takes its operands from there. A path yields the first value that it finds, or, as the operand of a
function that gathers, the list of all. Since paths carry scripts in their filters, evaluation and the
passage from fragments to steps are defined together.
-/

namespace TreePath

variable [RegexSyntax]

/-- Whether the path after an entry yields all that it finds. -/
def Entry.gathers : Entry → Bool
  | .operator function => function.gathers
  | _ => false

/-- A member of the object at hand, which needs no walk to be found. -/
def directMember? (fragments : List (Fragment Script)) (candidate : Value) : Option Term :=
  match fragments, candidate with
  | [.current, .child name], .object members =>
    some (match Members.get? members name with
      | some value => .ofValue value
      | none => .nothing)
  | _, _ => none

def Term.ofFirst : List Value → Term
  | [] => nothing
  | value :: _ => ofValue value

mutual

/-- What a script yields for a candidate in a document. -/
def Script.evaluate : Script → Value → Value → Term
  | ⟨template⟩, candidate, root => (evaluateEntries false template candidate root).headD .nothing

/-- The terms that a list of entries leaves. The flag says whether the entry before the list gathers. -/
def evaluateEntries : Bool → List Entry → Value → Value → List Term
  | _, [], _, _ => []
  | gather, entry :: entries, candidate, root =>
    entry.evaluate gather candidate root (evaluateEntries entry.gathers entries candidate root)

def Entry.evaluate : Entry → Bool → Value → Value → List Term → List Term
  | .operator applied, _, _, _, terms => Term.apply applied terms
  | .literal value, _, _, _, terms => .ofValue value :: terms
  | .nothing, _, _, _, terms => .nothing :: terms
  | .pattern compiled, _, _, _, terms => .pattern compiled :: terms
  | .path operand, gather, candidate, root, terms => operand.evaluate gather candidate root :: terms

def Path.evaluate : Path → Bool → Value → Value → Term
  | ⟨fragments⟩, gather, candidate, root =>
    if gather then .list (collect root none (stepsOf fragments) candidate)
    else match directMember? fragments candidate with
      | some term => term
      | none => .ofFirst (collect root (some 1) (stepsOf fragments) candidate)

def stepsOf : List (Fragment Script) → List Step
  | [] => []
  | fragment :: fragments => stepOf fragment :: stepsOf fragments

/-- The step of a fragment: the script of a filter becomes a test. -/
def stepOf : Fragment Script → Step
  | .root => .root
  | .current => .current
  | .child name => .child name
  | .nth i => .nth i
  | .wildcard => .wildcard
  | .descent => .descent
  | .slice start stop step => .slice start stop step
  | .union selectors => .union selectors
  | .filter script => .filter fun candidate root => (script.evaluate candidate root).isTrue

end

namespace Script

/-- Whether a candidate passes a script, in a document. -/
def passes (script : Script) (candidate root : Value) : Bool :=
  (script.evaluate candidate root).isTrue

/-- Whether a value passes a script, with the value itself as the document. -/
def accepts (script : Script) (candidate : Value) : Bool :=
  script.passes candidate candidate

/-- The value that a script yields, if there is one. -/
def eval (script : Script) (candidate root : Value) : Option Value :=
  (script.evaluate candidate root).toValue?

/-- The items that pass a script, in order. -/
def select (script : Script) (items : List Value) (root : Value) : List Value :=
  items.filter (script.passes · root)

end Script

namespace Path

def steps (path : Path) : List Step :=
  stepsOf path.fragments

/-- All values that a path finds in a document, in order. -/
def get (path : Path) (document : Value) : List Value :=
  collect document none path.steps document

def first? (path : Path) (document : Value) : Option Value :=
  (collect document (some 1) path.steps document).head?

def has (path : Path) (document : Value) : Bool :=
  (path.first? document).isSome

end Path

end TreePath

import TreePath.Proofs.Query.Findings

/-!
# The meaning of scripts and paths

Evaluation looks a plain member up directly, stops at the first value that an operand finds, and leaves the rest to
the walk. The meaning of a script knows none of that: every path in it, at whatever depth of filters, means the
whole list of its findings. `evaluate_eq_meaning` says that the two agree. So the walk along a path finds the
beginning of that list.
-/

namespace TreePath

mutual

variable [RegexSyntax]

/-- What a script means for a candidate in a document. -/
def Script.meaning : Script → Value → Value → Term
  | ⟨template⟩, candidate, root => (meaningOfEntries false template candidate root).headD .nothing

/-- The terms that a list of entries means. The flag says whether the entry before the list gathers. -/
def meaningOfEntries : Bool → List Entry → Value → Value → List Term
  | _, [], _, _ => []
  | gather, entry :: entries, candidate, root =>
    entry.meaning gather candidate root (meaningOfEntries entry.gathers entries candidate root)

/-- What an entry makes of the meanings after it. -/
def Entry.meaning : Entry → Bool → Value → Value → List Term → List Term
  | .operator applied, _, _, _, terms => Term.apply applied terms
  | .literal value, _, _, _, terms => .ofValue value :: terms
  | .nothing, _, _, _, terms => .nothing :: terms
  | .pattern compiled, _, _, _, terms => .pattern compiled :: terms
  | .path operand, gather, candidate, root, terms => operand.meaning gather candidate root :: terms

/-- What a path means as an operand: all its findings, or the first of them. -/
def Path.meaning : Path → Bool → Value → Value → Term
  | ⟨fragments⟩, gather, candidate, root =>
    if gather then .list (findings root (meaningOfFragments fragments) candidate)
    else .ofFirst (findings root (meaningOfFragments fragments) candidate)

/-- The steps that fragments mean. -/
def meaningOfFragments : List (Fragment Script) → List Step
  | [] => []
  | fragment :: fragments => meaningOfFragment fragment :: meaningOfFragments fragments

/-- The step that a fragment means: a filter tests children by the meaning of its script. -/
def meaningOfFragment : Fragment Script → Step
  | .root => .root
  | .current => .current
  | .child name => .child name
  | .nth i => .nth i
  | .wildcard => .wildcard
  | .descent => .descent
  | .slice start stop step => .slice start stop step
  | .union selectors => .union selectors
  | .filter script => .filter fun candidate root => (script.meaning candidate root).isTrue

end

variable [RegexSyntax]

/-- What a path finds from a node of a document, in order. -/
def Path.findings (path : Path) (root node : Value) : List Value :=
  TreePath.findings root (meaningOfFragments path.fragments) node

/-- The first of a list with room for one is the first of the list. -/
theorem ofFirst_takeRoom_one (values : List Value) :
    Term.ofFirst (takeRoom (some 1) values) = Term.ofFirst values := by
  cases values <;> rfl

/-- Looking a member of the candidate up directly yields what the walk would find. -/
theorem ofFirst_findings_of_directMember? {fragments : List (Fragment Script)} {candidate : Value} {term : Term}
    (found : directMember? fragments candidate = some term) (root : Value) :
    Term.ofFirst (findings root (meaningOfFragments fragments) candidate) = term := by
  unfold directMember? at found
  split at found
  · rename_i name members
    rcases Option.some.inj found with rfl
    simp only [meaningOfFragments, meaningOfFragment, findings, Step.pick, List.flatMap_cons, List.flatMap_nil,
      List.append_nil, Selector.pick?]
    cases Members.get? members name <;> rfl
  · simp at found

mutual

theorem Script.evaluate_eq_meaning : ∀ script : Script, script.evaluate = script.meaning
  | ⟨template⟩ => by
      funext candidate root
      rw [Script.evaluate, Script.meaning, evaluateEntries_eq_meaning false template]

theorem evaluateEntries_eq_meaning : ∀ (gather : Bool) (entries : List Entry),
    evaluateEntries gather entries = meaningOfEntries gather entries
  | _, [] => by
      funext candidate root
      rw [evaluateEntries, meaningOfEntries]
  | gather, entry :: entries => by
      funext candidate root
      rw [evaluateEntries, meaningOfEntries, evaluateEntries_eq_meaning entry.gathers entries,
        Entry.evaluate_eq_meaning entry]

theorem Entry.evaluate_eq_meaning : ∀ entry : Entry, entry.evaluate = entry.meaning
  | .operator _ | .literal _ | .nothing | .pattern _ => by
      funext gather candidate root terms
      rw [Entry.evaluate, Entry.meaning]
  | .path operand => by
      funext gather candidate root terms
      rw [Entry.evaluate, Entry.meaning, Path.evaluate_eq_meaning operand]

theorem Path.evaluate_eq_meaning : ∀ path : Path, path.evaluate = path.meaning
  | ⟨fragments⟩ => by
      funext gather candidate root
      rw [Path.evaluate, Path.meaning, stepsOf_eq_meaning fragments, collect_eq, collect_eq,
        ofFirst_takeRoom_one]
      cases direct : directMember? fragments candidate with
      | none => rfl
      | some term => rw [ofFirst_findings_of_directMember? direct root]; rfl

theorem stepsOf_eq_meaning : ∀ fragments : List (Fragment Script),
    stepsOf fragments = meaningOfFragments fragments
  | [] => rfl
  | fragment :: fragments => by
      rw [stepsOf, meaningOfFragments, stepOf_eq_meaning fragment, stepsOf_eq_meaning fragments]

theorem stepOf_eq_meaning : ∀ fragment : Fragment Script, stepOf fragment = meaningOfFragment fragment
  | .root | .current | .child _ | .nth _ | .wildcard | .descent | .slice _ _ _ | .union _ => rfl
  | .filter script => by
      rw [stepOf, meaningOfFragment, Script.evaluate_eq_meaning script]

end

theorem Path.get_eq (path : Path) (document : Value) : path.get document = path.findings document document := by
  rw [Path.get, collect_eq, Path.steps, stepsOf_eq_meaning]
  rfl

/--
The walk along a path finds the beginning of what the path finds by recursion, of the length that there is room
for. So the first value is the first of all, and there is a value if there are any.
-/
theorem Path.collect_steps (path : Path) :
    (∀ (root node : Value) (room : Option Nat),
      collect root room path.steps node = takeRoom room (path.findings root node)) ∧
    ∀ document : Value,
      path.first? document = (path.get document).head? ∧
        (path.has document = true ↔ path.get document ≠ []) := by
  have collects : ∀ (root node : Value) (room : Option Nat),
      collect root room path.steps node = takeRoom room (path.findings root node) := by
    intro root node room
    rw [collect_eq, Path.steps, stepsOf_eq_meaning]
    rfl
  refine ⟨collects, fun document => ?_⟩
  have first : path.first? document = (path.get document).head? := by
    rw [Path.first?, Path.get_eq, collects, takeRoom]
    cases path.findings document document <;> rfl
  refine ⟨first, ?_⟩
  rw [Path.has, first]
  cases path.get document <;> simp

end TreePath

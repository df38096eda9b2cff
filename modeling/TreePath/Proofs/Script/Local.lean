import TreePath.Proofs.Script.Meaning

/-!
# Scripts that do not look at the document

A script may say `$` and so have a value that depends on the whole document. One that does not, in none of its paths
and none of the filters in them, depends on its candidate alone: `Script.meaning_eq_of_isLocal`. A step that comes of
such a fragment finds the same from a node, whatever the document is.
-/

namespace TreePath

mutual

variable [RegexSyntax]

/-- Whether a script says nowhere `$`. -/
def Script.isLocal : Script → Bool
  | ⟨template⟩ => areLocalEntries template

def areLocalEntries : List Entry → Bool
  | [] => true
  | entry :: entries => entry.isLocal && areLocalEntries entries

def Entry.isLocal : Entry → Bool
  | .path operand => operand.isLocal
  | _ => true

def Path.isLocal : Path → Bool
  | ⟨fragments⟩ => areLocalFragments fragments

def areLocalFragments : List (Fragment Script) → Bool
  | [] => true
  | fragment :: fragments => isLocalFragment fragment && areLocalFragments fragments

def isLocalFragment : Fragment Script → Bool
  | .root => false
  | .filter script => script.isLocal
  | _ => true

end

namespace Step

/-- A step that has the same effect in all documents. -/
def IsLocal : Step → Prop
  | .root => False
  | .filter test => ∀ candidate root other, test candidate root = test candidate other
  | _ => True

theorem IsLocal.pick_eq {step : Step} (isLocal : step.IsLocal) (root other node : Value) :
    step.pick root node = step.pick other node := by
  cases step with
  | root => cases isLocal
  | filter test =>
      have same : (test · root) = (test · other) := funext fun candidate => isLocal candidate root other
      simp only [pick, same]
  | _ => rfl

end Step

theorem findings_eq_of_isLocal {steps : List Step} (isLocal : ∀ step ∈ steps, step.IsLocal) (root other : Value) :
    findings root steps = findings other steps := by
  induction steps with
  | nil => rfl
  | cons step steps ih =>
      have here := isLocal step List.mem_cons_self
      have ih := ih fun next member => isLocal next (List.mem_cons_of_mem _ member)
      cases steps with
      | nil =>
          funext node
          cases step <;> first | rfl | exact here.pick_eq root other node
      | cons next steps =>
          funext node
          cases step with
          | descent => simp only [findings, ih]
          | _ => simp only [findings, ih, here.pick_eq root other node]

mutual

variable [RegexSyntax]

theorem Script.meaning_eq_of_isLocal : ∀ script : Script, script.isLocal = true →
    ∀ candidate root other : Value, script.meaning candidate root = script.meaning candidate other
  | ⟨template⟩, isLocal, candidate, root, other => by
      rw [Script.isLocal] at isLocal
      rw [Script.meaning, Script.meaning, meaningOfEntries_eq_of_isLocal template isLocal false candidate root other]

theorem meaningOfEntries_eq_of_isLocal : ∀ entries : List Entry, areLocalEntries entries = true →
    ∀ (gather : Bool) (candidate root other : Value),
      meaningOfEntries gather entries candidate root = meaningOfEntries gather entries candidate other
  | [], _, _, _, _, _ => rfl
  | entry :: entries, isLocal, gather, candidate, root, other => by
      rw [areLocalEntries, Bool.and_eq_true] at isLocal
      rw [meaningOfEntries, meaningOfEntries, Entry.meaning_eq_of_isLocal entry isLocal.1 gather candidate root other,
        meaningOfEntries_eq_of_isLocal entries isLocal.2 entry.gathers candidate root other]

theorem Entry.meaning_eq_of_isLocal : ∀ entry : Entry, entry.isLocal = true →
    ∀ (gather : Bool) (candidate root other : Value),
      entry.meaning gather candidate root = entry.meaning gather candidate other
  | .operator _, _, _, _, _, _ | .literal _, _, _, _, _, _ | .nothing, _, _, _, _, _ | .pattern _, _, _, _, _, _ => rfl
  | .path operand, isLocal, gather, candidate, root, other => by
      rw [Entry.isLocal] at isLocal
      funext terms
      rw [Entry.meaning, Entry.meaning, Path.meaning_eq_of_isLocal operand isLocal gather candidate root other]

theorem Path.meaning_eq_of_isLocal : ∀ path : Path, path.isLocal = true →
    ∀ (gather : Bool) (candidate root other : Value),
      path.meaning gather candidate root = path.meaning gather candidate other
  | ⟨fragments⟩, isLocal, gather, candidate, root, other => by
      rw [Path.isLocal] at isLocal
      rw [Path.meaning, Path.meaning,
        findings_eq_of_isLocal (meaningOfFragments_isLocal fragments isLocal) root other]

theorem meaningOfFragments_isLocal : ∀ fragments : List (Fragment Script), areLocalFragments fragments = true →
    ∀ step ∈ meaningOfFragments fragments, step.IsLocal
  | [], _ => List.forall_mem_nil _
  | fragment :: fragments, isLocal => by
      rw [areLocalFragments, Bool.and_eq_true] at isLocal
      rw [meaningOfFragments]
      intro step member
      rcases List.mem_cons.1 member with rfl | later
      · exact meaningOfFragment_isLocal fragment isLocal.1
      · exact meaningOfFragments_isLocal fragments isLocal.2 step later

theorem meaningOfFragment_isLocal : ∀ fragment : Fragment Script, isLocalFragment fragment = true →
    (meaningOfFragment fragment).IsLocal
  | .root, isLocal => by cases isLocal
  | .current, _ | .child _, _ | .nth _, _ | .wildcard, _ | .descent, _ | .slice _ _ _, _ | .union _, _ => trivial
  | .filter script, isLocal => by
      intro candidate root other
      rw [isLocalFragment] at isLocal
      exact congrArg Term.isTrue (Script.meaning_eq_of_isLocal script isLocal candidate root other)

end

/-- A filter without `$` tests a child as such. -/
theorem isLocal_stepOf [RegexSyntax] {fragment : Fragment Script} (isLocal : isLocalFragment fragment = true) :
    (stepOf fragment).IsLocal := by
  rw [stepOf_eq_meaning]
  exact meaningOfFragment_isLocal fragment isLocal

end TreePath

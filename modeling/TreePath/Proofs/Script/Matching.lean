import TreePath.Proofs.Regex.Enclosed
import TreePath.Proofs.Script.Computed
import TreePath.Proofs.Script.Evaluation
import TreePath.Regex.Standard

/-!
# Matching in scripts

A pattern reaches the operators `search`, `=~` and `match` as a literal, which was compiled when the script was read, or
as a text, which is compiled now. What they yield depends on the source alone and not on the way in which it came, with
one exception: a literal within a nested call was compiled without anchors, and `match` takes it as it is.
-/

namespace TreePath

section Patterns

variable [RegexSyntax] {operator : Operator} {left right : Formula} {candidate root : Value} {compiled : Pattern}

/-! ## Where patterns come from -/

theorem Pattern.compile?_of_anchored {pattern : Pattern} {anchored : Bool} (same : pattern.anchored = anchored) :
    compile? pattern.source anchored = some pattern.regex := by
  rw [← same]
  exact pattern.compiled

namespace Term

/-- The source that a term hands to an operator that matches. -/
def source? : Term → Option String
  | text source => some source
  | pattern compiled => some compiled.source
  | _ => none

theorem ofValue_ne_pattern (value : Value) : ofValue value ≠ .pattern compiled := by
  cases value <;> exact nofun

theorem IsComputed.ne_pattern {term : Term} (computed : term.IsComputed) : term ≠ .pattern compiled := by
  cases computed <;> exact nofun

end Term

/-- A pattern that a readable formula yields was compiled without anchors. -/
theorem anchored_eq_false_of_value {formula : Formula} (readable : formula.IsReadable)
    {gather : Bool} (yields : formula.value candidate root gather = .pattern compiled) :
    compiled.anchored = false := by
  cases formula with
  | literal value => exact (Term.ofValue_ne_pattern value yields).elim
  | nothing => cases yields
  | path fragments =>
      rw [Formula.value] at yields
      split at yields
      · cases yields
      · cases found : findings root (formulaSteps fragments) candidate with
        | nil =>
            rw [found] at yields
            cases yields
        | cons value values =>
            rw [found] at yields
            exact (Term.ofValue_ne_pattern value yields).elim
  | pattern own =>
      rcases Term.pattern.inj yields with rfl
      rw [Formula.IsReadable] at readable
      exact readable.2.anchored_eq
  | unary operator argument =>
      rw [Formula.IsReadable] at readable
      rw [Formula.value] at yields
      rcases Term.eq_or_isComputed_applyUnary operator (argument.value candidate root operator.gathers) with same | computed
      · exact anchored_eq_false_of_value readable.2 (same.symm.trans yields)
      · exact (computed.ne_pattern yields).elim
  | binary operator left right =>
      rw [Formula.value] at yields
      exact ((Term.isComputed_applyBinary operator _ _).ne_pattern yields).elim

/-- A literal on the right was compiled as the operator needs it. -/
theorem anchored_of_literal (compiles : operator.compiles = true)
    (readable : (Formula.binary operator left (.pattern compiled)).IsReadable) :
    compiled.anchored = decide (operator = .matchWhole) := by
  rw [Formula.IsReadable] at readable
  rcases readable with ⟨-, -, ⟨-, own, same, readable⟩ | ⟨notSource, -⟩⟩
  · rcases Formula.pattern.inj same with rfl
    exact readable.anchored_eq
  · cases notSource compiles

/-- A pattern that does not stand on the right itself was compiled without anchors. -/
theorem anchored_eq_false_of_right (readable : (Formula.binary operator left right).IsReadable)
    (yields : right.value candidate root false = .pattern compiled) (nested : right ≠ .pattern compiled) :
    compiled.anchored = false := by
  rw [Formula.IsReadable] at readable
  rcases readable with ⟨-, -, ⟨-, own, rfl, -⟩ | ⟨-, rightReadable⟩⟩
  · rcases Term.pattern.inj yields with rfl
    exact (nested rfl).elim
  · exact anchored_eq_false_of_value rightReadable yields

/-! ## Scripts that are a truth value -/

/-- A formula yields a truth value, at any place of a script and as a script of its own. -/
def Formula.Yields (formula : Formula) (candidate root : Value) (truth : Bool) : Prop :=
  (∀ gather, formula.value candidate root gather = .boolean truth) ∧
    formula.equation.script.evaluate candidate root = .boolean truth

theorem Formula.yields_of_value {formula : Formula} (readable : formula.IsReadable) {truth : Bool}
    (value : ∀ gather, formula.value candidate root gather = .boolean truth) : formula.Yields candidate root truth := by
  refine ⟨value, ?_⟩
  have evaluated := evaluateEntries_flatten readable false [] candidate root
  rw [List.append_nil] at evaluated
  rw [Equation.script, Script.evaluate, evaluated, value]
  rfl

end Patterns

section Matching

variable [Regex.UnicodeProperties]

/-! ## Sources -/

/-- Whether a source is a regular expression, and the expression matches some part of a text. -/
def MatchesPart (source subject : String) : Prop :=
  ∃ regex, Regex.ofText? source.toList = some regex ∧
    ∃ first last, first ≤ subject.toList.length ∧ regex.Spans subject.toList.toArray first last

/-- Whether a source is a regular expression, and the expression matches all of a text. -/
def MatchesWhole (source subject : String) : Prop :=
  ∃ regex, Regex.ofText? source.toList = some regex ∧
    regex.Spans subject.toList.toArray 0 subject.toList.length

namespace Pattern

variable {source subject : String} {regex : Regex}

theorem compile?_false (source : String) : compile? source false = Regex.ofText? source.toList := rfl

theorem isMatch_of_unanchored (compiles : compile? source false = some regex) :
    regex.isMatch subject = true ↔ MatchesPart source subject := by
  rw [compile?_false] at compiles
  rw [Regex.isMatch_iff (Regex.isProper_of_ofText? compiles), MatchesPart]
  simp [compiles]

/-- A source that is an expression by itself is matched against all of a text when it is compiled between anchors. -/
theorem isMatch_of_anchored (valid : (compile? source false).isSome = true)
    (compiles : compile? source true = some regex) :
    regex.isMatch subject = true ↔ MatchesWhole source subject := by
  rcases Option.isSome_iff_exists.1 valid with ⟨inside, valid⟩
  have readsEnclosed : Regex.ofText? ("^(?:".toList ++ source.toList ++ ")$".toList) = some regex := by
    rw [← String.toList_append, ← String.toList_append]
    exact compiles
  rw [compile?_false] at valid
  rcases Regex.ofText?_enclosed valid readsEnclosed with rfl
  rw [Regex.isMatch_enclosed_iff (Regex.isProper_of_ofText? valid), MatchesWhole]
  simp [valid]

end Pattern

/-! ## Terms -/

namespace Term

variable {source subject : String} {term : Term}

/-- Without anchors a term matches as its source does, unless it was compiled with anchors. -/
theorem matchesPattern_unanchored (supplied : term.source? = some source)
    (unanchored : ∀ compiled, term = .pattern compiled → compiled.anchored = false) :
    (Term.text subject).matchesPattern false term = true ↔ MatchesPart source subject := by
  unfold source? at supplied
  split at supplied
  · rcases Option.some.inj supplied with rfl
    rw [matchesPattern]
    split
    · rename_i regex compiles
      exact Pattern.isMatch_of_unanchored compiles
    · rename_i invalid
      rw [Pattern.compile?_false] at invalid
      simp [MatchesPart, invalid]
  · rename_i compiled
    rcases Option.some.inj supplied with rfl
    exact Pattern.isMatch_of_unanchored (Pattern.compile?_of_anchored (unanchored compiled rfl))
  · cases supplied

/-- With anchors a term matches as its source does, unless it was compiled without anchors or the anchors alone make it
an expression. -/
theorem matchesPattern_anchored (supplied : term.source? = some source)
    (anchored : ∀ compiled, term = .pattern compiled → compiled.anchored = true)
    (valid : (Pattern.compile? source true).isSome = true → (Pattern.compile? source false).isSome = true) :
    (Term.text subject).matchesPattern true term = true ↔
      (Pattern.compile? source true).isSome = true ∧ MatchesWhole source subject := by
  unfold source? at supplied
  split at supplied
  · rcases Option.some.inj supplied with rfl
    rw [matchesPattern]
    split
    · rename_i regex compiles
      rw [compiles] at valid
      simp [compiles, Pattern.isMatch_of_anchored (valid rfl) compiles]
    · rename_i invalid
      simp [invalid]
  · rename_i compiled
    rcases Option.some.inj supplied with rfl
    have compiles := Pattern.compile?_of_anchored (anchored compiled rfl)
    rw [compiles] at valid
    rw [matchesPattern, Pattern.isMatch_of_anchored (valid rfl) compiles]
    simp [compiles]
  · cases supplied

end Term

/-! ## Operators that match -/

variable {operator : Operator} {left right : Formula} {candidate root : Value} {subject source : String}

/--
What `search`, `=~` and `match` say of a text depends on the source of the pattern alone, be it written as a literal on
the right, found as a text, or handed on by a nested call. `search` and `=~` are true exactly if the source is an
expression that matches some part of the text. `match` is true exactly if the source is an expression that matches all
of the text, and is one between anchors as well. For `match` the source is no literal within a nested call, and no text
that the anchors alone make an expression. The readable formulas are those that texts are read as.
-/
theorem yields_iff_matches (readable : (Formula.binary operator left right).IsReadable)
    (isSubject : left.value candidate root false = .text subject)
    (supplied : (right.value candidate root false).source? = some source) :
    let formula := Formula.binary operator left right
    Script.parse formula.equation.script.text = .ok formula.equation.script ∧
      (operator = .search ∨ operator = .finds →
        ∃ truth, formula.Yields candidate root truth ∧ (truth = true ↔ MatchesPart source subject)) ∧
      (operator = .matchWhole →
        (∀ compiled, right.value candidate root false = .pattern compiled → right = .pattern compiled) →
        ((Pattern.compile? source true).isSome = true → (Pattern.compile? source false).isSome = true) →
        ∃ truth, formula.Yields candidate root truth ∧
          (truth = true ↔ (Pattern.compile? source true).isSome = true ∧ MatchesWhole source subject)) := by
  have compilesUnanchored (isSearch : operator = .search ∨ operator = .finds) (compiled : Pattern)
      (yields : right.value candidate root false = .pattern compiled) : compiled.anchored = false := by
    by_cases literal : right = .pattern compiled
    · rw [literal] at readable
      rcases isSearch with rfl | rfl
      · exact anchored_of_literal rfl readable
      · exact anchored_of_literal rfl readable
    · exact anchored_eq_false_of_right readable yields literal
  refine ⟨parse_text_of_isReadable readable, fun isSearch => ?_, ?_⟩
  · refine ⟨_, Formula.yields_of_value readable fun gather => ?_,
      Term.matchesPattern_unanchored supplied (compilesUnanchored isSearch)⟩
    rw [Formula.value, isSubject]
    rcases isSearch with rfl | rfl <;> rfl
  · rintro rfl literal valid
    have compilesAnchored (compiled : Pattern) (yields : right.value candidate root false = .pattern compiled) :
        compiled.anchored = true := by
      rw [literal compiled yields] at readable
      exact anchored_of_literal rfl readable
    refine ⟨_, Formula.yields_of_value readable fun gather => ?_,
      Term.matchesPattern_anchored supplied compilesAnchored valid⟩
    rw [Formula.value, isSubject]
    rfl

end Matching

/-- The member `s` of the candidate against the pattern in its member `p`. -/
def sampleMatching (operator : Operator) : Formula :=
  .binary operator (.path [.current, .child "s"]) (.path [.current, .child "p"])

/-- A text of which the first alternative of the pattern matches a part, and the second one the whole. -/
def sampleSubject : Value :=
  .object [("p", .string "x|xax"), ("s", .string "xax")]

theorem sampleMatching_isReadable {operator : Operator} (binary : operator.arity = 2) :
    (sampleMatching operator).IsReadable := by
  simp [sampleMatching, Formula.IsReadable, areReadable, isReadable, binary, Formula.isSource, Fragment.isAnchor]

theorem ofText?_sample : Regex.ofText? "x|xax".toList =
    some (.choice (.literal ['x']) (.literal ['x', 'a', 'x'])) := by
  decide +kernel

theorem yields_iff_matches_sample :
    (sampleMatching .search).IsReadable ∧ (sampleMatching .matchWhole).IsReadable ∧
      (Formula.path [.current, .child "s"]).value sampleSubject sampleSubject false = .text "xax" ∧
      ((Formula.path [.current, .child "p"]).value sampleSubject sampleSubject false).source? = some "x|xax" ∧
      (sampleMatching .search).Yields sampleSubject sampleSubject true ∧
      (sampleMatching .matchWhole).Yields sampleSubject sampleSubject true := by
  have isSubject : (Formula.path [.current, .child "s"]).value sampleSubject sampleSubject false = .text "xax" := by cbv
  have isSource : (Formula.path [.current, .child "p"]).value sampleSubject sampleSubject false = .text "x|xax" := by
    cbv
  have supplied : ((Formula.path [.current, .child "p"]).value sampleSubject sampleSubject false).source? =
      some "x|xax" := by
    rw [isSource]
    rfl
  have notPattern (compiled : Pattern)
      (yields : (Formula.path [.current, .child "p"]).value sampleSubject sampleSubject false = .pattern compiled) :
      Formula.path [.current, .child "p"] = .pattern compiled := by
    rw [isSource] at yields
    cases yields
  have valid : (Pattern.compile? "x|xax" false).isSome = true := by
    rw [Pattern.compile?_false, ofText?_sample]
    rfl
  have enclosed : (Pattern.compile? "x|xax" true).isSome = true := by decide +kernel
  have part : MatchesPart "x|xax" "xax" :=
    ⟨_, ofText?_sample, 2, 3, by decide, .inl ⟨by decide, rfl⟩⟩
  have whole : MatchesWhole "x|xax" "xax" := ⟨_, ofText?_sample, .inr ⟨by decide, rfl⟩⟩
  have searchReadable : (sampleMatching .search).IsReadable := sampleMatching_isReadable rfl
  have matchReadable : (sampleMatching .matchWhole).IsReadable := sampleMatching_isReadable rfl
  rcases (yields_iff_matches searchReadable isSubject supplied).2.1 (.inl rfl) with ⟨_, found, isFound⟩
  rcases (yields_iff_matches matchReadable isSubject supplied).2.2 rfl notPattern
    (fun _ => valid) with ⟨_, matched, isMatched⟩
  rcases isFound.2 part with rfl
  rcases isMatched.2 ⟨enclosed, whole⟩ with rfl
  exact ⟨searchReadable, matchReadable, isSubject, supplied, found, matched⟩

/-! ## A literal within a nested call -/

def slashedLetter : Pattern where
  source := "a"
  anchored := false
  slashed := true
  regex := .literal ['a']
  compiled := by decide +kernel

def nestedLiteral : Formula :=
  .binary .matchWhole (.literal (.string "xax")) (.unary .get (.pattern slashedLetter))

theorem nestedLiteral_isReadable : nestedLiteral.IsReadable := by
  simp only [nestedLiteral, Formula.IsReadable]
  exact ⟨rfl, trivial, .inr ⟨fun _ => rfl, rfl, rfl, ⟨rfl, fun _ => rfl, fun _ => by
    rw [Option.isSome_iff_exists]
    exact ⟨_, slashedLetter.compiled⟩⟩⟩⟩

/-- A literal within a nested call is matched against parts of a text, too. -/
theorem match_nestedLiteral :
    Script.parse "match('xax', get(/a/))" = .ok nestedLiteral.equation.script ∧
      nestedLiteral.equation.script.evaluate .null .null = .boolean true ∧ ¬ MatchesWhole "a" "xax" := by
  have written : nestedLiteral.equation.script.text = "match('xax', get(/a/))" := by
    rw [Script.text, Script.render_equation nestedLiteral_isReadable]
    rfl
  have parsed := parse_text_of_isReadable nestedLiteral_isReadable
  rw [written] at parsed
  have part : MatchesPart "a" "xax" := ⟨_, slashedLetter.compiled, 1, 2, by decide, by decide, rfl⟩
  have isMatch : slashedLetter.regex.isMatch "xax" = true :=
    (Pattern.isMatch_of_unanchored slashedLetter.compiled).2 part
  have value (gather : Bool) : nestedLiteral.value .null .null gather = .boolean true := congrArg Term.boolean isMatch
  refine ⟨parsed, (Formula.yields_of_value nestedLiteral_isReadable value).2, ?_⟩
  rintro ⟨regex, valid, spans⟩
  rcases Option.some.inj (slashedLetter.compiled.symm.trans valid) with rfl
  rcases spans with ⟨-, impossible⟩
  cases impossible

end TreePath

import TreePath.Proofs.Path.RoundTrip
import TreePath.Proofs.Script.Steady
import TreePath.Regex.Standard

/-!
# Scripts inside of other text

A script that is a whole text is the same script in a group, in the bracket of a path, and in a group in the bracket of a path.
What reading has left of the text are blanks, and these cannot be told from the same blanks with a closing mark behind them.
-/

namespace TreePath

/-- Blanks at the end of a text are the same blanks in front of a closing mark. -/
theorem alike_closed {blanks : List Char} {c : Char} (areBlanks : AreBlanks blanks) (closes : c ∈ equationEnds)
    (rest : List Char) : Alike continuesOperand blanks (blanks ++ c :: rest) := by
  cases blanks with
  | nil =>
      have ends : endsIn equationEnds (c :: rest) = true := List.contains_iff_mem.2 closes
      exact .of_stopsAt rfl (stopsAt_of_endsIn (by decide) ends)
  | cons blank blanks =>
      have noPoint := @stopsAt_point_of_areBlanks (blank :: blanks) [] areBlanks rfl
      rw [List.append_nil] at noPoint
      exact .of_head? rfl noPoint

section Enclosing

variable [RegexSyntax] {text : List Char} {script : Script}

/-- A whole script is read in front of any closing mark, up to the blanks at its end. -/
theorem readEquation_closed (read : readWholeScript text = .ok script) :
    ∃ equation blanks, equation.script = script ∧ AreBlanks blanks ∧
      ∀ {c : Char} {rest : List Char} {budget : Nat}, c ∈ equationEnds → 4 * text.length + 1 ≤ budget →
        readEquation budget Operator.loosest (text ++ c :: rest) = .ok (equation, blanks ++ c :: rest) := by
  rw [readWholeScript] at read
  rcases bind_eq_ok.1 read with ⟨⟨equation, left⟩, found, ends⟩
  rcases exists_blanks left with ⟨blanks, areBlanks, whole⟩
  simp only at ends
  split at ends
  · rename_i nothing
    rcases Except.ok.inj ends with rfl
    rw [nothing, List.append_nil] at whole
    rcases whole with rfl
    rcases (steady _).equation found with ⟨used, taken, -, -, readAgain⟩
    refine ⟨equation, left, rfl, areBlanks, ?_⟩
    intro c rest budget closes enough
    rw [taken, List.length_append] at enough
    rw [taken, List.append_assoc]
    exact readAgain (alike_closed areBlanks closes rest) (endsEquation_closing areBlanks closes _) (by omega)
  · cases ends

/-- A script in parentheses is the same script. -/
theorem readWholeScript_group (read : readWholeScript text = .ok script) :
    readWholeScript ('(' :: (text ++ [')'])) = .ok script := by
  rcases readEquation_closed read with ⟨equation, blanks, rfl, areBlanks, readInside⟩
  have inside : readEquation (4 * text.length + 14) Operator.loosest (text ++ [')']) = .ok (equation, blanks ++ [')']) :=
    readInside (by decide) (by omega)
  have group : readOperand (4 * text.length + 15) ('(' :: (text ++ [')'])) = .ok (equation, []) := by
    rw [readOperand_open, inside, ok_bind]
    simp only
    rw [expectChar_blanks areBlanks rfl]
    rfl
  have budget : readingBudget ('(' :: (text ++ [')'])) = 4 * text.length + 16 := by
    simp only [readingBudget, List.length_cons, List.length_append, List.length_nil]
    omega
  rw [readWholeScript, budget, readEquation, group, ok_bind]
  rfl

/-- A script in the bracket of a path is a filter by this script. -/
theorem readPath_filter (read : readWholeScript text = .ok script) :
    readPath (readingBudget ('$' :: '[' :: '?' :: (text ++ [']']))) ('$' :: '[' :: '?' :: (text ++ [']'])) =
      .ok (⟨[.root, .filter script]⟩, []) := by
  rcases readEquation_closed read with ⟨equation, blanks, rfl, areBlanks, readInside⟩
  have inside : readEquation (4 * text.length + 21) Operator.loosest (text ++ [']']) = .ok (equation, blanks ++ [']']) :=
    readInside (by decide) (by omega)
  have bracket (start : List Char) : readBracket (4 * text.length + 22) start ('?' :: (text ++ [']'])) =
      .ok (.filter equation.script, blanks ++ [']']) := by
    rw [readBracket, skipBlanks_cons rfl]
    simp only
    rw [if_neg (by decide), if_neg (by decide), if_neg (by decide), if_pos trivial, inside]
    rfl
  have budget : readingBudget ('$' :: '[' :: '?' :: (text ++ [']'])) = 4 * text.length + 24 := by
    simp only [readingBudget, List.length_cons, List.length_append, List.length_nil]
    omega
  have fragments : readFragments (4 * text.length + 23) ('[' :: '?' :: (text ++ [']'])) =
      .ok ([.filter equation.script], []) := by
    rw [readFragments, bracket, ok_bind]
    simp only
    rw [closeBracket_blanks areBlanks]
    rfl
  rw [budget, readPath]
  simp only [readHead?]
  rw [fragments]
  rfl

end Enclosing

section Enclosed

variable [RegexSyntax]

theorem Script.parse_eq_ok {text : String} {script : Script} : Script.parse text = .ok script ↔
    readWholeScript text.toList = .ok script :=
  mapError_eq_ok

/-- A text that is a script means the same in parentheses, as a filter of a path, and as a filter in parentheses. -/
theorem parse_enclosed {text : String} {script : Script} (accepted : Script.parse text = .ok script) :
    Script.parse ("(" ++ text ++ ")") = .ok script ∧
      Path.parse ("$[?" ++ text ++ "]") = .ok ⟨[.root, .filter script]⟩ ∧
      Path.parse ("$[?(" ++ text ++ ")]") = .ok ⟨[.root, .filter script]⟩ := by
  have read := Script.parse_eq_ok.1 accepted
  have group := readWholeScript_group read
  refine ⟨Script.parse_eq_ok.2 ?_, parse_eq_ok.2 ?_, parse_eq_ok.2 ?_⟩
  · rw [String.toList_append, String.toList_append]
    exact group
  · rw [String.toList_append, String.toList_append]
    exact readPath_filter read
  · have path := readPath_filter group
    rw [List.cons_append, List.append_assoc] at path
    rw [String.toList_append, String.toList_append]
    exact path

end Enclosed

theorem parse_enclosed_sample :
    Script.parse ("(" ++ sampleFormula.equation.script.text ++ ")") = .ok sampleFormula.equation.script ∧
      Path.parse ("$[?" ++ sampleFormula.equation.script.text ++ "]") =
        .ok ⟨[.root, .filter sampleFormula.equation.script]⟩ ∧
      Path.parse ("$[?(" ++ sampleFormula.equation.script.text ++ ")]") =
        .ok ⟨[.root, .filter sampleFormula.equation.script]⟩ :=
  parse_enclosed (parse_text_of_isReadable sampleFormula_isReadable)

end TreePath

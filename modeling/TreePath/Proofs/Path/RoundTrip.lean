import TreePath.Proofs.Script.Operation
import TreePath.Regex.Standard

/-!
# Writing and reading are inverse

Every well-formed path is read back from its text, and every script that was read is. The proof goes along the formulas
that filters and scripts belong to: each fragment is read back in front of whatever is read after it, and each operand
in front of whatever may follow an operand.
-/

namespace TreePath

/-! ## Operands that are compiled -/

theorem Operator.eq_not {operator : Operator} (unary : operator.arity = 1) (plain : operator.isFunction = false) :
    operator = .not := by
  cases operator <;> first | rfl | exact absurd unary (by decide) | cases plain

section RoundTrips

variable [RegexSyntax]

theorem compileLiteral_of_isSource {formula : Formula} (plain : formula.isSource = false) (anchored : Bool)
    (start : List Char) : compileLiteral anchored start formula.equation = .ok formula.equation := by
  cases formula with
  | pattern compiled => cases plain
  | literal value =>
      cases value with
      | string text => cases plain
      | _ => rfl
  | _ => rfl

/-- A pattern is compiled from the literal that its text is read as. -/
theorem exists_reads_pattern {pattern : Pattern} {anchored : Bool} (readable : pattern.IsReadable anchored) :
    ∃ raw, (Rendering.same pattern.render).Reads raw ∧
      ∀ start, compileLiteral anchored start raw = .ok (.operand (.pattern pattern)) := by
  cases slashed : pattern.slashed with
  | true =>
      rcases Option.isSome_iff_exists.1 (readable.compiles slashed) with ⟨regex, found⟩
      refine ⟨.operand (.pattern ⟨pattern.source, false, true, regex, found⟩), ?_, ?_⟩
      · rw [Pattern.render, if_pos slashed]
        apply Rendering.reads_leaf
        intro budget rest enough _
        apply readOperand_writeSlashed enough (readable.slashable slashed)
        rw [String.ofList_toList]
        exact Pattern.ofSource?_eq_some.2 ⟨rfl, rfl, rfl⟩
      · intro start
        have made : Pattern.ofSource? pattern.source anchored true = some pattern :=
          Pattern.ofSource?_eq_some.2 ⟨rfl, readable.anchored_eq, slashed⟩
        simp only [compileLiteral, made]
  | false =>
      refine ⟨.operand (.literal (.string pattern.source)), ?_, ?_⟩
      · rw [Pattern.render, slashed]
        apply Rendering.reads_leaf
        intro budget rest enough _
        have read := readOperand_writeQuoted enough pattern.source.toList rest
        rw [String.ofList_toList] at read
        exact read
      · intro start
        have made : Pattern.ofSource? pattern.source anchored false = some pattern :=
          Pattern.ofSource?_eq_some.2 ⟨rfl, readable.anchored_eq, slashed⟩
        simp only [compileLiteral, made]

/-- A pattern between slashes is an operand of its own. -/
theorem reads_pattern {pattern : Pattern} (slashed : pattern.slashed = true) (readable : pattern.IsReadable false) :
    (Rendering.same pattern.render).Reads (.operand (.pattern pattern)) := by
  rw [Pattern.render, if_pos slashed]
  apply Rendering.reads_leaf
  intro budget rest enough _
  apply readOperand_writeSlashed enough (readable.slashable slashed)
  rw [String.ofList_toList]
  exact Pattern.ofSource?_eq_some.2 ⟨rfl, readable.anchored_eq, slashed⟩

/-! ## Fragments -/

/-- The text of fragments is read back up to the end of an operand. -/
def FragmentsRead (fragments : List (Fragment Script)) : Prop :=
  ∀ (budget : Nat) (rest : List Char), 4 * (renderFragments false fragments).length + 1 ≤ budget →
    endsIn operandEnds rest = true →
      readFragments budget (renderFragments false fragments ++ rest) = .ok (fragments, rest)

/-- The text of a fragment is read back in front of whatever is read after it. -/
def FragmentRead (fragment : Fragment Script) : Prop :=
  ∀ (budget : Nat) (tail : List Char) (others : List (Fragment Script)) (rest : List Char),
    4 * (renderFragment false fragment).length ≤ budget → stopsAt startsBare tail = true →
      readFragments budget tail = .ok (others, rest) →
        readFragments (budget + 1) (renderFragment false fragment ++ tail) = .ok (fragment :: others, rest)

theorem stopsAt_renderFragments (fragments : List (Fragment Script)) {rest : List Char}
    (ends : endsIn operandEnds rest = true) :
    stopsAt startsBare (renderFragments false fragments ++ rest) = true := by
  cases fragments with
  | nil => exact stopsAt_of_endsIn (by decide) ends
  | cons fragment fragments =>
      rcases renderFragment_false_cons fragment with ⟨c, more, same, begins⟩
      rw [renderFragments, same]
      rcases begins with ⟨rfl | rfl, -⟩ | rfl | rfl <;> rfl

theorem fragmentRead_plain {fragment : Fragment Script} (plain : fragment.isPlain = true) :
    FragmentRead fragment := by
  intro budget tail others rest enough stops readOthers
  have found := readBare?_render tail plain (stopsAt_isNameCharacter stops)
  have after : readAfterPoint (renderFragment true fragment ++ tail) = .ok (fragment, tail) := by
    simp only [readAfterPoint, found]
  rw [renderFragment_false_of_isPlain plain, List.cons_append, readFragments]
  · rw [after, ok_bind]
    simp only
    rw [readOthers]
    rfl
  · rintro more same
    rw [same] at found
    cases found

theorem fragmentRead_bracket {fragment : Fragment Script} {body : List Char}
    (text : renderFragment false fragment = '[' :: body ++ [']'])
    (read : ∀ (budget : Nat) (start tail : List Char), 4 * (body.length + 2) ≤ budget →
      readBracket budget start (body ++ ']' :: tail) = .ok (fragment, ']' :: tail)) :
    FragmentRead fragment := by
  intro budget tail others rest enough stops readOthers
  rw [text, List.length_append, List.length_cons, List.length_singleton] at enough
  rw [text, List.append_assoc, List.cons_append, List.singleton_append, readFragments, read _ _ _ (by omega),
    ok_bind]
  simp only
  rw [closeBracket_cons, ok_bind, readOthers]
  rfl

theorem fragmentRead_filter {formula : Formula} (readable : formula.IsReadable)
    (reads : formula.rendering.Reads formula.equation) : FragmentRead (.filter formula.equation.script) := by
  apply @fragmentRead_bracket _ _ ('?' :: ('(' :: formula.rendering.alone ++ [')']))
  · rw [renderFragment, Script.render_equation readable]
    simp
  · intro budget start tail enough
    simp only [List.length_append, List.length_cons, List.length_nil] at enough
    rcases Nat.exists_eq_add_of_le' (Nat.le_trans (by omega : 1 ≤ _) enough) with ⟨least, rfl⟩
    have group : readEquation least Operator.loosest
        ('(' :: formula.rendering.alone ++ [')'] ++ ']' :: tail) = .ok (formula.equation, ']' :: tail) := by
      apply Rendering.readEquation_nested
      · intro budget rest enough _
        exact Rendering.reads_group reads.alone enough
      · simp only [List.length_append, List.length_cons, List.length_nil]
        omega
      · rfl
    rw [List.cons_append, readBracket, skipBlanks_cons rfl]
    simp only
    rw [if_neg (by decide), if_neg (by decide), if_neg (by decide), if_pos trivial, group]
    rfl

theorem renderFragment_slice (start stop step : Option Int64) :
    renderFragment false (.slice start stop step) =
      '[' :: (renderBound start ++ ':' :: (renderBound stop ++ renderStep step)) ++ [']'] := by
  cases step <;> simp [renderFragment, renderStep]

/-- A fragment other than a descent or filter is read back. -/
theorem fragmentRead {fragment : Fragment Formula} (readable : isReadable fragment)
    (walks : (flattenFragment fragment).isDescent = false) (plain : fragment.isFilter = false) :
    FragmentRead (flattenFragment fragment) := by
  have succ : ∀ {budget size : Nat}, 4 * (size + 2) ≤ budget → ∃ least, budget = least + 1 := by
    intro budget size enough
    exact ⟨budget - 1, by omega⟩
  cases fragment with
  | root => exact readable.elim
  | current => exact readable.elim
  | descent => cases walks
  | wildcard => exact @fragmentRead_plain _ .wildcard rfl
  | child name =>
      cases bare : isBareName name with
      | true => exact @fragmentRead_plain _ (.child name) bare
      | false =>
          apply @fragmentRead_bracket _ _ (writeQuoted name.toList)
          · rw [flattenFragment, renderFragment, bare]
            rfl
          · intro budget start tail enough
            rcases succ enough with ⟨least, rfl⟩
            exact readBracket_child tail start least name
  | nth i =>
      apply @fragmentRead_bracket _ _ (intDigits i.toInt) rfl
      intro budget start tail enough
      rcases succ enough with ⟨least, rfl⟩
      exact readBracket_integer tail start least i rfl
  | slice first stop step =>
      apply fragmentRead_bracket (renderFragment_slice first stop step)
      intro budget start tail enough
      rcases succ enough with ⟨least, rfl⟩
      have read := readBracket_slice tail start least first stop step
      rw [List.append_assoc, List.cons_append]
      exact read
  | union selectors =>
      cases selectors with
      | nil =>
          simp only [isReadable, List.length_nil] at readable
          omega
      | cons first others =>
          cases others with
          | nil =>
              simp only [isReadable, List.length_singleton] at readable
              omega
          | cons second others =>
              apply fragmentRead_bracket rfl
              intro budget start tail enough
              rcases succ enough with ⟨least, rfl⟩
              exact readBracket_union tail start least first second others
  | filter formula => cases plain

/-! ## Lists of fragments -/

theorem fragmentsRead_nil : FragmentsRead [] := by
  intro budget rest enough ends
  rcases Nat.exists_eq_add_of_le' enough with ⟨least, rfl⟩
  cases rest with
  | nil => rfl
  | cons c rest =>
      rw [endsIn, List.contains_iff_mem] at ends
      simp only [operandEnds, equationEnds, List.mem_cons, List.not_mem_nil, or_false] at ends
      rcases ends with rfl | rfl | rfl | rfl <;> rfl

theorem fragmentsRead_cons {fragment : Fragment Script} {fragments : List (Fragment Script)}
    (walks : fragment.isDescent = false) (first : FragmentRead fragment) (others : FragmentsRead fragments) :
    FragmentsRead (fragment :: fragments) := by
  intro budget rest enough ends
  have stops := stopsAt_renderFragments fragments ends
  rcases renderFragment_false_cons fragment with ⟨c, more, same, -⟩
  have positive : 0 < (renderFragment false fragment).length := by
    rw [same]
    exact Nat.succ_pos _
  rw [renderFragments, walks, List.length_append] at enough
  rcases Nat.exists_eq_add_of_le' (Nat.le_trans (by omega : 1 ≤ _) enough) with ⟨least, rfl⟩
  rw [renderFragments, walks, List.append_assoc]
  exact first _ _ _ _ (by omega) stops (others _ _ (by omega) ends)

theorem renderFragments_true_of_not_isPlain {fragment : Fragment Script} (plain : fragment.isPlain = false)
    (fragments : List (Fragment Script)) :
    renderFragments true (fragment :: fragments) = renderFragments false (fragment :: fragments) := by
  rw [renderFragments, renderFragments, renderFragment_true_of_not_isPlain plain]

/-- After a descent a name or wildcard needs no point and is read together with it. -/
theorem fragmentsRead_descent {fragments : List (Fragment Script)} (all : FragmentsRead fragments)
    (others : FragmentsRead fragments.tail) : FragmentsRead (.descent :: fragments) := by
  intro budget rest enough ends
  have text : renderFragments false (.descent :: fragments) = '.' :: '.' :: renderFragments true fragments := rfl
  rw [text, List.length_cons, List.length_cons] at enough
  rcases Nat.exists_eq_add_of_le' (Nat.le_trans (by omega : 1 ≤ _) enough) with ⟨least, rfl⟩
  have unmarked : renderFragments true fragments = renderFragments false fragments →
      readFragments (least + 1) ('.' :: '.' :: (renderFragments true fragments ++ rest)) =
        .ok (.descent :: fragments, rest) := by
    intro same
    rw [same] at enough ⊢
    rw [readFragments, readBare?_eq_none (stopsAt_renderFragments fragments ends)]
    simp only
    rw [all least rest (by omega) ends]
    rfl
  rw [text, List.cons_append, List.cons_append]
  cases fragments with
  | nil => exact unmarked rfl
  | cons fragment fragments =>
      cases plain : fragment.isPlain with
      | false => exact unmarked (renderFragments_true_of_not_isPlain plain fragments)
      | true =>
          have walks : fragment.isDescent = false := by
            cases fragment <;> first | rfl | cases plain
          have stops := stopsAt_renderFragments fragments ends
          rw [renderFragments, walks, List.length_append] at enough
          rw [renderFragments, walks, List.append_assoc, readFragments,
            readBare?_render _ plain (stopsAt_isNameCharacter stops)]
          simp only
          rw [List.tail_cons] at others
          rw [others least rest (by omega) ends]
          rfl

/-! ## Paths -/

section Paths

variable {fragments : List (Fragment Script)} {budget : Nat} {rest : List Char}

/-- A path with an anchor at its head is read back. -/
theorem readPath_anchor {head : Fragment Script} (anchor : head.isAnchor = true) (others : FragmentsRead fragments)
    (enough : 4 * (renderFragments true (head :: fragments)).length ≤ budget + 2)
    (ends : endsIn operandEnds rest = true) :
    readPath budget (renderFragments true (head :: fragments) ++ rest) = .ok (⟨head :: fragments⟩, rest) := by
  have text : ∃ c, renderFragments true (head :: fragments) = c :: renderFragments false fragments ∧
      ∀ more, readHead? (c :: more) = some (head, more) := by
    cases head with
    | root => exact ⟨'$', rfl, fun _ => rfl⟩
    | current => exact ⟨'@', rfl, fun _ => rfl⟩
    | _ => cases anchor
  rcases text with ⟨c, same, found⟩
  rw [same, List.length_cons] at enough
  rcases Nat.exists_eq_add_of_le' (by omega : 1 ≤ budget) with ⟨least, rfl⟩
  rw [same, List.cons_append, readPath, found]
  simp only
  rw [others least rest (by omega) ends]
  rfl

theorem notAnchor_renderFragments (anchors : ∀ head ∈ fragments.head?, head.isAnchor = false)
    (ends : endsIn operandEnds rest = true) :
    stopsAt (fun c => c == '$' || c == '@') (renderFragments false fragments ++ rest) = true := by
  cases fragments with
  | nil => exact stopsAt_of_endsIn (by decide) ends
  | cons fragment fragments =>
      have notAnchor := anchors fragment rfl
      rcases renderFragment_false_cons fragment with ⟨c, more, same, begins⟩
      rw [renderFragments, same]
      rcases begins with ⟨-, anchor⟩ | rfl | rfl
      · rw [anchor] at notAnchor
        cases notAnchor
      · rfl
      · rfl

/-- A path without an anchor is read back. -/
theorem readPath_render (anchors : ∀ head ∈ fragments.head?, head.isAnchor = false) (all : FragmentsRead fragments)
    (others : FragmentsRead fragments.tail)
    (enough : 4 * (renderFragments true fragments).length + 2 ≤ budget) (ends : endsIn operandEnds rest = true) :
    readPath budget (renderFragments true fragments ++ rest) = .ok (⟨fragments⟩, rest) := by
  rcases Nat.exists_eq_add_of_le' (by omega : 1 ≤ budget) with ⟨least, rfl⟩
  have unmarked : renderFragments true fragments = renderFragments false fragments →
      readPath (least + 1) (renderFragments true fragments ++ rest) = .ok (⟨fragments⟩, rest) := by
    intro same
    have notFound := readHead?_eq_none (stopsAt_renderFragments fragments ends) (notAnchor_renderFragments anchors ends)
    rw [same] at enough ⊢
    rw [readPath, notFound]
    simp only
    rw [all least rest (by omega) ends]
    rfl
  cases fragments with
  | nil => exact unmarked rfl
  | cons fragment fragments =>
      cases plain : fragment.isPlain with
      | false => exact unmarked (renderFragments_true_of_not_isPlain plain fragments)
      | true =>
          have walks : fragment.isDescent = false := by
            cases fragment <;> first | rfl | cases plain
          have stops := stopsAt_isNameCharacter (stopsAt_renderFragments fragments ends)
          have found := readHead?_of_readBare? (readBare?_render _ plain stops)
          rw [renderFragments, walks, List.length_append] at enough
          rw [renderFragments, walks, List.append_assoc, readPath, found]
          simp only
          rw [List.tail_cons] at others
          rw [others least rest (by omega) ends]
          rfl

theorem reads_path {head : Fragment Script} (anchor : head.isAnchor = true) (others : FragmentsRead fragments) :
    (Rendering.same (renderFragments true (head :: fragments))).Reads (.operand (.path ⟨head :: fragments⟩)) := by
  apply Rendering.reads_same
  intro budget rest enough ends
  have text : ∃ c, renderFragments true (head :: fragments) = c :: renderFragments false fragments ∧
      isBlank c = false ∧ (c = '@' ∨ c = '$') := by
    cases head with
    | root => exact ⟨'$', rfl, rfl, .inr rfl⟩
    | current => exact ⟨'@', rfl, rfl, .inl rfl⟩
    | _ => cases anchor
  rcases text with ⟨c, same, notBlank, mark⟩
  have positive : 0 < (renderFragments true (head :: fragments)).length := by
    rw [same]
    exact Nat.succ_pos _
  rcases Nat.exists_eq_add_of_le' (by omega : 1 ≤ budget) with ⟨least, rfl⟩
  have read : readPath least (renderFragments true (head :: fragments) ++ rest) = .ok (⟨head :: fragments⟩, rest) :=
    readPath_anchor anchor others (by omega) ends
  rw [same, List.cons_append] at read ⊢
  rw [readOperand, skipBlanks_cons notBlank]
  simp only
  rw [if_pos mark, read]
  rfl

end Paths

/-! ## Formulas -/

mutual

/-- The texts of a readable formula are read back. -/
theorem formula_reads : ∀ formula : Formula, formula.IsReadable → formula.rendering.Reads formula.equation
  | .literal value, readable => by
      rw [Formula.IsReadable] at readable
      exact Rendering.reads_leaf fun enough ends => readOperand_renderLiteral enough readable ends
  | .nothing, _ => Rendering.reads_leaf readOperand_nothing
  | .pattern compiled, readable => by
      rw [Formula.IsReadable] at readable
      exact reads_pattern readable.1 readable.2
  | .path [], readable => by
      rw [Formula.IsReadable] at readable
      exact readable.elim
  | .path (head :: fragments), readable => by
      rw [Formula.IsReadable] at readable
      have others := fragments_read fragments readable.2
      have anchor : (flattenFragment head).isAnchor = true := by
        cases head <;> first | rfl | cases readable.1
      exact reads_path anchor others.1
  | .unary operator argument, readable => by
      rw [Formula.IsReadable] at readable
      have reads := formula_reads argument readable.2
      rw [Formula.rendering, Formula.equation]
      cases isFunction : operator.isFunction with
      | true =>
          rw [Operator.render_function _ isFunction readable.1]
          exact Rendering.reads_call isFunction readable.1 reads
      | false =>
          rcases Operator.eq_not readable.1 isFunction with rfl
          exact Rendering.reads_not reads
  | .binary operator left right, readable => by
      rw [Formula.IsReadable] at readable
      rcases readable with ⟨binary, leftReadable, rightReadable⟩
      have leftReads := formula_reads left leftReadable
      have rightReads : ∃ raw, right.rendering.Reads raw ∧ operator.Takes raw right.equation := by
        rcases rightReadable with ⟨compiles, compiled, rfl, patternReadable⟩ | ⟨plain, rightReadable⟩
        · rcases exists_reads_pattern patternReadable with ⟨raw, reads, compiled⟩
          refine ⟨raw, reads, ?_⟩
          intro start
          rw [if_pos compiles]
          exact compiled start
        · refine ⟨right.equation, formula_reads right rightReadable, ?_⟩
          intro start
          split
          · rename_i compiles
            exact compileLiteral_of_isSource (plain compiles) _ start
          · rfl
      rcases rightReads with ⟨raw, rightReads, takes⟩
      rw [Formula.rendering, Formula.equation]
      cases isFunction : operator.isFunction with
      | true =>
          rw [Operator.render_test _ _ isFunction binary]
          exact Rendering.reads_test isFunction binary leftReads rightReads takes
      | false =>
          rw [Operator.render_infix _ _ isFunction binary]
          exact Rendering.reads_infix (operator.isInfix_iff.2 ⟨binary, isFunction⟩) leftReads rightReads takes

/-- Readable fragments are read back, and so are those after the first one. -/
theorem fragments_read : ∀ fragments : List (Fragment Formula), areReadable fragments →
    FragmentsRead (flattenFragments fragments) ∧ FragmentsRead (flattenFragments fragments).tail
  | [], _ => ⟨fragmentsRead_nil, fragmentsRead_nil⟩
  | fragment :: fragments, readable => by
      rw [areReadable] at readable
      have others := fragments_read fragments readable.2
      refine ⟨?_, others.1⟩
      rw [flattenFragments]
      cases descends : (flattenFragment fragment).isDescent with
      | true =>
          have descent : flattenFragment fragment = .descent := by
            cases fragment <;> first | rfl | cases descends
          rw [descent]
          exact fragmentsRead_descent others.1 others.2
      | false => exact fragmentsRead_cons descends (fragment_read fragment readable.1 descends) others.1

theorem fragment_read : ∀ fragment : Fragment Formula, isReadable fragment →
    (flattenFragment fragment).isDescent = false → FragmentRead (flattenFragment fragment)
  | .filter formula, readable, _ => by
      rw [isReadable] at readable
      exact fragmentRead_filter readable (formula_reads formula readable)
  | .root, readable, walks | .current, readable, walks | .child _, readable, walks | .nth _, readable, walks
  | .wildcard, readable, walks | .descent, readable, walks | .slice _ _ _, readable, walks
  | .union _, readable, walks => fragmentRead readable walks rfl

end

/-! ## Whole texts -/

/-- A script is read back from the text of its formula. -/
theorem parse_text_of_isReadable {formula : Formula} (readable : formula.IsReadable) :
    Script.parse formula.equation.script.text = .ok formula.equation.script := by
  have read : readEquation (readingBudget formula.rendering.alone) Operator.loosest
      (formula.rendering.alone ++ []) = .ok (formula.equation, []) := by
    apply (formula_reads formula readable).alone
    · rw [readingBudget]
      omega
    · rfl
  rw [List.append_nil] at read
  rw [Script.parse, Script.parseFrom, Script.text, String.toList_ofList, List.drop_zero,
    Script.render_equation readable, mapError_eq_ok, readWholeScript, read]
  rfl

/-- A script that was read belongs to a readable formula. -/
theorem exists_formula_of_parse {text : String} {script : Script} (parsed : Script.parse text = .ok script) :
    ∃ formula : Formula, formula.IsReadable ∧ formula.equation.script = script := by
  rw [Script.parse, Script.parseFrom, mapError_eq_ok, readWholeScript] at parsed
  rcases bind_eq_ok.1 parsed with ⟨⟨equation, rest⟩, read, parsed⟩
  rcases (legible _).equation read with ⟨formula, readable, rfl⟩
  refine ⟨formula, readable, ?_⟩
  simp only at parsed
  split at parsed
  · exact Except.ok.inj parsed
  · cases parsed

/-- Whether a fragment is one that can be written: a union has at least two selectors, and a filter a script that
some text is read as. -/
def Fragment.WellFormed : Fragment Script → Prop
  | .union selectors => 2 ≤ selectors.length
  | .filter script => ∃ text : String, Script.parse text = .ok script
  | _ => True

/-- Whether a path is well formed: so are its fragments, and none but the first is an anchor. -/
def Path.WellFormed (path : Path) : Prop :=
  (∀ fragment ∈ path.fragments, fragment.WellFormed) ∧
    ∀ fragment ∈ path.fragments.tail, fragment.isAnchor = false

theorem exists_tree {fragment : Fragment Script} (wellFormed : fragment.WellFormed) :
    ∃ tree : Fragment Formula, (tree.isAnchor = true ∨ isReadable tree) ∧
      tree.isAnchor = fragment.isAnchor ∧ flattenFragment tree = fragment := by
  cases fragment with
  | root => exact ⟨.root, .inl rfl, rfl, rfl⟩
  | current => exact ⟨.current, .inl rfl, rfl, rfl⟩
  | child name => exact ⟨.child name, .inr trivial, rfl, rfl⟩
  | nth i => exact ⟨.nth i, .inr trivial, rfl, rfl⟩
  | wildcard => exact ⟨.wildcard, .inr trivial, rfl, rfl⟩
  | descent => exact ⟨.descent, .inr trivial, rfl, rfl⟩
  | slice start stop step => exact ⟨.slice start stop step, .inr trivial, rfl, rfl⟩
  | union selectors => exact ⟨.union selectors, .inr wellFormed, rfl, rfl⟩
  | filter script =>
      rcases wellFormed with ⟨text, parsed⟩
      rcases exists_formula_of_parse parsed with ⟨formula, readable, rfl⟩
      exact ⟨.filter formula, .inr readable, rfl, rfl⟩

theorem exists_trees {fragments : List (Fragment Script)}
    (wellFormed : ∀ fragment ∈ fragments, fragment.WellFormed)
    (anchors : ∀ fragment ∈ fragments, fragment.isAnchor = false) :
    ∃ trees : List (Fragment Formula), areReadable trees ∧ flattenFragments trees = fragments := by
  induction fragments with
  | nil => exact ⟨[], trivial, rfl⟩
  | cons fragment fragments ih =>
      rcases exists_tree (wellFormed fragment List.mem_cons_self) with ⟨tree, readable, anchor, rfl⟩
      rcases ih (fun other member => wellFormed other (List.mem_cons_of_mem _ member))
        (fun other member => anchors other (List.mem_cons_of_mem _ member)) with ⟨trees, areTrees, rfl⟩
      have notAnchor : ¬tree.isAnchor = true := by
        rw [anchor, anchors _ List.mem_cons_self]
        decide
      exact ⟨tree :: trees, ⟨readable.resolve_left notAnchor, areTrees⟩, rfl⟩

theorem parse_text_of_readPath {path : Path}
    (read : ∀ {budget : Nat}, 4 * path.render.length + 2 ≤ budget →
      readPath budget (path.render ++ []) = .ok (path, [])) : Path.parse path.text = .ok path := by
  have whole : readPath (readingBudget path.render) (path.render ++ []) = .ok (path, []) := by
    apply read
    rw [readingBudget]
    omega
  rw [List.append_nil] at whole
  rw [Path.parse, Path.parseFrom, Path.text, String.toList_ofList, List.drop_zero, mapError_eq_ok, readWholePath,
    whole]
  rfl

theorem Fragment.filter_wellFormed {formula : Formula} (readable : formula.IsReadable) :
    (Fragment.filter formula.equation.script).WellFormed :=
  ⟨_, parse_text_of_isReadable readable⟩

/-- A well-formed path is read back from its text. -/
theorem parse_text_of_wellFormed {path : Path} (wellFormed : path.WellFormed) :
    Path.parse path.text = .ok path := by
  rcases path with ⟨fragments⟩
  rcases wellFormed with ⟨fragmentsWellFormed, anchors⟩
  apply parse_text_of_readPath
  intro budget enough
  rw [Path.render] at enough ⊢
  by_cases anchored : ∃ head others, fragments = head :: others ∧ head.isAnchor = true
  · rcases anchored with ⟨head, others, rfl, anchor⟩
    have othersWellFormed : ∀ fragment ∈ others, fragment.WellFormed :=
      fun fragment member => fragmentsWellFormed fragment (List.mem_cons_of_mem _ member)
    rcases exists_trees othersWellFormed anchors with ⟨trees, readable, rfl⟩
    exact readPath_anchor anchor (fragments_read trees readable).1 (by omega) rfl
  · have headPlain : ∀ head ∈ fragments.head?, head.isAnchor = false := by
      intro head begins
      rcases List.head?_eq_some_iff.1 begins with ⟨others, rfl⟩
      refine Bool.eq_false_iff.2 ?_
      intro anchor
      exact anchored ⟨head, others, rfl, anchor⟩
    have plain : ∀ fragment ∈ fragments, fragment.isAnchor = false := by
      intro fragment member
      cases fragments with
      | nil => cases member
      | cons head others =>
          rcases List.mem_cons.1 member with rfl | later
          · exact headPlain fragment rfl
          · exact anchors fragment later
    rcases exists_trees fragmentsWellFormed plain with ⟨trees, readable, rfl⟩
    rcases fragments_read trees readable with ⟨all, others⟩
    exact readPath_render headPlain all others enough rfl

theorem wellFormed_flatten {tree : Fragment Formula} (readable : tree.isAnchor = true ∨ isReadable tree) :
    (flattenFragment tree).WellFormed := by
  cases tree with
  | union selectors =>
      rcases readable with anchor | readable
      · cases anchor
      · exact readable
  | filter formula =>
      rcases readable with anchor | readable
      · cases anchor
      · exact ⟨_, parse_text_of_isReadable readable⟩
  | _ => trivial

theorem wellFormed_flattenFragments {trees : List (Fragment Formula)} (readable : areReadable trees) :
    ∀ fragment ∈ flattenFragments trees, fragment.WellFormed ∧ fragment.isAnchor = false := by
  induction trees with
  | nil =>
      intro fragment member
      cases member
  | cons tree trees ih =>
      intro fragment member
      rw [areReadable] at readable
      rw [flattenFragments] at member
      rcases List.mem_cons.1 member with rfl | later
      · refine ⟨wellFormed_flatten (.inr readable.1), ?_⟩
        cases tree <;> first | rfl | exact readable.1.elim
      · exact ih readable.2 fragment later

/-- A path that was read is well formed. -/
theorem wellFormed_of_parse {text : String} {path : Path} (parsed : Path.parse text = .ok path) :
    path.WellFormed := by
  rw [Path.parse, Path.parseFrom, mapError_eq_ok, readWholePath] at parsed
  rcases bind_eq_ok.1 parsed with ⟨⟨read, rest⟩, found, parsed⟩
  have same : read = path := by
    cases rest with
    | nil => exact Except.ok.inj parsed
    | cons c rest => cases parsed
  rcases same with rfl
  rcases ((legible _).path found).1 with ⟨trees, readable, same⟩
  rw [Path.WellFormed, ← same]
  cases trees with
  | nil =>
      constructor
      · intro fragment member
        cases member
      · intro fragment member
        cases member
  | cons head trees =>
      rw [arePathReadable] at readable
      have others := wellFormed_flattenFragments readable.2
      rw [flattenFragments]
      constructor
      · intro fragment member
        rcases List.mem_cons.1 member with rfl | later
        · exact wellFormed_flatten readable.1
        · exact (others fragment later).1
      · intro fragment member
        exact (others fragment member).2

/--
Writing and reading are inverse: a well-formed path is read back from its text, a script that was read is read back from
its own, and whatever is read as a path is well formed.
-/
theorem parse_text :
    (∀ path : Path, path.WellFormed → Path.parse path.text = .ok path) ∧
      (∀ (text : String) (script : Script), Script.parse text = .ok script →
        Script.parse script.text = .ok script) ∧
      ∀ (text : String) (path : Path), Path.parse text = .ok path → path.WellFormed := by
  refine ⟨fun path => parse_text_of_wellFormed, ?_, fun text path => wellFormed_of_parse⟩
  intro text script parsed
  rcases exists_formula_of_parse parsed with ⟨formula, readable, rfl⟩
  exact parse_text_of_isReadable readable

end RoundTrips

/-- An operator that does not commute, a function that gathers, and a filter with a formula of its own. -/
def sampleFormula : Formula :=
  .binary .subtract (.literal (.integer 2))
    (.unary .count (.path [.current, .child "a", .filter
      (.unary .not (.binary .less (.path [.current]) (.path [.root, .child "b c"])))]))

theorem sampleFormula_isReadable : sampleFormula.IsReadable := by
  simp [sampleFormula, Formula.IsReadable, areReadable, isReadable, Value.IsLiteral, Operator.arity,
    Operator.compiles, Fragment.isAnchor]

/-- A path with a fragment of every kind that brackets hold. -/
def samplePath : Path where
  fragments := [.current, .union [.key "it's", .index (-3)], .descent, .descent, .wildcard,
    .slice (some 1) none (some (-2)), .nth 4, .child "b c", .filter sampleFormula.equation.script]

theorem parse_text_sample :
    samplePath.WellFormed ∧ Path.parse samplePath.text = .ok samplePath ∧
      Script.parse sampleFormula.equation.script.text = .ok sampleFormula.equation.script := by
  have script := parse_text_of_isReadable sampleFormula_isReadable
  have wellFormed : samplePath.WellFormed :=
    ⟨by simpa [samplePath, Fragment.WellFormed] using Fragment.filter_wellFormed sampleFormula_isReadable,
      by simp [samplePath, Fragment.isAnchor]⟩
  exact ⟨wellFormed, parse_text.1 samplePath wellFormed, parse_text.2.1 _ _ script⟩

end TreePath

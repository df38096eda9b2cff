import TreePath.Proofs.Script.Formula

/-!
# What reading yields

Whatever text is read, the equations and fragments that come of it belong to readable formulas. The readers call each
other with a smaller budget, so `Legible` collects what is claimed of all of them at one budget, and each reader
is treated on its own in the step from one budget to the next.
-/

namespace TreePath

/-! ## Numbers and operators -/

theorem isFinite_of_floatOf? {negative : Bool} {whole fraction : List Char}
    {exponent : Option (Bool × List Char)} {x : Binary64}
    (read : floatOf? negative whole fraction exponent = some x) : x.isFinite = true := by
  unfold floatOf? at read
  simp only at read
  split at read
  · simp at read
  · split at read
    · rename_i isFinite
      rcases Option.some.inj read with rfl
      exact (Bool.and_eq_true _ _ ▸ isFinite).2
    · simp at read

theorem isFinite_of_readNumeric {text rest : List Char} {x : Binary64}
    (read : readNumeric text = .ok (.float x, rest)) : x.isFinite = true := by
  unfold readNumeric at read
  simp only at read
  split at read
  · rename_i number found
    rcases Prod.mk.inj (Except.ok.inj read) with ⟨rfl, -⟩
    split at found
    · simp at found
    · rcases Option.map_eq_some_iff.1 found with ⟨y, floats, same⟩
      rcases Numeric.float.inj same with rfl
      exact isFinite_of_floatOf? floats
  · simp at read

/-- Whether an operator is written between its operands. -/
def Operator.isInfix (operator : Operator) : Bool :=
  operator.arity == 2 && !operator.isFunction

theorem Operator.isInfix_iff (operator : Operator) :
    operator.isInfix = true ↔ operator.arity = 2 ∧ operator.isFunction = false := by
  simp [isInfix]

theorem isInfix_of_word? {word : String} {operator : Operator} (found : Operator.word? word = some operator) :
    operator.isInfix = true := by
  unfold Operator.word? at found
  repeat' split at found
  all_goals cases found <;> rfl

theorem isInfix_of_readOperator {text rest : List Char} {operator : Operator}
    (read : readOperator text = .ok (some (operator, rest))) : operator.isInfix = true := by
  unfold readOperator at read
  simp only at read
  split at read
  · simp at read
  · split at read
    · rcases bind_eq_ok.1 read with ⟨⟨token, left⟩, -, read⟩
      rcases Option.map_eq_some_iff.1 (Except.ok.inj read) with ⟨found, means, same⟩
      rcases Prod.mk.inj same with ⟨rfl, -⟩
      cases token
      case word word => exact isInfix_of_word? means
      all_goals cases means <;> rfl
    · simp at read

theorem isFunction_of_function? {word : String} {operator : Operator}
    (found : Operator.function? word = some operator) : operator.isFunction = true := by
  unfold Operator.function? at found
  repeat' split at found
  all_goals cases found <;> rfl

/-! ## Parts without scripts -/

/-- Whether a fragment is a wildcard or a name. -/
def Fragment.isBare {Test : Type} : Fragment Test → Bool
  | wildcard | child _ => true
  | _ => false

variable [RegexSyntax]

theorem isBare_of_readBare? {text rest : List Char} {fragment : Fragment Script}
    (read : readBare? text = some (fragment, rest)) : fragment.isBare = true := by
  unfold readBare? at read
  split at read
  · rcases Prod.mk.inj (Option.some.inj read) with ⟨rfl, rfl⟩
    rfl
  · simp only at read
    split at read
    · simp at read
    · rcases Prod.mk.inj (Option.some.inj read) with ⟨rfl, rfl⟩
      rfl

theorem isBare_of_readAfterPoint {text rest : List Char} {fragment : Fragment Script}
    (read : readAfterPoint text = .ok (fragment, rest)) : fragment.isBare = true := by
  unfold readAfterPoint at read
  split at read
  · rename_i found
    rcases Except.ok.inj read with rfl
    exact isBare_of_readBare? found
  · simp at read
  · simp at read

theorem slice_of_readSlice {start : Option Int64} {text rest : List Char} {fragment : Fragment Script}
    (read : readSlice start text = .ok (fragment, rest)) :
    ∃ stop step, fragment = .slice start stop step := by
  unfold readSlice at read
  rcases bind_eq_ok.1 read with ⟨⟨stop, afterStop⟩, -, read⟩
  simp only at read
  split at read
  all_goals
    rcases bind_eq_ok.1 read with ⟨⟨step, afterStep⟩, -, read⟩
    refine ⟨stop, step, ?_⟩
    simp only at read
    split at read
    · exact (Prod.mk.inj (Except.ok.inj read)).1.symm
    · split at read
      · exact (Prod.mk.inj (Except.ok.inj read)).1.symm
      · simp at read

theorem union_of_readUnion {first : Selector} {text rest : List Char} {fragment : Fragment Script}
    (read : readUnion first (',' :: text) = .ok (fragment, rest)) :
    ∃ second selectors, fragment = .union (first :: second :: selectors) := by
  unfold readUnion at read
  rcases map_eq_ok.1 read with ⟨⟨selectors, afterSelectors⟩, read, same⟩
  rw [readSelectors] at read
  rcases bind_eq_ok.1 read with ⟨⟨second, afterSecond⟩, -, read⟩
  rcases bind_eq_ok.1 read with ⟨⟨others, afterOthers⟩, -, read⟩
  rcases Prod.mk.inj (Except.ok.inj read) with ⟨rfl, rfl⟩
  exact ⟨second, others, (Prod.mk.inj same).1.symm⟩

/-! ## Literals and patterns -/

/-- Whether an equation belongs to a readable formula. -/
def Equation.IsLegible (equation : Equation) : Prop :=
  ∃ formula : Formula, formula.IsReadable ∧ formula.equation = equation

theorem Pattern.ofSource?_eq_some {source : String} {anchored slashed : Bool} {pattern : Pattern} :
    Pattern.ofSource? source anchored slashed = some pattern ↔
      pattern.source = source ∧ pattern.anchored = anchored ∧ pattern.slashed = slashed := by
  constructor
  · intro made
    unfold ofSource? at made
    split at made
    · rcases Option.some.inj made with rfl
      exact ⟨rfl, rfl, rfl⟩
    · simp at made
  · rintro ⟨rfl, rfl, rfl⟩
    unfold ofSource?
    split
    · exact congrArg some (Pattern.ext rfl rfl rfl)
    · rename_i failed
      rw [pattern.compiled] at failed
      simp at failed

theorem isLegible_of_readPattern {text rest : List Char} {equation : Equation}
    (read : readPattern text = .ok (equation, rest)) : equation.IsLegible := by
  unfold readPattern at read
  rcases bind_eq_ok.1 read with ⟨⟨source, afterSource⟩, slashed, read⟩
  simp only at read
  split at read
  · rename_i pattern made
    rcases Prod.mk.inj (Except.ok.inj read) with ⟨rfl, -⟩
    rcases Pattern.ofSource?_eq_some.1 made with ⟨source_eq, anchored_eq, slashed_eq⟩
    refine ⟨.pattern pattern, ?_, rfl⟩
    rw [Formula.IsReadable]
    refine ⟨slashed_eq, anchored_eq, ?_, ?_⟩
    · intro _
      rw [source_eq, String.toList_ofList]
      exact isSlashable_of_readSlashed slashed
    · intro _
      have compiled := pattern.compiled
      rw [anchored_eq] at compiled
      rw [compiled]
      rfl
  · simp at read

theorem isLegible_of_readNumericOperand {text rest : List Char} {equation : Equation}
    (read : readNumericOperand text = .ok (equation, rest)) : equation.IsLegible := by
  unfold readNumericOperand at read
  split at read
  · rename_i n left found
    rcases Prod.mk.inj (Except.ok.inj read) with ⟨rfl, -⟩
    exact ⟨.literal (.integer n), by simp [Formula.IsReadable, Value.IsLiteral], rfl⟩
  · rename_i x left found
    rcases Prod.mk.inj (Except.ok.inj read) with ⟨rfl, -⟩
    refine ⟨.literal (.float x), ?_, rfl⟩
    rw [Formula.IsReadable]
    exact isFinite_of_readNumeric found
  · simp at read

theorem isLegible_of_wordOperand? {word : String} {operand : Operand}
    (found : wordOperand? word = some operand) : (Equation.operand operand).IsLegible := by
  unfold wordOperand? at found
  repeat' split at found
  · rcases Option.some.inj found with rfl
    exact ⟨.literal (.boolean true), by simp [Formula.IsReadable, Value.IsLiteral], rfl⟩
  · rcases Option.some.inj found with rfl
    exact ⟨.literal (.boolean false), by simp [Formula.IsReadable, Value.IsLiteral], rfl⟩
  · rcases Option.some.inj found with rfl
    exact ⟨.literal .null, by simp [Formula.IsReadable, Value.IsLiteral], rfl⟩
  · rcases Option.some.inj found with rfl
    exact ⟨.nothing, by simp [Formula.IsReadable], rfl⟩
  · simp at found

/-- A literal on the right of an operator is compiled to a readable pattern, and all else is left as it is. -/
theorem formula_of_compileLiteral {anchored : Bool} {start : List Char} {right compiled : Equation}
    (legible : right.IsLegible) (compiles : compileLiteral anchored start right = .ok compiled) :
    ∃ formula : Formula, formula.equation = compiled ∧
      ((∃ pattern, formula = .pattern pattern ∧ pattern.IsReadable anchored) ∨
        (formula.isSource = false ∧ formula.IsReadable)) := by
  rcases legible with ⟨formula, readable, rfl⟩
  by_cases source : formula.isSource = true
  · cases formula with
    | pattern pattern =>
        rw [Formula.IsReadable] at readable
        simp only [Formula.equation, compileLiteral] at compiles
        split at compiles
        · rename_i made found
          rcases Pattern.ofSource?_eq_some.1 found with ⟨source_eq, anchored_eq, slashed_eq⟩
          refine ⟨.pattern made, Except.ok.inj compiles, .inl ⟨made, rfl, anchored_eq, ?_, ?_⟩⟩
          · intro _
            rw [source_eq]
            exact readable.2.slashable readable.1
          · intro _
            rw [source_eq]
            exact readable.2.compiles readable.1
        · simp at compiles
    | literal value =>
        cases value with
        | string text =>
            simp only [Formula.equation, compileLiteral] at compiles
            split at compiles
            · rename_i made found
              rcases Pattern.ofSource?_eq_some.1 found with ⟨-, anchored_eq, slashed_eq⟩
              refine ⟨.pattern made, Except.ok.inj compiles, .inl ⟨made, rfl, anchored_eq, ?_, ?_⟩⟩ <;>
                simp [slashed_eq]
            · simp at compiles
        | _ => simp [Formula.isSource] at source
    | _ => simp [Formula.isSource] at source
  · rw [Bool.not_eq_true] at source
    refine ⟨formula, ?_, .inr ⟨source, readable⟩⟩
    cases formula with
    | pattern pattern => simp [Formula.isSource] at source
    | literal value =>
        cases value with
        | string text => simp [Formula.isSource] at source
        | _ => exact Except.ok.inj compiles
    | _ => exact Except.ok.inj compiles

/-! ## Brackets -/

/-- All ways in which a bracket is read, by the character with which it begins and the mark behind a name or an integer. -/
inductive ReadsBracket (budget : Nat) (text : List Char) : Fragment Script → List Char → Prop
  | key {c : Char} {inner name left : List Char} (opened : skipBlanks text = c :: inner) (isQuote : c = '\'' ∨ c = '"')
      (readName : readQuoted c (c :: inner) = .ok (name, left)) :
      ReadsBracket budget text (.child (String.ofList name)) (skipBlanks left)
  | keys {c : Char} {inner name left others rest : List Char} {fragment : Fragment Script}
      (opened : skipBlanks text = c :: inner) (isQuote : c = '\'' ∨ c = '"')
      (readName : readQuoted c (c :: inner) = .ok (name, left)) (goesOn : skipBlanks left = ',' :: others)
      (readOthers : readUnion (.key (String.ofList name)) (',' :: others) = .ok (fragment, rest)) :
      ReadsBracket budget text fragment rest
  | wildcard {rest : List Char} (opened : skipBlanks text = '*' :: rest) : ReadsBracket budget text .wildcard rest
  | filter {inner rest : List Char} {equation : Equation} (opened : skipBlanks text = '?' :: inner)
      (readScript : readEquation budget Operator.loosest inner = .ok (equation, rest)) :
      ReadsBracket budget text (.filter equation.script) rest
  | slice {inner rest : List Char} {fragment : Fragment Script} (opened : skipBlanks text = ':' :: inner)
      (readBounds : readSlice none inner = .ok (fragment, rest)) : ReadsBracket budget text fragment rest
  | index {c : Char} {inner left : List Char} {i : Int64} (opened : skipBlanks text = c :: inner)
      (readIndex : readInteger (c :: inner) = .ok (i, left)) : ReadsBracket budget text (.nth i) (skipBlanks left)
  | bounds {c : Char} {inner left others rest : List Char} {i : Int64} {fragment : Fragment Script}
      (opened : skipBlanks text = c :: inner) (readIndex : readInteger (c :: inner) = .ok (i, left))
      (goesOn : skipBlanks left = ':' :: others) (readBounds : readSlice (some i) others = .ok (fragment, rest)) :
      ReadsBracket budget text fragment rest
  | indexes {c : Char} {inner left others rest : List Char} {i : Int64} {fragment : Fragment Script}
      (opened : skipBlanks text = c :: inner) (readIndex : readInteger (c :: inner) = .ok (i, left))
      (goesOn : skipBlanks left = ',' :: others)
      (readOthers : readUnion (.index i) (',' :: others) = .ok (fragment, rest)) : ReadsBracket budget text fragment rest

theorem readsBracket {budget : Nat} {start text rest : List Char} {fragment : Fragment Script}
    (read : readBracket (budget + 1) start text = .ok (fragment, rest)) : ReadsBracket budget text fragment rest := by
  rw [readBracket] at read
  cases opened : skipBlanks text with
  | nil =>
      rw [opened] at read
      cases read
  | cons c inner =>
      rw [opened] at read
      simp only at read
      split at read
      · cases read
      split at read
      · rename_i isQuote
        rcases bind_eq_ok.1 read with ⟨⟨name, left⟩, readName, read⟩
        simp only at read
        split at read
        · rename_i goesOn
          exact .keys opened isQuote readName goesOn read
        · rcases Prod.mk.inj (Except.ok.inj read) with ⟨rfl, rfl⟩
          exact .key opened isQuote readName
      split at read
      · rename_i isStar
        rcases Prod.mk.inj (Except.ok.inj read) with ⟨rfl, rfl⟩
        exact .wildcard (isStar ▸ opened)
      split at read
      · rename_i isScript
        rcases bind_eq_ok.1 read with ⟨⟨equation, left⟩, readScript, read⟩
        rcases Prod.mk.inj (Except.ok.inj read) with ⟨rfl, rfl⟩
        exact .filter (isScript ▸ opened) readScript
      split at read
      · rename_i isColon
        exact .slice (isColon ▸ opened) read
      split at read
      · rcases bind_eq_ok.1 read with ⟨⟨i, left⟩, readIndex, read⟩
        simp only at read
        split at read
        · rename_i goesOn
          exact .bounds opened readIndex goesOn read
        · rename_i goesOn
          exact .indexes opened readIndex goesOn read
        · rcases Prod.mk.inj (Except.ok.inj read) with ⟨rfl, rfl⟩
          exact .index opened readIndex
      · cases read

/-! ## Paths and scripts -/

/-- Whether the fragments of a path belong to readable ones. -/
def Path.IsLegible (path : Path) : Prop :=
  ∃ fragments : List (Fragment Formula), arePathReadable fragments ∧ flattenFragments fragments = path.fragments

/-- What is claimed of the readers at one budget. -/
structure Legible (budget : Nat) : Prop where
  path : ∀ {text rest : List Char} {path : Path}, readPath budget text = .ok (path, rest) →
    path.IsLegible ∧
      (text.head? = some '@' ∨ text.head? = some '$' → (Equation.operand (.path path)).IsLegible)
  fragments : ∀ {text rest : List Char} {fragments : List (Fragment Script)},
    readFragments budget text = .ok (fragments, rest) →
      ∃ trees : List (Fragment Formula), areReadable trees ∧ flattenFragments trees = fragments
  bracket : ∀ {start text rest : List Char} {fragment : Fragment Script},
    readBracket budget start text = .ok (fragment, rest) →
      ∃ tree : Fragment Formula, isReadable tree ∧ flattenFragment tree = fragment
  equation : ∀ {loosest : Nat} {text rest : List Char} {equation : Equation},
    readEquation budget loosest text = .ok (equation, rest) → equation.IsLegible
  operators : ∀ {loosest : Nat} {text rest : List Char} {left equation : Equation}, left.IsLegible →
    readOperators budget loosest left text = .ok (equation, rest) → equation.IsLegible
  operand : ∀ {text rest : List Char} {equation : Equation},
    readOperand budget text = .ok (equation, rest) → equation.IsLegible
  call : ∀ {function : Operator} {start text rest : List Char} {equation : Equation},
    function.isFunction = true → readCall budget function start text = .ok (equation, rest) →
      equation.IsLegible

theorem legible_zero : Legible 0 where
  path read := by simp [readPath] at read
  fragments read := by simp [readFragments] at read
  bracket read := by simp [readBracket] at read
  equation read := by simp [readEquation] at read
  operators _ read := by simp [readOperators] at read
  operand read := by simp [readOperand] at read
  call _ read := by simp [readCall] at read

/-- A wildcard or name is the same fragment whatever filters carry. -/
theorem tree_of_isBare {fragment : Fragment Script} (bare : fragment.isBare = true) :
    ∃ tree : Fragment Formula, isReadable tree ∧ flattenFragment tree = fragment := by
  cases fragment with
  | child name => exact ⟨.child name, trivial, rfl⟩
  | wildcard => exact ⟨.wildcard, trivial, rfl⟩
  | _ => simp [Fragment.isBare] at bare

theorem areReadable_cons {tree : Fragment Formula} {trees : List (Fragment Formula)} {fragment : Fragment Script}
    {fragments : List (Fragment Script)} (first : isReadable tree ∧ flattenFragment tree = fragment)
    (others : areReadable trees ∧ flattenFragments trees = fragments) :
    areReadable (tree :: trees) ∧ flattenFragments (tree :: trees) = fragment :: fragments :=
  ⟨⟨first.1, others.1⟩, by rw [flattenFragments, first.2, others.2]⟩

namespace Legible

variable {budget : Nat}

theorem fragments_succ (legible : Legible budget) {text rest : List Char} {fragments : List (Fragment Script)}
    (read : readFragments (budget + 1) text = .ok (fragments, rest)) :
    ∃ trees : List (Fragment Formula), areReadable trees ∧ flattenFragments trees = fragments := by
  unfold readFragments at read
  split at read
  · split at read
    · rename_i bare afterBare found
      rcases bind_eq_ok.1 read with ⟨⟨more, left⟩, readMore, read⟩
      rcases Prod.mk.inj (Except.ok.inj read) with ⟨rfl, -⟩
      rcases tree_of_isBare (isBare_of_readBare? found) with ⟨tree, isTree⟩
      rcases legible.fragments readMore with ⟨trees, areTrees⟩
      exact ⟨.descent :: tree :: trees,
        areReadable_cons ⟨trivial, rfl⟩ (areReadable_cons isTree areTrees)⟩
    · rcases bind_eq_ok.1 read with ⟨⟨more, left⟩, readMore, read⟩
      rcases Prod.mk.inj (Except.ok.inj read) with ⟨rfl, -⟩
      rcases legible.fragments readMore with ⟨trees, areTrees⟩
      exact ⟨.descent :: trees, areReadable_cons ⟨trivial, rfl⟩ areTrees⟩
  · rcases bind_eq_ok.1 read with ⟨⟨fragment, afterPoint⟩, found, read⟩
    rcases bind_eq_ok.1 read with ⟨⟨more, left⟩, readMore, read⟩
    rcases Prod.mk.inj (Except.ok.inj read) with ⟨rfl, -⟩
    rcases tree_of_isBare (isBare_of_readAfterPoint found) with ⟨tree, isTree⟩
    rcases legible.fragments readMore with ⟨trees, areTrees⟩
    exact ⟨tree :: trees, areReadable_cons isTree areTrees⟩
  · rcases bind_eq_ok.1 read with ⟨⟨fragment, inBracket⟩, found, read⟩
    rcases bind_eq_ok.1 read with ⟨afterBracket, -, read⟩
    rcases bind_eq_ok.1 read with ⟨⟨more, left⟩, readMore, read⟩
    rcases Prod.mk.inj (Except.ok.inj read) with ⟨rfl, -⟩
    rcases legible.bracket found with ⟨tree, isTree⟩
    rcases legible.fragments readMore with ⟨trees, areTrees⟩
    exact ⟨tree :: trees, areReadable_cons isTree areTrees⟩
  · rcases bind_eq_ok.1 read with ⟨⟨more, left⟩, readMore, read⟩
    rcases Prod.mk.inj (Except.ok.inj read) with ⟨rfl, -⟩
    rcases legible.fragments readMore with ⟨trees, areTrees⟩
    exact ⟨.wildcard :: trees, areReadable_cons ⟨trivial, rfl⟩ areTrees⟩
  · rcases Prod.mk.inj (Except.ok.inj read) with ⟨rfl, -⟩
    exact ⟨[], trivial, rfl⟩

theorem path_succ (legible : Legible budget) {text rest : List Char} {path : Path}
    (read : readPath (budget + 1) text = .ok (path, rest)) :
    path.IsLegible ∧
      (text.head? = some '@' ∨ text.head? = some '$' → (Equation.operand (.path path)).IsLegible) := by
  unfold readPath at read
  split at read
  · rename_i head afterHead found
    rcases bind_eq_ok.1 read with ⟨⟨fragments, left⟩, readMore, read⟩
    rcases Prod.mk.inj (Except.ok.inj read) with ⟨rfl, -⟩
    rcases legible.fragments readMore with ⟨trees, areTrees, rfl⟩
    unfold readHead? at found
    split at found
    · rcases Prod.mk.inj (Option.some.inj found) with ⟨rfl, -⟩
      refine ⟨⟨.root :: trees, ⟨.inl rfl, areTrees⟩, rfl⟩, fun _ => ⟨.path (.root :: trees), ?_, rfl⟩⟩
      rw [Formula.IsReadable]
      exact ⟨rfl, areTrees⟩
    · rcases Prod.mk.inj (Option.some.inj found) with ⟨rfl, -⟩
      refine ⟨⟨.current :: trees, ⟨.inl rfl, areTrees⟩, rfl⟩, fun _ => ?_⟩
      refine ⟨.path (.current :: trees), ?_, rfl⟩
      rw [Formula.IsReadable]
      exact ⟨rfl, areTrees⟩
    · rename_i notRoot notCurrent
      rcases tree_of_isBare (isBare_of_readBare? found) with ⟨tree, isTree⟩
      have readable := areReadable_cons isTree ⟨areTrees, rfl⟩
      refine ⟨⟨tree :: trees, ⟨.inr isTree.1, areTrees⟩, readable.2⟩, ?_⟩
      rintro (current | root)
      · rcases List.head?_eq_some_iff.1 current with ⟨more, rfl⟩
        exact absurd rfl (notCurrent more)
      · rcases List.head?_eq_some_iff.1 root with ⟨more, rfl⟩
        exact absurd rfl (notRoot more)
  · rename_i notFound
    rcases bind_eq_ok.1 read with ⟨⟨fragments, left⟩, readMore, read⟩
    rcases Prod.mk.inj (Except.ok.inj read) with ⟨rfl, -⟩
    rcases legible.fragments readMore with ⟨trees, areTrees, rfl⟩
    refine ⟨⟨trees, ?_, rfl⟩, ?_⟩
    · cases trees with
      | nil => trivial
      | cons tree trees => exact ⟨.inr areTrees.1, areTrees.2⟩
    · rintro (current | root)
      · rcases List.head?_eq_some_iff.1 current with ⟨more, rfl⟩
        simp [readHead?] at notFound
      · rcases List.head?_eq_some_iff.1 root with ⟨more, rfl⟩
        simp [readHead?] at notFound

theorem bracket_succ (legible : Legible budget) {start text rest : List Char} {fragment : Fragment Script}
    (read : readBracket (budget + 1) start text = .ok (fragment, rest)) :
    ∃ tree : Fragment Formula, isReadable tree ∧ flattenFragment tree = fragment := by
  have slice {first : Option Int64} {text : List Char} (readBounds : readSlice first text = .ok (fragment, rest)) :
      ∃ tree : Fragment Formula, isReadable tree ∧ flattenFragment tree = fragment := by
    rcases slice_of_readSlice readBounds with ⟨stop, step, rfl⟩
    exact ⟨.slice first stop step, trivial, rfl⟩
  have union {first : Selector} {text : List Char} (readOthers : readUnion first (',' :: text) = .ok (fragment, rest)) :
      ∃ tree : Fragment Formula, isReadable tree ∧ flattenFragment tree = fragment := by
    rcases union_of_readUnion readOthers with ⟨second, selectors, rfl⟩
    exact ⟨.union (first :: second :: selectors), by simp [isReadable], rfl⟩
  cases readsBracket read with
  | @key c inner name left opened isQuote readName => exact ⟨.child (String.ofList name), trivial, rfl⟩
  | keys opened isQuote readName goesOn readOthers => exact union readOthers
  | wildcard opened => exact ⟨.wildcard, trivial, rfl⟩
  | filter opened readScript =>
      rcases legible.equation readScript with ⟨formula, readable, rfl⟩
      exact ⟨.filter formula, readable, rfl⟩
  | slice opened readBounds => exact slice readBounds
  | @index c inner left i opened readIndex => exact ⟨.nth i, trivial, rfl⟩
  | bounds opened readIndex goesOn readBounds => exact slice readBounds
  | indexes opened readIndex goesOn readOthers => exact union readOthers

theorem equation_succ (legible : Legible budget) {loosest : Nat} {text rest : List Char} {equation : Equation}
    (read : readEquation (budget + 1) loosest text = .ok (equation, rest)) : equation.IsLegible := by
  rw [readEquation] at read
  rcases bind_eq_ok.1 read with ⟨⟨left, afterLeft⟩, readLeft, read⟩
  exact legible.operators (legible.operand readLeft) read

/-- An operator with readable operands is readable once its right operand has been compiled. -/
theorem isLegible_binary {operator : Operator} {left right compiled : Equation} {start : List Char}
    (binary : operator.arity = 2) (leftLegible : left.IsLegible) (rightLegible : right.IsLegible)
    (compiles : compileLiteral (decide (operator = .matchWhole)) start right = .ok compiled)
    (all : operator.compiles = true) : (Equation.binary operator left compiled).IsLegible := by
  rcases leftLegible with ⟨first, firstReadable, rfl⟩
  rcases formula_of_compileLiteral rightLegible compiles with ⟨second, rfl, secondReadable⟩
  refine ⟨.binary operator first second, ?_, rfl⟩
  rw [Formula.IsReadable]
  refine ⟨binary, firstReadable, ?_⟩
  rcases secondReadable with pattern | ⟨notSource, readable⟩
  · exact .inl ⟨all, pattern⟩
  · exact .inr ⟨fun _ => notSource, readable⟩

theorem operators_succ (legible : Legible budget) {loosest : Nat} {text rest : List Char}
    {left equation : Equation} (leftLegible : left.IsLegible)
    (read : readOperators (budget + 1) loosest left text = .ok (equation, rest)) : equation.IsLegible := by
  rw [readOperators] at read
  rcases bind_eq_ok.1 read with ⟨found, readOp, read⟩
  cases found with
  | none =>
      rcases Prod.mk.inj (Except.ok.inj read) with ⟨rfl, -⟩
      exact leftLegible
  | some found =>
      rcases found with ⟨operator, afterOperator⟩
      rcases operator.isInfix_iff.1 (isInfix_of_readOperator readOp) with ⟨binary, plain⟩
      simp only at read
      split at read
      · rcases Prod.mk.inj (Except.ok.inj read) with ⟨rfl, -⟩
        exact leftLegible
      · rcases bind_eq_ok.1 read with ⟨⟨right, afterRight⟩, readRight, read⟩
        have rightLegible := legible.equation readRight
        simp only at read
        split at read
        · rename_i finds
          subst finds
          rcases bind_eq_ok.1 read with ⟨compiled, compiles, read⟩
          exact legible.operators (isLegible_binary binary leftLegible rightLegible compiles rfl) read
        · rename_i other
          rw [ok_bind] at read
          refine legible.operators ?_ read
          rcases leftLegible with ⟨first, firstReadable, rfl⟩
          rcases rightLegible with ⟨second, secondReadable, rfl⟩
          refine ⟨.binary operator first second, ?_, rfl⟩
          rw [Formula.IsReadable]
          refine ⟨binary, firstReadable, .inr ⟨?_, secondReadable⟩⟩
          cases operator <;> simp [Operator.compiles, Operator.isFunction] at other plain ⊢

theorem operand_succ (legible : Legible budget) {text rest : List Char} {equation : Equation}
    (read : readOperand (budget + 1) text = .ok (equation, rest)) : equation.IsLegible := by
  unfold readOperand at read
  simp only at read
  -- The cases come in the order in which the reader tries the beginnings of an operand.
  split at read
  · cases read
  rename_i c more begins
  split at read
  · rename_i anchored
    rcases bind_eq_ok.1 read with ⟨⟨path, afterPath⟩, found, read⟩
    rcases Prod.mk.inj (Except.ok.inj read) with ⟨rfl, -⟩
    refine (legible.path found).2 ?_
    rw [begins]
    simpa using anchored
  split at read
  · rcases bind_eq_ok.1 read with ⟨⟨string, afterString⟩, -, read⟩
    rcases Prod.mk.inj (Except.ok.inj read) with ⟨rfl, -⟩
    refine ⟨.literal (.string (String.ofList string)), ?_, rfl⟩
    simp [Formula.IsReadable, Value.IsLiteral]
  split at read
  · exact isLegible_of_readPattern read
  split at read
  · rcases bind_eq_ok.1 read with ⟨⟨group, afterGroup⟩, found, read⟩
    rcases bind_eq_ok.1 read with ⟨afterParenthesis, -, read⟩
    rcases Prod.mk.inj (Except.ok.inj read) with ⟨rfl, -⟩
    exact legible.equation found
  split at read
  · rcases bind_eq_ok.1 read with ⟨⟨argument, afterArgument⟩, found, read⟩
    rcases Prod.mk.inj (Except.ok.inj read) with ⟨rfl, -⟩
    rcases legible.operand found with ⟨formula, readable, rfl⟩
    refine ⟨.unary .not formula, ?_, rfl⟩
    rw [Formula.IsReadable]
    exact ⟨rfl, readable⟩
  split at read
  · exact isLegible_of_readNumericOperand read
  split at read
  · split at read
    · rename_i found
      rcases Prod.mk.inj (Except.ok.inj read) with ⟨rfl, -⟩
      exact isLegible_of_wordOperand? found
    · rename_i found
      exact legible.call (isFunction_of_function? found) read
    · cases read
  · cases read

theorem call_succ (legible : Legible budget) {function : Operator} {start text rest : List Char}
    {equation : Equation} (isFunction : function.isFunction = true)
    (read : readCall (budget + 1) function start text = .ok (equation, rest)) : equation.IsLegible := by
  rw [readCall] at read
  rcases bind_eq_ok.1 read with ⟨afterParenthesis, -, read⟩
  rcases bind_eq_ok.1 read with ⟨⟨first, afterFirst⟩, readFirst, read⟩
  have firstLegible := legible.equation readFirst
  simp only at read
  split at read
  · rename_i unary
    rcases bind_eq_ok.1 read with ⟨afterCall, -, read⟩
    rcases Prod.mk.inj (Except.ok.inj read) with ⟨rfl, -⟩
    rcases firstLegible with ⟨formula, readable, rfl⟩
    refine ⟨.unary function formula, ?_, rfl⟩
    rw [Formula.IsReadable]
    exact ⟨unary, readable⟩
  · rename_i notUnary
    have binary : function.arity = 2 := by
      cases function <;> first | rfl | exact absurd rfl notUnary
    have compiling : function.compiles = true := by
      cases function <;> first | rfl | simp [Operator.arity, Operator.isFunction] at isFunction binary
    rcases bind_eq_ok.1 read with ⟨afterComma, -, read⟩
    rcases bind_eq_ok.1 read with ⟨⟨second, afterSecond⟩, readSecond, read⟩
    rcases bind_eq_ok.1 read with ⟨afterCall, -, read⟩
    rcases bind_eq_ok.1 read with ⟨compiled, compiles, read⟩
    rcases Prod.mk.inj (Except.ok.inj read) with ⟨rfl, -⟩
    exact isLegible_binary binary firstLegible (legible.equation readSecond) compiles compiling

end Legible

/-- At every budget the readers yield only what belongs to readable formulas. -/
theorem legible (budget : Nat) : Legible budget := by
  induction budget with
  | zero => exact legible_zero
  | succ budget ih =>
      exact ⟨ih.path_succ, ih.fragments_succ, ih.bracket_succ, ih.equation_succ, ih.operators_succ,
        ih.operand_succ, ih.call_succ⟩

end TreePath

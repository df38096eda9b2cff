import TreePath.Path.Basic
import TreePath.Reading.Quoted
import TreePath.Reading.Slashed
import TreePath.Script.Token

/-!
# Reading paths and scripts

A path may hold scripts in its filters and a script may hold paths as operands, so one group of readers reads
both. Scripts are read by precedence climbing: an operand, then every operator that binds tightly enough
together with its right operand. The readers carry a budget that bounds their nesting; each of them
consumes a character at least every third time, and the budget of a whole text is larger than that.
-/

namespace TreePath

variable [RegexSyntax]

/-! ## Parts without scripts -/

/-- A wildcard or a name without quotes. -/
def readBare? (text : List Char) : Option (Fragment Script × List Char) :=
  match text with
  | '*' :: rest => some (.wildcard, rest)
  | _ =>
    let name := text.takeWhile isNameCharacter
    if name.isEmpty then none else some (.child (String.ofList name), text.drop name.length)

/-- The first fragment of a path, which needs no point in front of it. -/
def readHead? (text : List Char) : Option (Fragment Script × List Char) :=
  match text with
  | '$' :: rest => some (.root, rest)
  | '@' :: rest => some (.current, rest)
  | _ => readBare? text

def readAfterPoint (text : List Char) : Except Fault (Fragment Script × List Char) :=
  match readBare? text, text with
  | some read, _ => .ok read
  | none, c :: _ => .error (Fault.here (.cannotStart c) text)
  | none, [] => .error (Fault.here .emptyFragment [])

def startsInteger (c : Char) : Bool :=
  c == '-' || isDigit c

/-- An optional bound of a slice, with blanks around it. -/
def readBound (text : List Char) : Except Fault (Option Int64 × List Char) := do
  let text := skipBlanks text
  match text with
  | c :: _ =>
    if startsInteger c then
      let (bound, rest) ← readInteger text
      .ok (some bound, skipBlanks rest)
    else .ok (none, text)
  | [] => .ok (none, [])

/-- The rest of a slice, after its first colon. -/
def readSlice (start : Option Int64) (text : List Char) : Except Fault (Fragment Script × List Char) := do
  let (stop, text) ← readBound text
  let (step, text) ← match text with
    | ':' :: rest => readBound rest
    | text => .ok (none, text)
  match text with
  | [] => .ok (.slice start stop step, [])
  | c :: rest =>
    if c = ']' then .ok (.slice start stop step, c :: rest)
    else .error (Fault.here .invalidSlice (c :: rest))

def readSelector (text : List Char) : Except Fault (Selector × List Char) :=
  match text with
  | [] => .error (Fault.here .invalidUnionEntry [])
  | c :: _ =>
    if c = '\'' ∨ c = '"' then
      (readQuoted c text).map fun (key, rest) => (.key (String.ofList key), rest)
    else if startsInteger c then (readInteger text).map fun (i, rest) => (.index i, rest)
    else .error (Fault.here .invalidUnionEntry text)

/-- The further entries of a union, each after a comma. The budget bounds their number. -/
def readSelectors : Nat → List Char → Except Fault (List Selector × List Char)
  | 0, text => .error (Fault.here .exhausted text)
  | budget + 1, text =>
    match text with
    | ',' :: rest => do
      let (selector, rest) ← readSelector (skipBlanks rest)
      let (selectors, rest) ← readSelectors budget (skipBlanks rest)
      .ok (selector :: selectors, rest)
    | _ => .ok ([], text)

/-- The rest of a union, from its first comma on. -/
def readUnion (first : Selector) (text : List Char) : Except Fault (Fragment Script × List Char) :=
  (readSelectors (text.length + 1) text).map fun (selectors, rest) => (.union (first :: selectors), rest)

/-- The closing bracket. `start` is the place of the opening one, where a missing end is reported. -/
def closeBracket (start text : List Char) : Except Fault (List Char) :=
  match skipBlanks text with
  | [] => .error ⟨.unclosedBracket, start, []⟩
  | c :: rest => if c = ']' then .ok rest else .error (Fault.here (.expected ']') (c :: rest))

/-- A character that has to come next, after blanks. -/
def expectChar (expected : Char) (text : List Char) : Except Fault (List Char) :=
  match skipBlanks text with
  | [] => .error (Fault.here (.expected expected) [])
  | c :: rest =>
    if c = expected then .ok rest else .error (Fault.here (.expected expected) (c :: rest))

/-- The next operator between operands, or nothing where the script or the group ends. -/
def readOperator (text : List Char) : Except Fault (Option (Operator × List Char)) := do
  let text := skipBlanks text
  match text with
  | [] => .ok none
  | c :: _ =>
    if "=!~<>&|+-*/".toList.contains c || isLetter c then
      let (token, rest) ← readToken text
      .ok (token.operator?.map (·, rest))
    else .ok none

/--
Compiles a literal right operand to a pattern. Other operands are compiled when the script is evaluated. A source
that is no regular expression is reported at `start`.
-/
def compileLiteral (anchored : Bool) (start : List Char) (equation : Equation) : Except Fault Equation :=
  let compiled (source : String) (slashed : Bool) : Except Fault Equation :=
    match Pattern.ofSource? source anchored slashed with
    | some pattern => .ok (.operand (.pattern pattern))
    | none => .error (Fault.here .invalidPattern start)
  match equation with
  | .operand (.pattern pattern) => compiled pattern.source pattern.slashed
  | .operand (.literal (.string source)) => compiled source false
  | other => .ok other

def readPattern (text : List Char) : Except Fault (Equation × List Char) := do
  let (source, rest) ← readSlashed text
  match Pattern.ofSource? (String.ofList source) false true with
  | some pattern => .ok (.operand (.pattern pattern), rest)
  | none => .error (Fault.here .invalidPattern text)

def wordOperand? (word : String) : Option Operand :=
  if word = "true" then some (.literal (.boolean true))
  else if word = "false" then some (.literal (.boolean false))
  else if word = "null" then some (.literal .null)
  else if word = "Nothing" then some .nothing
  else none

/-- Whether a number may begin at the first character. -/
def startsNumeric (text : List Char) : Bool :=
  match text with
  | '-' :: c :: _ => isDigit c
  | c :: _ => isDigit c
  | [] => false

def readNumericOperand (text : List Char) : Except Fault (Equation × List Char) :=
  match readNumeric text with
  | .ok (.integer n, rest) => .ok (.operand (.literal (.integer n)), rest)
  | .ok (.float x, rest) => .ok (.operand (.literal (.float x)), rest)
  | .error fault => .error fault

/-! ## Paths and scripts -/

mutual

/-- A path, up to the first character that cannot continue it. -/
def readPath : Nat → List Char → Except Fault (Path × List Char)
  | 0, text => .error (Fault.here .exhausted text)
  | budget + 1, text =>
    match readHead? text with
    | some (head, rest) => do
      let (fragments, rest) ← readFragments budget rest
      .ok (⟨head :: fragments⟩, rest)
    | none => do
      let (fragments, rest) ← readFragments budget text
      .ok (⟨fragments⟩, rest)

/-- Fragments, up to the first character that cannot begin one. -/
def readFragments : Nat → List Char → Except Fault (List (Fragment Script) × List Char)
  | 0, text => .error (Fault.here .exhausted text)
  | budget + 1, text =>
    match text with
    | '.' :: '.' :: rest =>
      match readBare? rest with
      | some (bare, rest) => do
        let (fragments, rest) ← readFragments budget rest
        .ok (.descent :: bare :: fragments, rest)
      | none => do
        let (fragments, rest) ← readFragments budget rest
        .ok (.descent :: fragments, rest)
    | '.' :: rest => do
      let (fragment, rest) ← readAfterPoint rest
      let (fragments, rest) ← readFragments budget rest
      .ok (fragment :: fragments, rest)
    | '[' :: rest => do
      let (fragment, rest) ← readBracket budget text rest
      let rest ← closeBracket text rest
      let (fragments, rest) ← readFragments budget rest
      .ok (fragment :: fragments, rest)
    | '*' :: rest => do
      let (fragments, rest) ← readFragments budget rest
      .ok (.wildcard :: fragments, rest)
    | _ => .ok ([], text)

/-- What a bracket holds, up to its closing bracket. `start` is the place of the opening bracket. -/
def readBracket : Nat → List Char → List Char → Except Fault (Fragment Script × List Char)
  | 0, _, text => .error (Fault.here .exhausted text)
  | budget + 1, start, text =>
    let text := skipBlanks text
    match text with
    | [] => .error ⟨.unclosedBracket, start, []⟩
    | c :: rest =>
      if c = ']' then .error ⟨.emptyFragment, start, text⟩
      else if c = '\'' ∨ c = '"' then do
        let (key, rest) ← readQuoted c text
        let key := String.ofList key
        match skipBlanks rest with
        | ',' :: rest => readUnion (.key key) (',' :: rest)
        | rest => .ok (.child key, rest)
      else if c = '*' then .ok (.wildcard, rest)
      else if c = '?' then do
        let (equation, rest) ← readEquation budget Operator.loosest rest
        .ok (.filter equation.script, rest)
      else if c = ':' then readSlice none rest
      else if startsInteger c then do
        let (i, rest) ← readInteger text
        match skipBlanks rest with
        | ':' :: rest => readSlice (some i) rest
        | ',' :: rest => readUnion (.index i) (',' :: rest)
        | rest => .ok (.nth i, rest)
      else .error (Fault.here (.cannotStart c) text)

/-- An operand and the operators after it that bind no looser than a precedence. -/
def readEquation : Nat → Nat → List Char → Except Fault (Equation × List Char)
  | 0, _, text => .error (Fault.here .exhausted text)
  | budget + 1, loosest, text => do
    let (left, rest) ← readOperand budget text
    readOperators budget loosest left rest

/-- Operators that bind no looser than a precedence, with their right operands, after a left operand. -/
def readOperators : Nat → Nat → Equation → List Char → Except Fault (Equation × List Char)
  | 0, _, _, text => .error (Fault.here .exhausted text)
  | budget + 1, loosest, left, text => do
    match ← readOperator text with
    | none => .ok (left, text)
    | some (operator, rest) =>
      if loosest < operator.precedence then .ok (left, text)
      else
        let (right, rest) ← readEquation budget (operator.precedence - 1) rest
        let right ← if operator = .finds then compileLiteral false text right else .ok right
        readOperators budget loosest (.binary operator left right) rest

def readOperand : Nat → List Char → Except Fault (Equation × List Char)
  | 0, text => .error (Fault.here .exhausted text)
  | budget + 1, text =>
    let text := skipBlanks text
    match text with
    | [] => .error (Fault.here .missingOperand [])
    | c :: rest =>
      if c = '@' ∨ c = '$' then do
        let (path, rest) ← readPath budget text
        .ok (.operand (.path path), rest)
      else if c = '\'' ∨ c = '"' then do
        let (string, rest) ← readQuoted c text
        .ok (.operand (.literal (.string (String.ofList string))), rest)
      else if c = '/' then readPattern text
      else if c = '(' then do
        let (group, rest) ← readEquation budget Operator.loosest rest
        let rest ← expectChar ')' rest
        .ok (group, rest)
      else if c = '!' ∧ rest.head? ≠ some '=' then do
        let (argument, rest) ← readOperand budget rest
        .ok (.unary .not argument, rest)
      else if startsNumeric text then readNumericOperand text
      else if isLetter c then
        let (word, rest) := splitWord text
        let word := String.ofList word
        match wordOperand? word, Operator.function? word with
        | some operand, _ => .ok (.operand operand, rest)
        | none, some function => readCall budget function text rest
        | none, none => .error ⟨.unknownWord, text, rest⟩
      else .error (Fault.here (.unexpected c) text)

/-- The arguments of a function, whose name stands at `start`. -/
def readCall : Nat → Operator → List Char → List Char → Except Fault (Equation × List Char)
  | 0, _, _, text => .error (Fault.here .exhausted text)
  | budget + 1, function, start, text => do
    let rest ← expectChar '(' text
    let (first, rest) ← readEquation budget Operator.loosest rest
    if function.arity = 1 then
      let rest ← expectChar ')' rest
      .ok (.unary function first, rest)
    else
      let rest ← expectChar ',' rest
      let (second, rest) ← readEquation budget Operator.loosest rest
      let rest ← expectChar ')' rest
      let second ← compileLiteral (decide (function = .matchWhole)) start second
      .ok (.binary function first second, rest)

end

/-! ## Whole texts -/

def readingBudget (text : List Char) : Nat :=
  4 * text.length + 8

def readWholePath (text : List Char) : Except Fault Path := do
  let (path, rest) ← readPath (readingBudget text) text
  match rest with
  | [] => .ok path
  | c :: _ => .error (Fault.here (if path.isEmpty then .cannotStart c else .trailingText) rest)

/-- Reads a script that is the whole text, with blanks after it. -/
def readWholeScript (text : List Char) : Except Fault Script := do
  let (equation, rest) ← readEquation (readingBudget text) Operator.loosest text
  match skipBlanks rest with
  | [] => .ok equation.script
  | c :: rest => .error (Fault.here .trailingText (c :: rest))

/-- The path that begins a number of characters into a text. The positions of errors count the whole text. -/
def Path.parseFrom (offset : Nat) (text : String) : Except SyntaxError Path :=
  let rest := text.toList.drop offset
  (readWholePath rest).mapError (SyntaxError.ofFault offset rest)

def Path.parse (text : String) : Except SyntaxError Path :=
  Path.parseFrom 0 text

/-- The script that begins a number of characters into a text. The positions of errors count the whole text. -/
def Script.parseFrom (offset : Nat) (text : String) : Except SyntaxError Script :=
  let rest := text.toList.drop offset
  (readWholeScript rest).mapError (SyntaxError.ofFault offset rest)

def Script.parse (text : String) : Except SyntaxError Script :=
  Script.parseFrom 0 text

/-- What is said of a text that was certain to be a path and is not. -/
def SyntaxError.invalidPath (error : SyntaxError) (text : String) : String :=
  "invalid path '" ++ text ++ "': " ++ error.message

/-- What is said of a text that was certain to be a script and is not. -/
def SyntaxError.invalidScript (error : SyntaxError) (text : String) : String :=
  "invalid script '" ++ text ++ "': " ++ error.message

end TreePath

import TreePath.Regex.Footprint
import TreePath.Regex.Modes
import TreePath.Regex.Pattern

/-!
# Reading regular expressions

The text of a regular expression: characters and escapes, sets that Unicode properties name, classes with nested classes and
set operations, groups, alternation, repetition (greedy or lazy), anchors, word boundaries, and the modes `i` (any case),
`m` (anchors at every line), `s` (a dot is any character), `R` (carriage returns end lines, too), `U` (lazy by default),
`u` (Unicode, the default) and `x` (spaced). A mode that is set without a colon holds until its group ends, across
alternatives. There is no look-around and there are no back-references: texts with those are no regular expressions. Neither
are texts that nest too deeply, nor those that would take too much room, nor those with sets beyond ASCII without the Unicode
mode.
-/

namespace TreePath

namespace Regex

/-- Something that is read, and how deeply it nests. -/
structure Nested (α : Type) where
  value : α
  depth : Nat

def depthLimit : Nat :=
  250

/-- The depth of some parts side by side. Parts form a level of their own if there are several. -/
def depthOf (depths : List Nat) : Nat :=
  depths.foldl max 0 + (if depths.length < 2 then 0 else 1)

/-! ## Escapes -/

/-- What an escape stands for. -/
inductive Escape where
  | literal (c : Char)
  | set (members : CharSet)
  | assertion (condition : Assertion)

/-- The character of a code point, if it is one. -/
def charOfCode? (code : Nat) : Option Char :=
  if code.isValidChar then some (Char.ofNat code) else none

/-- The character of a code point that is written in any number of hexadecimal digits. -/
def charOfDigits? (digits : List Char) : Option Char := do
  let code ← digits.foldlM (fun code digit => (hexValue? digit).map (16 * code + ·)) 0
  if digits.isEmpty then none else charOfCode? code

/-- The character of a code point that is written in a fixed number of digits. Without the Unicode mode two digits write
a byte, which is a character of its own only within ASCII. -/
def Modes.charOfCode? (modes : Modes) (width code : Nat) : Option Char :=
  if width = 2 ∧ modes.unicode = false ∧ 128 ≤ code then none else Regex.charOfCode? code

/-- A fixed number of hexadecimal digits, behind those with the given value. -/
def readDigits? (modes : Modes) : Nat → Nat → List Char → Option (Nat × List Char)
  | 0, value, text => some (value, text)
  | width + 1, value, text =>
    match modes.skip text with
    | [] => none
    | c :: text => do
      let digit ← hexValue? c
      readDigits? modes width (16 * value + digit) text

/-- The text up to a closing brace. -/
def readBraced? (modes : Modes) (text : List Char) : Option (List Char × List Char) :=
  match modes.span (· ≠ '}') text with
  | (inside, '}' :: rest) => some (inside, rest)
  | _ => none

/-- A code point in hexadecimal: a fixed number of digits, or any number of them in braces. -/
def readCode? (modes : Modes) (width : Nat) (text : List Char) : Option (Char × List Char) :=
  match modes.behind? '{' text with
  | some text => do
    let (digits, rest) ← readBraced? modes text
    (charOfDigits? digits).map fun c => (c, rest)
  | none => do
    let (code, rest) ← readDigits? modes width 0 text
    (modes.charOfCode? width code).map fun c => (c, rest)

/-- Whether a character may be escaped to stand for itself: ASCII marks, apart from the two word anchors. -/
def isEscapable (c : Char) : Bool :=
  c.toNat < 128 && !c.isAlpha && !isDigit c && c != '<' && c != '>'

/-- A word boundary, which may be narrowed down by a name in braces. -/
def readWordBoundary? (modes : Modes) : List Char → Option (WordCondition × List Char)
  | '{' :: text =>
    let (name, rest) := modes.span (fun c => c.isAlpha || c == '-') text
    if name.isEmpty then some (.boundary, '{' :: text)
    else match rest with
      | '}' :: rest =>
        if name = "start".toList then some (.start, rest)
        else if name = "end".toList then some (.finish, rest)
        else if name = "start-half".toList then some (.halfStart, rest)
        else if name = "end-half".toList then some (.halfFinish, rest)
        else none
      | _ => none
  | text => some (.boundary, text)

/-- The name of a property: any text in braces, or one letter. -/
def readPropertyName? (modes : Modes) (text : List Char) : Option (List Char × List Char) :=
  match modes.behind? '{' text with
  | some text => readBraced? modes text
  | none =>
    match modes.skip text with
    | [] => none
    | c :: rest => if c = '\\' then none else some ([c], rest)

/-- What the names of Unicode properties mean. -/
class UnicodeProperties where
  /-- The characters with the property that a text names, if it names one. -/
  find? (name : List Char) : Option CharSet

variable [UnicodeProperties]

/-- The characters with a property, or those without it. Properties go beyond ASCII. -/
def Modes.property? (modes : Modes) (negated : Bool) (name : List Char) : Option CharSet := do
  let members ← if modes.unicode then UnicodeProperties.find? name else none
  modes.signed? negated (modes.applied members)

def readProperty? (modes : Modes) (negated : Bool) (text : List Char) : Option (CharSet × List Char) := do
  let (name, rest) ← readPropertyName? modes text
  (modes.property? negated name).map fun members => (members, rest)

/-- An escape, after its backslash. -/
def readEscape? (modes : Modes) : List Char → Option (Escape × List Char)
  | [] => none
  | c :: text => match c with
    | 'd' => some (.set modes.digit, text)
    | 'D' => (modes.complement? modes.digit).map fun members => (.set members, text)
    | 's' => some (.set modes.space, text)
    | 'S' => (modes.complement? modes.space).map fun members => (.set members, text)
    | 'w' => some (.set modes.word, text)
    | 'W' => (modes.complement? modes.word).map fun members => (.set members, text)
    | 'p' => (readProperty? modes false text).map fun (members, rest) => (.set members, rest)
    | 'P' => (readProperty? modes true text).map fun (members, rest) => (.set members, rest)
    | 'a' => some (.literal '\x07', text)
    | 'f' => some (.literal '\x0c', text)
    | 't' => some (.literal '\t', text)
    | 'n' => some (.literal '\n', text)
    | 'r' => some (.literal '\r', text)
    | 'v' => some (.literal '\x0b', text)
    | 'x' => (readCode? modes 2 text).map fun (c, rest) => (.literal c, rest)
    | 'u' => (readCode? modes 4 text).map fun (c, rest) => (.literal c, rest)
    | 'U' => (readCode? modes 8 text).map fun (c, rest) => (.literal c, rest)
    | 'A' => some (.assertion .textStart, text)
    | 'z' => some (.assertion .textEnd, text)
    | 'b' => (readWordBoundary? modes text).map fun (condition, rest) =>
      (.assertion (.word condition modes.unicode), rest)
    | 'B' => some (.assertion (.word .noBoundary modes.unicode), text)
    | '<' => some (.assertion (.word .start modes.unicode), text)
    | '>' => some (.assertion (.word .finish modes.unicode), text)
    | c => if isEscapable c then some (.literal c, text) else none

/-! ## Classes -/

/-- The sets of ASCII characters that have a name. -/
def namedSet? (name : String) : Option CharSet :=
  let ranges (ranges : List (Char × Char)) : Option CharSet :=
    some (.ofRanges (ranges.map fun (first, last) => (first.toNat, last.toNat)))
  match name with
  | "alnum" => ranges [('0', '9'), ('A', 'Z'), ('a', 'z')]
  | "alpha" => ranges [('A', 'Z'), ('a', 'z')]
  | "ascii" => ranges [('\x00', '\x7f')]
  | "blank" => ranges [('\t', '\t'), (' ', ' ')]
  | "cntrl" => ranges [('\x00', '\x1f'), ('\x7f', '\x7f')]
  | "digit" => ranges [('0', '9')]
  | "graph" => ranges [('!', '~')]
  | "lower" => ranges [('a', 'z')]
  | "print" => ranges [(' ', '~')]
  | "punct" => ranges [('!', '/'), (':', '@'), ('[', '\x60'), ('\x7b', '~')]
  | "space" => ranges [('\t', '\r'), (' ', ' ')]
  | "upper" => ranges [('A', 'Z')]
  | "word" => ranges [('0', '9'), ('A', 'Z'), ('_', '_'), ('a', 'z')]
  | "xdigit" => ranges [('0', '9'), ('A', 'F'), ('a', 'f')]
  | _ => none

/-- Whether a caret comes first, which negates, and what is left. -/
def splitNegation : List Char → Bool × List Char
  | '^' :: text => (true, text)
  | text => (false, text)

/-- What is left behind the end of the name of a set, if it is followed by a bracket. -/
def behindName? (text : List Char) : Option (List Char) :=
  match text.dropWhile (· ≠ ':') with
  | ':' :: ']' :: rest => some rest
  | _ => none

/-- A named set within a class, after the opening bracket: `:name:]` or `:^name:]`. It may be negated. -/
def readNamedSet? : List Char → Option (Bool × CharSet × List Char)
  | ':' :: text => do
    let (negated, text) := splitNegation text
    let rest ← behindName? text
    let members ← namedSet? (String.ofList (text.takeWhile (· ≠ ':')))
    some (negated, members, rest)
  | _ => none

/-- One character or escape of a class. -/
def readMember? (modes : Modes) : List Char → Option (Escape × List Char)
  | [] => none
  | '\\' :: text => readEscape? modes text
  | c :: text => some (.literal c, text)

namespace Escape

/-- The range from one member of a class to another. -/
def rangeTo? (modes : Modes) : Escape → Escape → Option CharSet
  | literal first, literal last =>
    if modes.admits first && modes.admits last && decide (first ≤ last) then some (.range first last) else none
  | _, _ => none

/-- The set of a member of a class. -/
def members? (modes : Modes) : Escape → Option CharSet
  | literal c => if modes.admits c then some (.single c) else none
  | set members => some members
  | assertion _ => none

end Escape

/-- What is left behind a dash that makes a range. A dash before a bracket or another dash does not make one. -/
def behindDash? (modes : Modes) (text : List Char) : Option (List Char) := do
  let rest ← modes.behind? '-' text
  if modes.peek? rest = some ']' ∨ modes.peek? rest = some '-' then none else some rest

/-- One character, escape or range of a class. -/
def readRange? (modes : Modes) (text : List Char) : Option (CharSet × List Char) := do
  let (first, rest) ← readMember? modes text
  match behindDash? modes rest with
  | some behind =>
    let (last, rest) ← readMember? modes (modes.skip behind)
    (first.rangeTo? modes last).map fun members => (members, rest)
  | none => (first.members? modes).map fun members => (members, rest)

/-- The operations on sets. -/
inductive SetOperation where
  | intersection
  | difference
  | symmetricDifference

namespace SetOperation

def apply : SetOperation → CharSet → CharSet → CharSet
  | intersection => .intersection
  | difference => .difference
  | symmetricDifference => .symmetricDifference

end SetOperation

/-- A set operation, which is one mark written twice. -/
def readSetOperation? : List Char → Option (SetOperation × List Char)
  | '&' :: '&' :: text => some (.intersection, text)
  | '-' :: '-' :: text => some (.difference, text)
  | '~' :: '~' :: text => some (.symmetricDifference, text)
  | _ => none

/-- What is read of a class so far: the left side of the operation that is pending, if there is one, and the
members after it with the depth of each. -/
structure Members where
  pending : Option (SetOperation × Nested CharSet)
  set : CharSet
  depths : List Nat

namespace Members

def start : Members :=
  ⟨none, .empty, []⟩

def push (members : Members) (member : CharSet) (depth : Nat) : Members :=
  { members with set := members.set.union member, depths := depth :: members.depths }

/-- The members with the pending operation carried out. -/
def result (modes : Modes) (members : Members) : Nested CharSet :=
  let depth := depthOf members.depths
  match members.pending with
  | none => ⟨members.set, depth⟩
  | some (operation, left) =>
    ⟨operation.apply (modes.applied left.value) (modes.applied members.set), max left.depth depth + 1⟩

def next (modes : Modes) (operation : SetOperation) (members : Members) : Members :=
  ⟨some (operation, members.result modes), .empty, []⟩

end Members

/-- The members that are taken at the beginning of a class only: dashes, or else a closing bracket. -/
def firstMembers (modes : Modes) (text : List Char) : Members × List Char :=
  match modes.span (· == '-') text with
  | ([], ']' :: rest) => (Members.start.push (.single ']') 0, rest)
  | (dashes, rest) => (dashes.foldl (fun members dash => members.push (.single dash) 0) .start, rest)

/-- How a class begins: whether it is negated, and its first members. -/
def classStart (modes : Modes) (text : List Char) : Bool × Members × List Char :=
  let (negated, text) := splitNegation (modes.skip text)
  (negated, firstMembers modes text)

mutual

/-- A class, after its opening bracket. -/
def readClass? : Nat → Modes → List Char → Option (Nested CharSet × List Char)
  | 0, _, _ => none
  | budget + 1, modes, text => do
    let (negated, start, text) := classStart modes text
    let (members, rest) ← readMembers? budget modes start text
    let set ← modes.signed? negated (modes.applied members.value)
    some (⟨set, members.depth + 1⟩, rest)

/-- The members of a class up to its closing bracket. -/
def readMembers? : Nat → Modes → Members → List Char → Option (Nested CharSet × List Char)
  | 0, _, _, _ => none
  | budget + 1, modes, members, text =>
    match modes.skip text with
    | [] => none
    | c :: text =>
      if c = ']' then some (members.result modes, text)
      else if c = '[' then
        match readNamedSet? text with
        | some (negated, named, rest) => do
          let set ← modes.signed? negated (modes.applied named)
          readMembers? budget modes (members.push set 0) rest
        | none => do
          let (inner, rest) ← readClass? budget modes text
          readMembers? budget modes (members.push inner.value inner.depth) rest
      else match readSetOperation? (c :: text) with
        | some (operation, rest) => readMembers? budget modes (members.next modes operation) rest
        | none => do
          let (range, rest) ← readRange? modes (c :: text)
          readMembers? budget modes (members.push range 0) rest

end

/-! ## Repetitions -/

/-- A number of repetitions, with blanks around it. -/
def readCount? (modes : Modes) (text : List Char) : Option (Nat × List Char) :=
  let (digits, rest) := modes.span isDigit (skipBlanks text)
  let count := digitsValue digits
  if digits.isEmpty ∨ UInt32.size ≤ count then none else some (count, skipBlanks rest)

/-- The upper bound of a counted repetition, after the comma and up to the closing brace. There may be none. -/
def readMost? (modes : Modes) (text : List Char) : Option (Option Nat × List Char) :=
  match modes.behind? '}' text with
  | some rest => some (none, rest)
  | none =>
    match readCount? modes text with
    | some (most, '}' :: rest) => some (some most, rest)
    | _ => none

/-- The bounds of a counted repetition, after the opening brace. -/
def readBounds? (modes : Modes) (text : List Char) : Option (Nat × Option Nat × List Char) :=
  match readCount? modes text with
  | some (least, '}' :: rest) => some (least, some least, rest)
  | some (least, ',' :: text) => do
    let (most, rest) ← readMost? modes text
    if most.all (least ≤ ·) then some (least, most, rest) else none
  | _ => none

/-- The bounds that a repetition mark says. -/
def readMarkBounds? (modes : Modes) (mark : Char) (text : List Char) : Option (Nat × Option Nat × List Char) :=
  match mark with
  | '*' => some (0, none, text)
  | '+' => some (1, none, text)
  | '?' => some (0, some 1, text)
  | _ => readBounds? modes text

/-- Whether a mark for a lazy repetition follows, and what is left. Nothing is left out in front of it unless bounds were
counted. -/
def splitLazy (modes : Modes) (mark : Char) (text : List Char) : Bool × List Char :=
  if mark = '{' then
    match modes.behind? '?' text with
    | some rest => (true, rest)
    | none => (false, text)
  else
    match text with
    | '?' :: rest => (true, rest)
    | _ => (false, text)

/-- What a repetition mark says: the bounds, and whether a mark for a lazy repetition follows. -/
def readRepetition? (modes : Modes) (mark : Char) (text : List Char) :
    Option (Nat × Option Nat × Bool × List Char) := do
  let (least, most, rest) ← readMarkBounds? modes mark text
  some (least, most, splitLazy modes mark rest)

/-! ## Groups -/

/-- Modes as letters: those after a dash are taken away. No letter and no dash may come twice, and modes that change need
some letter. -/
def readModes? (modes : Modes) (adding : Bool) (seen : List Char) : List Char → Option (Modes × List Char)
  | [] => none
  | c :: text =>
    if c = ')' ∨ c = ':' then
      if seen.head? = some '-' ∨ seen.isEmpty ∧ c = ')' then none else some (modes, c :: text)
    else if seen.contains c then none
    else match c with
      | '-' => readModes? modes false (c :: seen) text
      | 'i' => readModes? { modes with anyCase := adding } adding (c :: seen) text
      | 'm' => readModes? { modes with multiLine := adding } adding (c :: seen) text
      | 's' => readModes? { modes with dotAll := adding } adding (c :: seen) text
      | 'R' => readModes? { modes with returns := adding } adding (c :: seen) text
      | 'U' => readModes? { modes with lazy := adding } adding (c :: seen) text
      | 'u' => readModes? { modes with unicode := adding } adding (c :: seen) text
      | 'x' => readModes? { modes with spaced := adding } adding (c :: seen) text
      | _ => none

def isGroupName : List Char → Bool
  | [] => false
  | first :: others => (first == '_' || isLetter first) &&
    others.all fun c => c == '_' || c == '.' || c == '[' || c == ']' || isAlphanumeric c

def readGroupName? (text : List Char) : Option (String × List Char) :=
  let name := text.takeWhile (· ≠ '>')
  match text.dropWhile (· ≠ '>') with
  | '>' :: rest => if isGroupName name then some (String.ofList name, rest) else none
  | _ => none

/-- How a group begins. -/
inductive GroupStart where
  /-- The modes change for the rest of the surrounding group. -/
  | modeChange (modes : Modes)
  /-- A group that does not capture. -/
  | plain (modes : Modes)
  /-- A group that captures. -/
  | capturing (name : Option String)

/-- What is left behind the mark in front of the name of a group. -/
def behindNameMark? : List Char → Option (List Char)
  | 'P' :: '<' :: text => some text
  | '<' :: text => some text
  | _ => none

/-- The beginning of a group, after its opening parenthesis. -/
def readGroupStart? (modes : Modes) : List Char → Option (GroupStart × List Char)
  | '?' :: text =>
    match behindNameMark? text with
    | some text => (readGroupName? text).map fun (name, rest) => (.capturing (some name), rest)
    | none => do
      let (changed, rest) ← readModes? modes true [] text
      match rest with
      | ':' :: rest => some (.plain changed, rest)
      | _ :: rest => some (.modeChange changed, rest)
      | [] => none
  | text => some (.capturing none, text)

/-- The capturing groups that have begun, last first, each with its name if it has one. -/
abbrev Groups : Type :=
  List (Option String)

/-- One more group, unless its name is taken. -/
def begin? (groups : Groups) (name : Option String) : Option Groups :=
  if name.isSome ∧ groups.contains name then none else some (name :: groups)

/-! ## Expressions -/

/-- What is read of a group so far, last first: the alternatives that have ended and the parts of the last one.
A change of modes is a part that cannot be repeated. -/
structure Alternatives where
  ended : List (Nested Regex)
  parts : List (Option (Nested Regex))

namespace Alternatives

def start : Alternatives :=
  ⟨[], []⟩

def last (alternatives : Alternatives) : Nested Regex :=
  let parts := alternatives.parts.reverse.map fun part => part.getD ⟨.empty, 0⟩
  ⟨ofParts (parts.map Nested.value), depthOf (parts.map Nested.depth)⟩

/-- All alternatives, the last one ended as well. -/
def regex (alternatives : Alternatives) : Nested Regex :=
  let all := (alternatives.last :: alternatives.ended).reverse
  ⟨ofAlternatives (all.map Nested.value), depthOf (all.map Nested.depth)⟩

/-- The last alternative ends and a new one begins. -/
def next (alternatives : Alternatives) : Alternatives :=
  ⟨alternatives.last :: alternatives.ended, []⟩

def push (alternatives : Alternatives) (regex : Regex) (depth : Nat) : Alternatives :=
  { alternatives with parts := some ⟨regex, depth⟩ :: alternatives.parts }

/-- A change of modes within the last alternative. -/
def pushModes (alternatives : Alternatives) : Alternatives :=
  { alternatives with parts := none :: alternatives.parts }

end Alternatives

/--
Reads the alternatives of a group up to its closing parenthesis or the end of the text, which is left to the
caller.
-/
def readAlternatives? : Nat → Modes → Groups → Alternatives → List Char →
    Option (Nested Regex × Groups × List Char)
  | 0, _, _, _, _ => none
  | budget + 1, modes, groups, read, text => match modes.skip text with
    | [] => some (read.regex, groups, [])
    | c :: text => match c with
      | ')' => some (read.regex, groups, c :: text)
      | '|' => readAlternatives? budget modes groups read.next text
      | '(' => do
        let (start, rest) ← readGroupStart? modes (modes.skip text)
        match start with
        | .modeChange changed => readAlternatives? budget changed groups read.pushModes rest
        | .plain inner =>
          let (body, groups, rest) ← readAlternatives? budget inner groups .start rest
          match rest with
          | ')' :: rest => readAlternatives? budget modes groups (read.push body.value (body.depth + 1)) rest
          | _ => none
        | .capturing name =>
          let number := groups.length
          let groups ← begin? groups name
          let (body, groups, rest) ← readAlternatives? budget modes groups .start rest
          match rest with
          | ')' :: rest =>
            readAlternatives? budget modes groups (read.push (.group number body.value) (body.depth + 1)) rest
          | _ => none
      | '[' => do
        let (members, rest) ← readClass? (text.length + 1) modes text
        readAlternatives? budget modes groups (read.push (ofSet members.value) members.depth) rest
      | '.' => do
        let members ← modes.dot?
        readAlternatives? budget modes groups (read.push (ofSet members) 0) text
      | '^' => readAlternatives? budget modes groups (read.push (.assertion modes.lineStart) 0) text
      | '$' => readAlternatives? budget modes groups (read.push (.assertion modes.lineEnd) 0) text
      | '\\' => do
        let (escape, rest) ← readEscape? modes text
        let part := match escape with
          | .literal c => modes.character c
          | .set members => ofSet members
          | .assertion condition => .assertion condition
        readAlternatives? budget modes groups (read.push part 0) rest
      | c =>
        if c = '*' ∨ c = '+' ∨ c = '?' ∨ c = '{' then
          match read.parts with
          | some body :: parts => do
            let (least, most, isMarked, rest) ← readRepetition? modes c text
            let regex := repeated body.value least most (isMarked == modes.lazy)
            readAlternatives? budget modes groups
              ({ read with parts := parts }.push regex (body.depth + 1)) rest
          | _ => none
        else readAlternatives? budget modes groups (read.push (modes.character c) 0) text

/-- The regular expression that a whole text writes, if it writes one. -/
def ofText? (text : List Char) : Option Regex :=
  match readAlternatives? (2 * text.length + 2) .initial [] .start text with
  | some (regex, _, []) =>
    if regex.depth ≤ depthLimit ∧ regex.value.fits then some regex.value else none
  | _ => none

instance : RegexSyntax where
  ofText? := ofText?

end Regex

end TreePath

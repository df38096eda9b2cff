import Mathlib.Algebra.Group.Nat.Even
import TreePath.Proofs.Reading.Delimited
import TreePath.Scanner

/-!
# Quotes and slashes within a text

A scanner that stands in front of a quoted text or of a source between slashes reads it back and stands behind its closing mark
afterwards, whatever comes before and after. Slashes in a source are escaped without a look at the backslashes in front of
them. That is right since no source that was read has a backslash that would take part in the escape: the runs of
backslashes in front of its slashes and at its end are even.
-/

namespace TreePath

namespace Scanner

/-- The scanner that stands between two parts of a text. -/
def between (before after : List Char) : Scanner :=
  ⟨before ++ after, before.length⟩

@[simp]
theorem rest_between (before after : List Char) : (between before after).rest = after :=
  List.drop_left

theorem leaving_between (before body rest : List Char) :
    (between before (body ++ rest)).leaving rest = between (before ++ body) rest := by
  simp only [leaving, rest_between]
  simp [between]

section Running

variable {α : Type} {reader : Reader α} {value : α} {body rest : List Char}

/-- A scanner runs a reader from where it stands and stops behind what the reader has taken. -/
theorem run_between (before : List Char) (read : reader (body ++ rest) = .ok (value, rest)) :
    (between before (body ++ rest)).run reader = (.ok value, between (before ++ body) rest) := by
  simp only [run, rest_between, read, leaving_between]

/-- In front of an opening mark the text does not end. -/
theorem runOpened_between (before : List Char) (opened : body ≠ []) (read : reader (body ++ rest) = .ok (value, rest)) :
    (between before (body ++ rest)).runOpened reader = (.ok value, between (before ++ body) rest) := by
  have notAtEnd : (between before (body ++ rest)).atEnd = false := by
    have characters := List.length_pos_iff.2 opened
    simp only [atEnd, between, List.length_append, decide_eq_false_iff_not]
    omega
  rw [runOpened, notAtEnd]
  exact run_between before read

end Running

end Scanner

/-! ## Quotes -/

/-- What is written in quotes tells where it ends. -/
theorem writeQuoted_append_inj {text other rest rest' : List Char} :
    writeQuoted text ++ rest = writeQuoted other ++ rest' ↔ text = other ∧ rest = rest' := by
  constructor
  · intro same
    have read := readQuoted_writeQuoted text rest
    rw [same, readQuoted_writeQuoted] at read
    rcases Prod.mk.inj (Except.ok.inj read) with ⟨rfl, rfl⟩
    exact ⟨rfl, rfl⟩
  · rintro ⟨rfl, rfl⟩
    rfl

/--
Quoted text delimits itself: a scanner in front of it reads the text back and stops at the first character after the closing
quote, so no other text has a quoted form that begins in the same way.
-/
theorem Scanner.quoted_writeQuoted (before text rest : List Char) :
    (between before (writeQuoted text ++ rest)).quoted '\'' = (.ok text, between (before ++ writeQuoted text) rest) ∧
      ∀ other rest' : List Char,
        writeQuoted text ++ rest = writeQuoted other ++ rest' ↔ text = other ∧ rest = rest' := by
  have opened : writeQuoted text ≠ [] := List.cons_ne_nil _ _
  exact ⟨runOpened_between before opened (readQuoted_writeQuoted text rest), fun _ _ => writeQuoted_append_inj⟩

/-! ## Slashes -/

/-- The number of backslashes at the end of a text. -/
def trailingBackslashes (text : List Char) : Nat :=
  (text.reverse.takeWhile (· == '\\')).length

theorem trailingBackslashes_le (text : List Char) : trailingBackslashes text ≤ text.length := by
  have le := (List.takeWhile_sublist (· == '\\') (l := text.reverse)).length_le
  rwa [List.length_reverse] at le

/-- A character in front counts if it is a backslash and no other characters follow it. -/
theorem trailingBackslashes_cons (c : Char) (text : List Char) :
    trailingBackslashes (c :: text) =
      if c = '\\' ∧ trailingBackslashes text = text.length then text.length + 1 else trailingBackslashes text := by
  by_cases backslash : c = '\\' <;> by_cases all : trailingBackslashes text = text.length <;>
    simp_all [trailingBackslashes, List.takeWhile_append]

theorem trailingBackslashes_cons_of_ne {c : Char} (plain : c ≠ '\\') (text : List Char) :
    trailingBackslashes (c :: text) = trailingBackslashes text := by
  rw [trailingBackslashes_cons, if_neg (fun both => plain both.1)]

/-- A backslash takes the character after it along: both count or none. -/
theorem even_trailingBackslashes_escape (c : Char) (text : List Char) :
    Even (trailingBackslashes ('\\' :: c :: text)) ↔ Even (trailingBackslashes text) := by
  have le := trailingBackslashes_le text
  simp only [trailingBackslashes_cons, List.length_cons, true_and]
  by_cases both : c = '\\' ∧ trailingBackslashes text = text.length
  · rw [if_pos both, if_pos rfl, both.2, Nat.even_add_one, Nat.even_add_one, not_not]
  · rw [if_neg both, if_neg (by omega)]

/-- The runs of backslashes in front of the slashes of a source, and the one at its end, are even. -/
structure HasEvenRuns (source : List Char) : Prop where
  beforeSlash : ∀ before after, source = before ++ '/' :: after → Even (trailingBackslashes before)
  atEnd : Even (trailingBackslashes source)

theorem hasEvenRuns_nil : HasEvenRuns [] where
  beforeSlash before after split := by simp at split
  atEnd := ⟨0, rfl⟩

theorem hasEvenRuns_cons {c : Char} (plain : c ≠ '\\') (source : List Char) :
    HasEvenRuns (c :: source) ↔ HasEvenRuns source := by
  constructor
  · intro even
    refine ⟨fun before after split => ?_, ?_⟩
    · have first := even.beforeSlash (c :: before) after (congrArg (c :: ·) split)
      rwa [trailingBackslashes_cons_of_ne plain] at first
    · rw [← trailingBackslashes_cons_of_ne plain]
      exact even.atEnd
  · intro even
    refine ⟨fun before after split => ?_, ?_⟩
    · match before with
      | [] => exact ⟨0, rfl⟩
      | _ :: others =>
        rcases List.cons.inj split with ⟨rfl, tails⟩
        rw [trailingBackslashes_cons_of_ne plain]
        exact even.beforeSlash others after tails
    · rw [trailingBackslashes_cons_of_ne plain]
      exact even.atEnd

theorem hasEvenRuns_escape {c : Char} {source : List Char} :
    HasEvenRuns ('\\' :: c :: source) ↔ c ≠ '/' ∧ HasEvenRuns source := by
  constructor
  · intro even
    refine ⟨?_, fun before after split => ?_, ?_⟩
    · rintro rfl
      exact absurd (even.beforeSlash ['\\'] source rfl) (by decide)
    · rw [← even_trailingBackslashes_escape c]
      exact even.beforeSlash ('\\' :: c :: before) after (by rw [split]; rfl)
    · exact (even_trailingBackslashes_escape c source).1 even.atEnd
  · rintro ⟨notSlash, even⟩
    refine ⟨fun before after split => ?_, ?_⟩
    · match before with
      | [] => exact ⟨0, rfl⟩
      | [_] => exact absurd (List.cons.inj (List.cons.inj split).2).1 notSlash
      | _ :: _ :: others =>
        rcases List.cons.inj split with ⟨isBackslash, tails⟩
        rcases List.cons.inj tails with ⟨rfl, behind⟩
        rw [← isBackslash, even_trailingBackslashes_escape]
        exact even.beforeSlash others after behind
    · rw [even_trailingBackslashes_escape]
      exact even.atEnd

/-- The sources that can stand between slashes are those with even runs of backslashes. -/
theorem isSlashable_iff_hasEvenRuns (source : List Char) : isSlashable source = true ↔ HasEvenRuns source := by
  induction source using isSlashable.induct with
  | case1 => exact iff_of_true rfl hasEvenRuns_nil
  | case2 => exact iff_of_false Bool.false_ne_true fun even => absurd even.atEnd (by decide)
  | case3 c source ih => rw [isSlashable_escape, hasEvenRuns_escape, ih]
  | case4 c source notLast notEscape ih =>
      have plain : c ≠ '\\' := by
        rintro rfl
        cases source with
        | nil => exact notLast rfl rfl
        | cons d source => exact notEscape d source rfl rfl
      rw [isSlashable_cons plain, hasEvenRuns_cons plain, ih]

namespace Scanner

/-- What a scanner reads between slashes is what the reader takes from the rest of the text. -/
theorem exists_readSlashed_of_slashed {scanner after : Scanner} {source : List Char}
    (read : scanner.slashed = (.ok source, after)) : ∃ left, readSlashed scanner.rest = .ok (source, left) := by
  have ran : (scanner.run readSlashed).1 = .ok source := by
    unfold slashed runOpened at read
    split at read
    · exact (Prod.mk.inj read).1
    · rw [read]
  unfold run at ran
  split at ran
  · rename_i value left found
    exact ⟨left, (Except.ok.inj ran) ▸ found⟩
  · cases ran

/--
The sources of patterns survive being written. A source can be read from some text if and only if the runs of backslashes in
front of its slashes and at its end are even. And just then a scanner in front of the source between slashes, with each of its
slashes escaped, reads it back and stops at the first character after the closing slash, whatever follows.
-/
theorem slashed_writeSlashed (source : List Char) :
    ((∃ scanner after : Scanner, scanner.slashed = (.ok source, after)) ↔ HasEvenRuns source) ∧
      (HasEvenRuns source ↔ ∀ before rest : List Char,
        (between before (writeSlashed source ++ rest)).slashed =
          (.ok source, between (before ++ writeSlashed source) rest)) := by
  have even (isRead : ∃ scanner after : Scanner, scanner.slashed = (.ok source, after)) : HasEvenRuns source := by
    rcases isRead with ⟨scanner, after, read⟩
    rcases exists_readSlashed_of_slashed read with ⟨left, found⟩
    exact (isSlashable_iff_hasEvenRuns source).1 (isSlashable_of_readSlashed found)
  have survives (even : HasEvenRuns source) (before rest : List Char) :
      (between before (writeSlashed source ++ rest)).slashed =
        (.ok source, between (before ++ writeSlashed source) rest) := by
    have slashable := (isSlashable_iff_hasEvenRuns source).2 even
    exact runOpened_between before (List.cons_ne_nil _ _) (readSlashed_writeSlashed slashable rest)
  exact ⟨⟨even, fun isEven => ⟨_, _, survives isEven [] []⟩⟩,
    ⟨survives, fun returns => even ⟨_, _, returns [] []⟩⟩⟩

/-- A pattern with an escaped slash behind two backslashes, and with two backslashes at its end. -/
theorem slashed_writeSlashed_backslashes :
    (ofText "/\\\\\\/a\\\\/ x").slashed = (.ok "\\\\/a\\\\".toList, ⟨"/\\\\\\/a\\\\/ x".toList, 9⟩) ∧
      HasEvenRuns "\\\\/a\\\\".toList ∧
      (between ['('] (writeSlashed "\\\\/a\\\\".toList ++ ['/', ')'])).slashed =
        (.ok "\\\\/a\\\\".toList, between (['('] ++ writeSlashed "\\\\/a\\\\".toList) ['/', ')']) := by
  have read : (ofText "/\\\\\\/a\\\\/ x").slashed =
      (.ok "\\\\/a\\\\".toList, ⟨"/\\\\\\/a\\\\/ x".toList, 9⟩) := by
    simp [slashed, runOpened, atEnd, ofText, run, rest, leaving, readSlashed, readSlashedBody, Except.map]
  have even := (slashed_writeSlashed _).1.1 ⟨_, _, read⟩
  exact ⟨read, even, (slashed_writeSlashed _).2.1 even _ _⟩

end Scanner

end TreePath

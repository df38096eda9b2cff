import TreePath.Reading.Quoted
import TreePath.Reading.Slashed

/-!
# Text between quotes and slashes

What is written between quotes or slashes is read back, and reading stops right behind the closing mark, whatever
follows there. Not every source can stand between slashes, since only slashes are escaped there: `isSlashable`
says which can, and reading yields no others.
-/

namespace TreePath

section Outcomes

variable {ε α β : Type}

theorem bind_eq_ok {first : Except ε α} {next : α → Except ε β} {result : β} :
    first >>= next = .ok result ↔ ∃ value, first = .ok value ∧ next value = .ok result := by
  cases first <;> simp [bind, Except.bind]

theorem map_eq_ok {first : Except ε α} {f : α → β} {result : β} :
    first.map f = .ok result ↔ ∃ value, first = .ok value ∧ f value = result := by
  cases first <;> simp [Except.map]

theorem mapError_eq_ok {η : Type} {outcome : Except ε α} {f : ε → η} {result : α} :
    outcome.mapError f = .ok result ↔ outcome = .ok result := by
  cases outcome with
  | ok value =>
      constructor
      · intro isOk
        rw [Except.ok.inj isOk]
      · intro isOk
        rw [Except.ok.inj isOk]
        rfl
  | error fault =>
      constructor
      · intro isOk
        cases isOk
      · intro isOk
        cases isOk

theorem ok_bind (value : α) (next : α → Except ε β) : (Except.ok value >>= next) = next value := rfl

end Outcomes

/-! ## Quotes -/

section Quotes

variable (start rest : List Char)

theorem readQuotedBody_quote (quote : Char) : readQuotedBody quote start (quote :: rest) = .ok ([], rest) := by
  rw [readQuotedBody.eq_def]
  exact if_pos rfl

theorem readQuotedBody_plain {quote c : Char} (notQuote : c ≠ quote) (notBackslash : c ≠ '\\') :
    readQuotedBody quote start (c :: rest) =
      (readQuotedBody quote start rest).map fun (text, rest) => (c :: text, rest) := by
  rw [readQuotedBody.eq_def]
  exact (if_neg notQuote).trans (if_neg notBackslash)

/-- One character is read back from how it is written. -/
theorem readQuotedBody_escapeQuoted (c : Char) :
    readQuotedBody '\'' start (escapeQuoted c ++ rest) =
      (readQuotedBody '\'' start rest).map fun (text, rest) => (c :: text, rest) := by
  by_cases special : c = '\'' ∨ c = '\\' ∨ c = '\n' ∨ c = '\t' ∨ c = '\r'
  · rcases special with rfl | rfl | rfl | rfl | rfl <;> rfl
  · simp only [not_or] at special
    have plain : escapeQuoted c = [c] := by
      simp only [escapeQuoted, special, if_false]
    rw [plain, List.singleton_append, readQuotedBody_plain start rest special.1 special.2.1]

theorem readQuotedBody_flatMap_escapeQuoted (text : List Char) :
    readQuotedBody '\'' start (text.flatMap escapeQuoted ++ '\'' :: rest) = .ok (text, rest) := by
  induction text with
  | nil => exact readQuotedBody_quote start rest '\''
  | cons c text ih =>
      rw [List.flatMap_cons, List.append_assoc, readQuotedBody_escapeQuoted, ih]
      rfl

end Quotes

/-- Quoted text is read back, up to its closing quote. -/
theorem readQuoted_writeQuoted (text rest : List Char) :
    readQuoted '\'' (writeQuoted text ++ rest) = .ok (text, rest) := by
  have written : writeQuoted text ++ rest = '\'' :: (text.flatMap escapeQuoted ++ '\'' :: rest) := by
    simp [writeQuoted]
  rw [readQuoted, written]
  exact readQuotedBody_flatMap_escapeQuoted _ rest text

/-! ## Slashes -/

/-- Whether a source can stand between slashes: no backslash is at its end or in front of a slash. -/
def isSlashable : List Char → Bool
  | [] => true
  | ['\\'] => false
  | '\\' :: c :: source => c != '/' && isSlashable source
  | _ :: source => isSlashable source

theorem isSlashable_cons {c : Char} (plain : c ≠ '\\') (source : List Char) :
    isSlashable (c :: source) = isSlashable source := by
  rw [isSlashable]
  · rintro rfl
    exact absurd rfl plain
  · rintro d rest rfl
    exact absurd rfl plain

theorem isSlashable_escape {c : Char} {source : List Char} :
    isSlashable ('\\' :: c :: source) = true ↔ c ≠ '/' ∧ isSlashable source = true := by
  rw [isSlashable, Bool.and_eq_true, bne_iff_ne]

section Slashes

variable (start rest : List Char)

theorem readSlashedBody_slash : readSlashedBody start ('/' :: rest) = .ok ([], rest) := by
  rw [readSlashedBody.eq_def]
  exact if_pos rfl

theorem readSlashedBody_escape (c : Char) :
    readSlashedBody start ('\\' :: c :: rest) =
      (readSlashedBody start rest).map fun (source, rest) =>
        (if c = '/' then '/' :: source else '\\' :: c :: source, rest) := by
  rw [readSlashedBody.eq_def]
  exact (if_neg (by decide)).trans (if_pos rfl)

theorem readSlashedBody_plain {c : Char} (notSlash : c ≠ '/') (notBackslash : c ≠ '\\') :
    readSlashedBody start (c :: rest) =
      (readSlashedBody start rest).map fun (source, rest) => (c :: source, rest) := by
  rw [readSlashedBody.eq_def]
  exact (if_neg notSlash).trans (if_neg notBackslash)

/-- How a character is written between slashes. -/
def escapeSlash (c : Char) : List Char :=
  if c = '/' then ['\\', '/'] else [c]

theorem escapeSlash_of_ne {c : Char} (notSlash : c ≠ '/') : escapeSlash c = [c] := if_neg notSlash

theorem readSlashedBody_flatMap_escapeSlash {source : List Char} (slashable : isSlashable source = true) :
    readSlashedBody start (source.flatMap escapeSlash ++ '/' :: rest) = .ok (source, rest) := by
  induction source using isSlashable.induct with
  | case1 => exact readSlashedBody_slash start rest
  | case2 => simp [isSlashable] at slashable
  | case3 c source ih =>
      rcases isSlashable_escape.1 slashable with ⟨notSlash, slashable⟩
      rw [List.flatMap_cons, List.flatMap_cons, escapeSlash_of_ne (by decide), escapeSlash_of_ne notSlash,
        List.singleton_append, List.singleton_append, List.cons_append, List.cons_append,
        readSlashedBody_escape, ih slashable]
      simp [Except.map, notSlash]
  | case4 c source notLast notEscape ih =>
      have plain : c ≠ '\\' := by
        rintro rfl
        cases source with
        | nil => exact notLast rfl rfl
        | cons d source => exact notEscape d source rfl rfl
      rw [isSlashable_cons plain] at slashable
      by_cases slash : c = '/'
      · subst slash
        rw [List.flatMap_cons, List.append_assoc, escapeSlash, if_pos rfl, List.cons_append,
          List.singleton_append, readSlashedBody_escape, ih slashable]
        rfl
      · rw [List.flatMap_cons, List.append_assoc, escapeSlash_of_ne slash, List.singleton_append,
          readSlashedBody_plain start _ slash plain, ih slashable, Except.map]

end Slashes

/-- A source that can stand between slashes is read back, up to its closing slash. -/
theorem readSlashed_writeSlashed {source : List Char} (slashable : isSlashable source = true)
    (rest : List Char) : readSlashed (writeSlashed source ++ rest) = .ok (source, rest) := by
  have written : writeSlashed source ++ rest = '/' :: (source.flatMap escapeSlash ++ '/' :: rest) := by
    show '/' :: source.flatMap escapeSlash ++ ['/'] ++ rest = _
    simp
  rw [readSlashed, written]
  exact readSlashedBody_flatMap_escapeSlash _ rest slashable

/-- Reading yields only sources that can stand between slashes. -/
theorem isSlashable_of_readSlashedBody {start text source rest : List Char}
    (read : readSlashedBody start text = .ok (source, rest)) : isSlashable source = true := by
  induction text using readSlashedBody.induct generalizing source rest with
  | case1 => simp [readSlashedBody] at read
  | case2 tail =>
      rw [readSlashedBody_slash] at read
      rcases Prod.mk.inj (Except.ok.inj read) with ⟨rfl, -⟩
      rfl
  | case3 => simp [readSlashedBody] at read
  | case4 escaped tail _ ih =>
      rw [readSlashedBody_escape] at read
      rcases map_eq_ok.1 read with ⟨⟨more, left⟩, found, same⟩
      rcases Prod.mk.inj same with ⟨rfl, -⟩
      by_cases slash : escaped = '/'
      · rw [if_pos slash, isSlashable_cons (by decide)]
        exact ih found
      · rw [if_neg slash]
        exact isSlashable_escape.2 ⟨slash, ih found⟩
  | case5 c tail notSlash notBackslash ih =>
      rw [readSlashedBody_plain _ _ notSlash notBackslash] at read
      rcases map_eq_ok.1 read with ⟨⟨more, left⟩, found, same⟩
      rcases Prod.mk.inj same with ⟨rfl, -⟩
      rw [isSlashable_cons notBackslash]
      exact ih found

theorem isSlashable_of_readSlashed {text source rest : List Char}
    (read : readSlashed text = .ok (source, rest)) : isSlashable source = true :=
  isSlashable_of_readSlashedBody read

end TreePath

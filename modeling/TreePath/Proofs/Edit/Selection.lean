import TreePath.Proofs.Edit.Targets

/-!
# Selection in changed documents

A location that is not within what was overwritten is picked afterwards just if it was picked before, since neither the
nodes on the way nor the child itself can tell the difference: `Overlay.isPicked_iff`. Once all gaps are filled, what
is picked are the targets of an edit: `isPicked_iff_isTarget`.
-/

namespace TreePath

namespace Step

variable {step : Step} {node other : Value} {segment : Segment}

/-- A picked child is still picked as long as the face of the node is the same, and the child is there if it was. -/
theorem mem_segments_mono (faces : node.face = other.face)
    (stays : (node.child? segment).isSome = true → (other.child? segment).isSome = true)
    (picked : segment ∈ step.segments node) : segment ∈ step.segments other := by
  by_cases naming : step.isNaming = true
  · rwa [← segments_face naming, ← faces, segments_face naming]
  · by_cases exists' : (node.child? segment).isSome = true
    · exact (mem_segments_congr faces (by rw [exists', stays exists'])).1 picked
    · cases step with
      | child name => exact absurd rfl naming
      | nth i => exact absurd rfl naming
      | union selectors => exact absurd rfl naming
      | wildcard => exact absurd (Value.mem_segments.1 picked) exists'
      | slice start stop step =>
          cases node <;> cases other <;> simp_all [Value.face, segments]
      | _ => cases picked

end Step

namespace Value

variable {document other : Value} {step : Step} {place child : Location}

theorem Picks.mono (picks : document.Picks step place child)
    (faces : (document.at? place).map face = (other.at? place).map face)
    (stays : (document.at? child).isSome = true → (other.at? child).isSome = true) : other.Picks step place child := by
  rcases picks with ⟨node, segment, found, isIn, rfl⟩
  rw [found] at faces
  rcases exists_of_face_eq faces with ⟨now, isNow, sameFace⟩
  rw [at?_concat, at?_concat, found, isNow] at stays
  exact ⟨now, segment, isNow, Step.mem_segments_mono sameFace.symm stays isIn, rfl⟩

end Value

namespace Overlay

variable {earlier later : Value} {places : Location → Prop} {result : Location → Option Value} {step : Step}
  {steps : List Step} {place child : Location}

theorem picks_iff (overlay : Overlay earlier later places result) (outside : ¬ Within places child) :
    later.Picks step place child ↔ earlier.Picks step place child := by
  have exists_iff := overlay.isSome_at?_eq outside
  have parent (picks : place <+: child) : (later.at? place).map Value.face = (earlier.at? place).map Value.face :=
    overlay.kept place fun within => outside (within.trans picks)
  have above {document : Value} (picks : document.Picks step place child) : place <+: child := by
    rcases picks with ⟨node, segment, -, -, rfl⟩
    exact List.prefix_append _ _
  constructor
  · intro picks
    exact picks.mono (parent (above picks)) (by rw [exists_iff]; exact id)
  · intro picks
    exact picks.mono (parent (above picks)).symm (by rw [exists_iff]; exact id)

theorem leads_iff (overlay : Overlay earlier later places result) (outside : ¬ Within places child) :
    later.Leads step place child ↔ earlier.Leads step place child := by
  have exists_iff := overlay.isSome_at?_eq outside
  cases step with
  | root => simp only [Value.Leads, exists_iff]
  | current => simp only [Value.Leads, exists_iff]
  | descent => simp only [Value.Leads, exists_iff]
  | _ => rw [Value.leads_iff rfl rfl, Value.leads_iff rfl rfl, exists_iff, overlay.picks_iff outside]

/-- Outside of what was overwritten, the same is picked in both documents. -/
theorem isPicked_iff (overlay : Overlay earlier later places result) (plain : ∀ step ∈ steps, step.isAnchor = false)
    (outside : ¬ Within places child) : later.IsPicked steps place child ↔ earlier.IsPicked steps place child := by
  induction steps generalizing place with
  | nil => exact Iff.rfl
  | cons step steps ih =>
      have plainRest : ∀ other ∈ steps, other.isAnchor = false := fun other isIn =>
        plain other (List.mem_cons_of_mem _ isIn)
      cases steps with
      | nil => exact overlay.picks_iff outside
      | cons next rest =>
          refine exists_congr fun mid => ?_
          rw [ih plainRest]
          refine and_congr_left fun picked => overlay.leads_iff ?_
          exact fun within => outside (within.trans (picked.below plainRest).2.1)

/-- Outside of what was overwritten, there are the same gaps in both documents. -/
theorem isGap_iff (overlay : Overlay earlier later places result) (plain : ∀ step ∈ steps, step.isAnchor = false)
    {gap : Location} (outside : ¬ Within places gap) :
    later.IsGap steps place gap ↔ earlier.IsGap steps place gap := by
  induction steps generalizing place with
  | nil => exact Iff.rfl
  | cons step steps ih =>
      have plainRest : ∀ other ∈ steps, other.isAnchor = false := fun other isIn =>
        plain other (List.mem_cons_of_mem _ isIn)
      match steps with
      | [] => exact Iff.rfl
      | [last] =>
          have vacant_iff : later.IsVacant gap ↔ earlier.IsVacant gap := by
            rw [Value.IsVacant, Value.IsVacant, ← Value.all_isNull_face, overlay.kept gap outside,
              Value.all_isNull_face]
          rw [Value.IsGap, Value.IsGap, overlay.picks_iff outside, vacant_iff]
      | next :: last :: rest =>
          refine exists_congr fun mid => ?_
          rw [ih plainRest]
          refine and_congr_left fun isGap => overlay.leads_iff ?_
          exact fun within => outside (within.trans (isGap.below plainRest).2)

end Overlay

/-! ## Once gaps are filled -/

namespace Value

variable {document prepared : Value} {step : Step} {steps : List Step} {place child : Location}

/-- In the end it is the last step that picks. -/
theorem IsPicked.exists_last (picked : document.IsPicked steps place child) :
    ∃ last parent, steps.getLast? = some last ∧ document.Picks last parent child := by
  induction steps generalizing place with
  | nil => exact picked.elim
  | cons step steps ih =>
      cases steps with
      | nil => exact ⟨step, place, rfl, picked⟩
      | cons next rest =>
          rcases picked with ⟨mid, -, picked⟩
          rcases ih picked with ⟨last, parent, isLast, picks⟩
          exact ⟨last, parent, by rwa [List.getLast?_cons_cons], picks⟩

/-- There is no container within a vacant place. -/
theorem not_within_of_isContainerAt {gaps : Location → Prop} (vacant : ∀ gap, gaps gap → document.IsVacant gap)
    {location : Location} (container : document.isContainerAt location = true) : ¬ Within gaps location := by
  rintro ⟨gap, isGap, above⟩
  have holds := isContainerAt_of_above above container
  rw [(vacant gap isGap).isContainerAt_eq_false] at holds
  cases holds

/-- What the last step picks in a container that fills a gap is picked then. -/
theorem IsGap.isPicked {gaps : Location → Prop} {result : Location → Option Value} {gap : Location} {container : Value}
    {last : Step} {segment : Segment} (filled : Overlay document prepared gaps result)
    (vacant : ∀ gap, gaps gap → document.IsVacant gap) (isFilled : prepared.at? gap = some container)
    (plain : ∀ step ∈ steps, step.isAnchor = false) (isGap : document.IsGap steps place gap)
    (isLast : steps.getLast? = some last) (isIn : segment ∈ last.segments container) :
    prepared.IsPicked steps place (gap ++ [segment]) := by
  induction steps generalizing place with
  | nil => exact isGap.elim
  | cons step steps ih =>
      have plainRest : ∀ other ∈ steps, other.isAnchor = false := fun other isIn =>
        plain other (List.mem_cons_of_mem _ isIn)
      match steps with
      | [] => exact isGap.elim
      | [other] =>
          rcases Option.some.inj isLast with rfl
          rcases isGap with ⟨naming, picks, -⟩
          have walks : step.isDescent = false := by
            cases step with
            | descent => cases naming
            | _ => rfl
          have faces := filled.kept place (not_within_of_isContainerAt vacant picks.isContainerAt)
          have isThere : (prepared.at? gap).isSome = true := by rw [isFilled]; rfl
          refine ⟨gap, (leads_iff (plain step List.mem_cons_self) walks).2 ⟨isThere, ?_⟩, ?_⟩
          · exact picks.mono faces.symm fun _ => isThere
          · exact ⟨container, segment, isFilled, isIn, rfl⟩
      | next :: other :: rest =>
          rcases isGap with ⟨mid, leads, isGap⟩
          refine ⟨mid, (filled.leads_iff ?_).2 leads, ih plainRest isGap ?_⟩
          · exact not_within_of_isContainerAt vacant (isGap.below plainRest).1
          · rwa [List.getLast?_cons_cons] at isLast

/-- Once the gaps are filled, what is picked are the targets of an edit. -/
theorem isPicked_iff_isTarget {filler : Option Value} {target : Location}
    (plain : ∀ step ∈ steps, step.isAnchor = false)
    (level : filler.isSome = true → ∀ step ∈ steps, step.isDescent = false)
    (filled : Overlay document prepared (fun gap => filler.isSome = true ∧ document.IsGap steps [] gap)
      fun _ => filler) :
    prepared.IsPicked steps [] target ↔ document.IsTarget filler steps [] target := by
  have vacant : ∀ gap, filler.isSome = true ∧ document.IsGap steps [] gap → document.IsVacant gap :=
    fun gap isGap => isGap.2.isVacant
  have stored {gap : Location} {container : Value} (isFiller : filler = some container)
      (isGap : document.IsGap steps [] gap) : prepared.at? gap = some container := by
    have isSome : filler.isSome = true := by rw [isFiller]; rfl
    rw [filled.stored gap ⟨⟨isSome, isGap⟩, ?_⟩, isFiller]
    intro other isOther above
    apply above.eq_of_length
    have := isGap.length_eq plain (level isSome)
    have := isOther.2.length_eq plain (level isSome)
    omega
  constructor
  · intro picked
    by_cases within : Within (fun gap => filler.isSome = true ∧ document.IsGap steps [] gap) target
    · rcases within with ⟨gap, ⟨isSome, isGap⟩, rest, rfl⟩
      rcases Option.isSome_iff_exists.1 isSome with ⟨container, isFiller⟩
      have deep := picked.length_eq plain (level isSome)
      have high := isGap.length_eq plain (level isSome)
      rw [List.length_append] at deep
      rcases List.length_eq_one_iff.1 (show rest.length = 1 by omega) with ⟨segment, rfl⟩
      rcases picked.exists_last with ⟨last, parent, isLast, node, other, found, isIn, same⟩
      rcases List.append_inj' same rfl with ⟨rfl, isSegment⟩
      rw [stored isFiller isGap] at found
      rcases Option.some.inj found with rfl
      rcases List.singleton_inj.1 isSegment with rfl
      exact .inr ⟨container, last, gap, segment, isFiller, isLast, isGap, isIn, rfl⟩
    · exact .inl ((filled.isPicked_iff plain within).1 picked)
  · rintro (picked | ⟨container, last, gap, segment, isFiller, isLast, isGap, isIn, rfl⟩)
    · refine (filled.isPicked_iff plain ?_).2 picked
      rcases picked.exists_last with ⟨last, parent, -, picks⟩
      have container := picks.isContainerAt
      rcases picks with ⟨node, segment, -, -, rfl⟩
      rintro ⟨gap, isGap, above⟩
      rcases List.prefix_concat_iff.1 above with rfl | above
      · have := isGap.2.length_eq plain (level isGap.1)
        have := picked.length_eq plain (level isGap.1)
        omega
      · exact not_within_of_isContainerAt vacant container ⟨gap, isGap, above⟩
    · exact isGap.isPicked filled vacant (stored isFiller isGap) plain isLast isIn

end Value

end TreePath

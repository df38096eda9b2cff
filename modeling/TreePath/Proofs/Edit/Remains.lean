import TreePath.Proofs.Edit.Once

/-!
# What is found in an edited document was there, or was put there

A deletion only removes: whatever stands in the document afterwards stood there before, apart from null in slots of arrays, and
every array keeps its length. A modification puts nothing but answers into the document: `Value.MadeOf` says this of a
document, an earlier one, and the calls in between. Containers are created by neither, since only setting values does so.
-/

namespace TreePath

namespace Value

/-- Values with one face are containers of the same kind, or equal. -/
theorem kind_eq_or_eq_of_face_eq {value old : Value} (faces : value.face = old.face) :
    value.isContainer = true ∧ value.kind = old.kind ∨ value.isContainer = false ∧ value = old := by
  cases value <;> cases old <;> simp_all [face, isContainer, kind]

theorem eq_null_of_face {value : Value} (faces : value.face = null) : value = null := by
  cases value <;> simp_all [face]

theorem length_eq_of_face_eq {items : List Value} {old : Value} (faces : (array items).face = old.face) :
    ∃ olds, old = array olds ∧ items.length = olds.length := by
  cases old with
  | array olds =>
      refine ⟨olds, rfl, ?_⟩
      simpa [face, size?] using congrArg size? faces
  | _ => simp [face] at faces

/-! ## Removing -/

/-- Whatever the later document holds stood there in the earlier one, or is null in the slot of an array. -/
def ShrunkTo (earlier later : Value) : Prop :=
  ∀ location value, later.at? location = some value → ∃ old, earlier.at? location = some old ∧
    (value.face = old.face ∨ value = null ∧ ∃ place i, location = place ++ [.index i])

namespace ShrunkTo

variable {earlier middle later : Value}

theorem refl (document : Value) : document.ShrunkTo document :=
  fun _ value found => ⟨value, found, .inl rfl⟩

theorem trans (first : earlier.ShrunkTo middle) (second : middle.ShrunkTo later) : earlier.ShrunkTo later := by
  intro location value found
  rcases second location value found with ⟨between, isBetween, remains⟩
  rcases first location between isBetween with ⟨old, isOld, remained⟩
  refine ⟨old, isOld, ?_⟩
  rcases remains with faces | nulled
  · rcases remained with oldFaces | ⟨rfl, slot⟩
    · exact .inl (faces.trans oldFaces)
    · exact .inr ⟨eq_null_of_face faces, slot⟩
  · exact .inr nulled

theorem of_remove {document old : Value} {location : Location} {segment : Segment}
    (found : document.at? (location ++ [segment]) = some old) :
    document.ShrunkTo (document.updateAt (remove · segment) location) := by
  have admitted : document.AdmitsAt location segment := by
    rw [at?_concat] at found
    rcases Option.bind_eq_some_iff.1 found with ⟨node, isNode, isChild⟩
    exact ⟨node, isNode, admits_of_child? isChild⟩
  have removed := @overlay_remove document location segment (fun _ => leftover segment) admitted rfl
  intro place value stands
  by_cases within : location ++ [segment] <+: place
  · -- Nothing stands at or below a removed child, except for null at its own place.
    rcases within with ⟨below, rfl⟩
    rw [at?_append, removed.stored _ ⟨rfl, fun _ isPlace _ => isPlace⟩] at stands
    cases segment with
    | field name => cases stands
    | index i =>
        cases below with
        | nil =>
            rw [List.append_nil]
            exact ⟨old, found, .inr ⟨(Option.some.inj stands).symm, location, i, rfl⟩⟩
        | cons next below => cases next <;> cases stands
  · have faces := removed.kept place (by
      rintro ⟨_, rfl, above⟩
      exact within above)
    rw [stands] at faces
    rcases exists_of_face_eq faces with ⟨before, isBefore, sameFace⟩
    exact ⟨before, isBefore, .inl sameFace.symm⟩

end ShrunkTo

/-! ## Replacing -/

/-- Whatever the later document holds stood there in the earlier one, or is a part of the answer to a call. -/
def MadeOf (earlier : Value) (calls : List Call) (later : Value) : Prop :=
  ∀ location value, later.at? location = some value →
    (∃ old, earlier.at? location = some old ∧ value.face = old.face) ∨
    ∃ call ∈ calls, ∃ new below, call.reply = some new ∧ location = call.location ++ below ∧ new.at? below = some value

namespace MadeOf

variable {earlier document : Value} {calls others : List Call}

theorem refl (document : Value) (calls : List Call) : document.MadeOf calls document :=
  fun _ value found => .inl ⟨value, found, rfl⟩

theorem mono (made : earlier.MadeOf calls document) (subset : calls ⊆ others) : earlier.MadeOf others document := by
  intro location value found
  rcases made location value found with remains | ⟨call, isCall, answered⟩
  · exact .inl remains
  · exact .inr ⟨call, subset isCall, answered⟩

/-- The answer to one more call is stored. Nothing is changed within an answer, unless it is replaced as a whole. -/
theorem store {location : Location} {segment : Segment} {call : Call} {new : Value}
    (made : earlier.MadeOf calls document) (admitted : document.AdmitsAt location segment)
    (here : call.location = location ++ [segment]) (replied : call.reply = some new)
    (outer : ∀ other ∈ calls, other.reply.isSome = true → other.location <+: call.location →
      other.location = call.location) :
    earlier.MadeOf (calls ++ [call]) (document.updateAt (place new · segment) location) := by
  have stored := @overlay_place document location segment (fun _ => some new) admitted new rfl
  intro place value stands
  by_cases within : location ++ [segment] <+: place
  · rcases within with ⟨below, rfl⟩
    rw [at?_append, stored.stored _ ⟨rfl, fun _ isPlace _ => isPlace⟩] at stands
    refine .inr ⟨call, List.mem_append_right _ List.mem_cons_self, new, below, replied, by rw [here], stands⟩
  · have before : (∃ old, document.at? place = some old ∧ value.face = old.face) ∧
        (¬ place <+: location ++ [segment] → document.at? place = some value) := by
      constructor
      · have faces := stored.kept place (by
          rintro ⟨_, rfl, above⟩
          exact within above)
        rw [stands] at faces
        rcases exists_of_face_eq faces with ⟨old, isOld, sameFace⟩
        exact ⟨old, isOld, sameFace.symm⟩
      · intro notAbove
        rw [← stands]
        apply (stored.same place _).symm
        rintro _ rfl
        exact ⟨within, notAbove⟩
    rcases before with ⟨⟨old, isOld, sameFace⟩, unlessAbove⟩
    rcases made place old isOld with ⟨first, isFirst, faces⟩ | ⟨other, isOther, reply, below, answered, isBelow, part⟩
    · exact .inl ⟨first, isFirst, sameFace.trans faces⟩
    · -- What is replaced does not lie within an answer, so the part of the answer is still the same.
      have notAbove : ¬ place <+: location ++ [segment] := by
        intro above
        have within' : other.location <+: place := by
          rw [isBelow]
          exact List.prefix_append _ _
        have same := outer other isOther (by rw [answered]; rfl) (here ▸ within'.trans above)
        rw [← here, ← same] at within
        exact within within'
      rw [unlessAbove notAbove] at isOld
      rcases Option.some.inj isOld with rfl
      exact .inr ⟨other, List.mem_append_left _ isOther, reply, below, answered, isBelow, part⟩

end MadeOf

end Value

namespace Plan

variable {Memory : Type} {plan : Plan Memory} {answer : Memory → Value → Memory × Option Value}
  {progress later : Progress Memory} {task : Task} {tasks more : List Task} {location : Location}

/-- Unless values are set, a task leaves the document as it is or changes the children that the last step picks. -/
theorem keeps_or_finishes (keeps : plan.action.isSet = false)
    (performed : plan.perform progress task = .ok (later, more)) :
    plan.taskCalls progress task = [] ∧ later = progress ∨
      ∃ segments, plan.taskCalls progress task = plan.callAll progress task.location segments ∧
        later = plan.changeAll progress task.location segments := by
  rcases taskCalls_cases performed with ⟨noCalls, -⟩ | ⟨_, _, segments, -, -, -, -, -, areCalls, isLater, -⟩
  · cases turn_of_perform performed with
    | @finish step node segments here plain walks isLast found picked =>
        right
        refine ⟨segments, ?_, rfl⟩
        rw [taskCalls, here, found]
        simp only [if_pos (And.intro isLast (And.intro plain walks)), picked]
    | follow here plain walks inner found picked approached =>
        have unchanged := (@follow_of_keeps _ plan progress task _ _ _ _ keeps picked approached).1
        exact .inl ⟨noCalls, unchanged⟩
    | _ => exact .inl ⟨noCalls, rfl⟩
  · exact .inr ⟨segments, areCalls, isLater⟩

/--
What is kept by each change, together with the call about it, is kept along a run. The property is one of the calls so far
and of what has been done.
-/
theorem calls_induction {motive : List Call → Progress Memory → Prop} (keeps : plan.action.isSet = false)
    (change : ∀ calls progress location segment, motive calls progress →
      motive (calls ++ (plan.call? progress location segment).toList) (plan.change progress location segment))
    (progress : Progress Memory) (tasks : List Task) (before : List Call) (begins : motive before progress) :
    motive (before ++ plan.calls progress tasks) (plan.run progress tasks).1 := by
  have changeAll (segments : List Segment) (location : Location) {calls : List Call} {progress : Progress Memory}
      (held : motive calls progress) :
      motive (calls ++ plan.callAll progress location segments) (plan.changeAll progress location segments) := by
    induction segments generalizing progress calls with
    | nil => simpa [callAll, Plan.changeAll] using held
    | cons segment segments ih =>
        rw [callAll, Plan.changeAll]
        split
        · rwa [List.append_nil]
        · rw [← List.append_assoc]
          exact ih (change calls progress location segment held)
  induction progress, tasks using Plan.run.induct plan generalizing before with
  | case1 progress tasks isDone =>
      rw [calls_of_isDone isDone, run_of_isDone isDone, List.append_nil]
      exact begins
  | case2 progress _ =>
      rw [calls_nil, run_nil, List.append_nil]
      exact begins
  | case3 progress unfinished task tasks wrote ih =>
      have unfinished := Bool.eq_false_iff.2 unfinished
      rw [calls_of_wrote unfinished wrote, run_of_wrote unfinished wrote]
      exact ih before begins
  | case4 progress unfinished task tasks unwritten obstacle performed =>
      have unfinished := Bool.eq_false_iff.2 unfinished
      have unwritten := Bool.eq_false_iff.2 unwritten
      rw [calls_of_error unfinished unwritten performed, run_of_error unfinished unwritten performed, List.append_nil]
      exact begins
  | case5 progress unfinished task tasks unwritten later more performed ih =>
      have unfinished := Bool.eq_false_iff.2 unfinished
      have unwritten := Bool.eq_false_iff.2 unwritten
      rw [calls_of_ok unfinished unwritten performed, run_of_ok unfinished unwritten performed, ← List.append_assoc]
      apply ih
      rcases keeps_or_finishes keeps performed with ⟨noCalls, rfl⟩ | ⟨segments, areCalls, rfl⟩
      · rw [noCalls, List.append_nil]
        exact begins
      · rw [areCalls]
        exact changeAll segments task.location begins

/-! ## Deletions -/

theorem change_shrunkTo (deletes : plan.action = .delete) (segment : Segment) :
    progress.document.ShrunkTo (plan.change progress location segment).document := by
  simp only [change, deletes]
  cases found : progress.document.at? (location ++ [segment]) with
  | none => exact .refl _
  | some old => exact .of_remove found

theorem run_shrunkTo (deletes : plan.action = .delete) (tasks : List Task) :
    progress.document.ShrunkTo (plan.run progress tasks).1.document :=
  calls_induction (motive := fun _ later => progress.document.ShrunkTo later.document) (by rw [deletes]; rfl)
    (fun _ _ _ segment before => before.trans (change_shrunkTo deletes segment)) progress tasks [] (.refl _)

/-! ## Modifications -/

/-- Calls that are not about what stands strictly within an answer to one before. -/
def NotInside (calls : List Call) : Prop :=
  calls.Pairwise fun call other => call.reply.isSome = true → call.location <+: other.location →
    call.location = other.location

theorem change_madeOf {start : Value} {calls : List Call} (modifies : plan.action = .modify answer) (segment : Segment)
    (made : start.MadeOf calls progress.document)
    (apart : NotInside (calls ++ (plan.call? progress location segment).toList)) :
    start.MadeOf (calls ++ (plan.call? progress location segment).toList)
      (plan.change progress location segment).document := by
  cases found : progress.document.at? (location ++ [segment]) with
  | none => simpa [call?, change, modifies, found] using made
  | some old =>
      rcases replied : answer progress.memory old with ⟨memory, _ | new⟩
      · have unchanged : (plan.change progress location segment).document = progress.document := by
          simp only [change, modifies, found, replied]
        rw [unchanged]
        exact made.mono (List.subset_append_left _ _)
      · have isCall : plan.call? progress location segment = some ⟨location ++ [segment], old, some new⟩ := by
          simp only [call?, found, modifies, Action.reply, replied, Option.map_some]
        have isStored : (plan.change progress location segment).document =
            progress.document.updateAt (Value.place new · segment) location := by
          simp only [change, modifies, found, replied, store, record]
        rw [isCall] at apart ⊢
        rw [isStored]
        refine made.store ?_ rfl rfl ?_
        · rw [Value.at?_concat] at found
          rcases Option.bind_eq_some_iff.1 found with ⟨node, isNode, isChild⟩
          exact ⟨node, isNode, Value.admits_of_child? isChild⟩
        · intro other isOther
          exact (List.pairwise_append.1 apart).2.2 other isOther _ List.mem_cons_self

theorem run_madeOf {start : Value} (modifies : plan.action = .modify answer) (made : start.MadeOf [] progress.document)
    (apart : NotInside (plan.calls progress tasks)) :
    start.MadeOf (plan.calls progress tasks) (plan.run progress tasks).1.document := by
  refine calls_induction (motive := fun calls later => NotInside calls → start.MadeOf calls later.document)
    (by rw [modifies]; rfl) ?_ progress tasks [] (fun _ => made) apart
  intro calls progress location segment holds apart
  exact change_madeOf modifies segment (holds (List.pairwise_append.1 apart).1) apart

/-! ## Steps without a descent -/

/-- How deep a task stands whose step is the one with an index, if there is no descent before it. -/
def depth (plan : Plan Memory) : Nat → Nat
  | 0 => 0
  | index + 1 => match plan.steps[index]? with
    | some .root => 0
    | some .current => plan.depth index
    | _ => plan.depth index + 1

theorem depth_succ {index : Nat} {step : Step} (here : plan.steps[index]? = some step)
    (plain : step.isAnchor = false) : plan.depth (index + 1) = plan.depth index + 1 := by
  rw [depth, here]
  cases step <;> first | rfl | cases plain

theorem perform_depth (flat : plan.descends = false) (performed : plan.perform progress task = .ok (later, more))
    (level : task.location.length = plan.depth task.index) :
    ∀ next ∈ more, next.location.length = plan.depth next.index := by
  cases turn_of_perform performed with
  | root here => simp [depth, here]
  | current here => simp [depth, here, level]
  | descent here =>
      have descends : plan.descends = true := List.any_eq_true.2 ⟨.descent, List.mem_of_getElem? here, rfl⟩
      rw [flat] at descends
      cases descends
  | follow here plain walks inner found picked approached =>
      intro next isNext
      rcases List.mem_map.1 isNext with ⟨way, -, rfl⟩
      rw [depth_succ here plain, List.length_append, level, List.length_singleton]
  | _ => simp

/-- There are calls only about children that the last step picks. -/
theorem last_of_mem_taskCalls {call : Call} (isCall : call ∈ plan.taskCalls progress task) :
    ∃ step, plan.steps[task.index]? = some step ∧ step.isAnchor = false ∧ task.index + 1 = plan.steps.length := by
  rw [taskCalls] at isCall
  split at isCall
  · rename_i step node here _
    split at isCall
    · rename_i isLast
      exact ⟨step, here, isLast.2.1, isLast.1⟩
    · cases isCall
  · cases isCall

theorem calls_depth (flat : plan.descends = false) (level : ∀ task ∈ tasks, task.location.length = plan.depth task.index) :
    ∀ call ∈ plan.calls progress tasks, call.location.length = plan.depth plan.steps.length := by
  induction progress, tasks using Plan.run.induct plan with
  | case1 progress tasks isDone =>
      rw [calls_of_isDone isDone]
      exact List.forall_mem_nil _
  | case2 progress _ =>
      rw [calls_nil]
      exact List.forall_mem_nil _
  | case3 progress unfinished task tasks wrote ih =>
      rw [calls_of_wrote (Bool.eq_false_iff.2 unfinished) wrote]
      exact ih (List.forall_mem_cons.1 level).2
  | case4 progress unfinished task tasks unwritten obstacle performed =>
      rw [calls_of_error (Bool.eq_false_iff.2 unfinished) (Bool.eq_false_iff.2 unwritten) performed]
      exact List.forall_mem_nil _
  | case5 progress unfinished task tasks unwritten later more performed ih =>
      rw [calls_of_ok (Bool.eq_false_iff.2 unfinished) (Bool.eq_false_iff.2 unwritten) performed]
      rcases List.forall_mem_cons.1 level with ⟨here, others⟩
      rw [List.forall_mem_append]
      constructor
      · intro call isCall
        rcases location_of_mem_taskCalls isCall with ⟨segment, isHere⟩
        rcases last_of_mem_taskCalls isCall with ⟨step, isStep, plain, isLast⟩
        rw [isHere, List.length_append, List.length_singleton, here, ← depth_succ isStep plain, isLast]
      · exact ih (List.forall_mem_append.2 ⟨perform_depth flat performed here, others⟩)

theorem calls_notInside (modifies : plan.action = .modify answer) (progress : Progress Memory) :
    NotInside (plan.calls progress [⟨[], 0⟩]) := by
  by_cases descends : plan.descends = true
  · exact calls_not_inside modifies descends
  · have level := @calls_depth _ plan progress [⟨[], 0⟩] (Bool.eq_false_iff.2 descends) (by simp [depth])
    apply List.pairwise_of_forall_mem_list
    intro call isCall other isOther _ above
    exact above.eq_of_length ((level call isCall).trans (level other isOther).symm)

end Plan

namespace Path

variable [RegexSyntax] {Memory : Type}

/-- The calls of a modification along any path. A path of `$` and `@` alone is called on the document as a whole. -/
def allCalls (path : Path) (limit : Option Nat) (answer : Memory → Value → Memory × Option Value) (memory : Memory)
    (document : Value) : List Call :=
  if path.isAssignable? = some true then path.calls limit answer memory document
  else if path.fragments ≠ [] ∧ path.fragments.all Fragment.isAnchor then
    [⟨[], document, (answer memory document).2⟩]
  else []

variable {path : Path} {answer : Memory → Value → Memory × Option Value}

/-- A path that cannot be written to changes nothing, unless it gives the whole document to a modification. -/
theorem edit_modify_cases (refused : path.isAssignable? ≠ some true) (limit : Option Nat) (memory : Memory)
    (document : Value) :
    (path.allCalls limit answer memory document = [⟨[], document, (answer memory document).2⟩] ∧
        path.edit (.modify answer) limit memory document = modifyWhole answer memory document) ∨
      path.allCalls limit answer memory document = [] ∧
        ∃ error, path.edit (.modify answer) limit memory document = ⟨document, memory, .error error⟩ := by
  rw [allCalls, if_neg refused]
  cases isLast : path.fragments.getLast? with
  | none =>
      have isEmpty := List.getLast?_eq_none_iff.1 isLast
      right
      refine ⟨if_neg (fun whole => whole.1 isEmpty), .emptyExpression .modify, ?_⟩
      rw [edit, isLast]
      rfl
  | some target =>
      have notEmpty : path.fragments ≠ [] := List.ne_nil_of_mem (List.mem_of_getLast? isLast)
      have notAssignable : ¬ target.isAssignable = true := by
        intro assignable
        exact refused (by rw [isAssignable?, isLast, Option.map_some, assignable])
      by_cases whole : path.fragments.all Fragment.isAnchor = true
      · left
        refine ⟨if_pos ⟨notEmpty, whole⟩, ?_⟩
        simp only [edit, isLast, if_pos whole]
      · right
        refine ⟨if_neg (fun all => whole all.2), .invalidTarget .modify target.kindName, ?_⟩
        simp only [edit, isLast, if_neg whole, if_neg notAssignable]
        rfl

theorem edit_delete_shrunkTo (path : Path) (limit : Option Nat) (document : Value) :
    document.ShrunkTo (path.edit .delete limit () document).document := by
  rcases @edit_cases _ _ path (.delete : Action Unit) rfl limit () document with ⟨-, runs⟩ | ⟨error, fails⟩
  · rw [runs]
    exact @Plan.run_shrunkTo _ (path.plan .delete limit) (.start document ()) rfl [⟨[], 0⟩]
  · rw [fails]
    exact .refl document

theorem allCalls_answered (limit : Option Nat) (memory : Memory) (document : Value) :
    Answered answer memory (path.allCalls limit answer memory document)
      (path.edit (.modify answer) limit memory document).memory := by
  by_cases assignable : path.isAssignable? = some true
  · rw [allCalls, if_pos assignable]
    exact path.calls_answered limit answer memory document assignable
  · rcases edit_modify_cases assignable limit memory document with ⟨areCalls, edits⟩ | ⟨noCalls, error, fails⟩
    · rw [areCalls, edits, modifyWhole]
      rcases replied : answer memory document with ⟨last, _ | new⟩
      · exact .cons replied (.nil last)
      · exact .cons replied (.nil last)
    · rw [noCalls, fails]
      exact .nil memory

theorem edit_modify_madeOf (limit : Option Nat) (memory : Memory) (document : Value) :
    document.MadeOf (path.allCalls limit answer memory document)
      (path.edit (.modify answer) limit memory document).document := by
  by_cases assignable : path.isAssignable? = some true
  · rw [allCalls, if_pos assignable, edit_of_isAssignable assignable, runEdit, calls]
    have apart := (path.plan (.modify answer) limit).calls_notInside rfl (.start document memory)
    exact @Plan.run_madeOf _ _ answer (.start document memory) _ _ rfl (.refl document []) apart
  · rcases edit_modify_cases assignable limit memory document with ⟨areCalls, edits⟩ | ⟨noCalls, error, fails⟩
    · rw [areCalls, edits, modifyWhole]
      rcases replied : answer memory document with ⟨last, _ | new⟩
      · exact .refl document _
      · intro location value found
        exact .inr ⟨_, List.mem_cons_self, new, location, rfl, rfl, found⟩
    · rw [noCalls, fails]
      exact .refl document []

/--
A deletion, of all matches or of some, only removes, also when it fails: whatever stands in the document then stood at the
same location before, a container of the same kind, an equal scalar, or something else in the slot of an array that is null
now. Arrays keep their lengths. A modification creates nothing either: whatever stands in the document then stood there
before, with the same kind and length, or is a part of an answer and stands where the answer was stored.
-/
theorem delete_and_modify_create_nothing (path : Path) (limit : Option Nat) (document : Value) :
    (∀ location value, (path.edit .delete limit () document).document.at? location = some value →
      ∃ old, document.at? location = some old ∧
        (value.isContainer = true ∧ value.kind = old.kind ∨ value.isContainer = false ∧ value = old ∨
          value = .null ∧ ∃ place i, location = place ++ [.index i])) ∧
    (∀ location items, (path.edit .delete limit () document).document.at? location = some (.array items) →
      ∃ olds, document.at? location = some (.array olds) ∧ items.length = olds.length) ∧
    ∀ (answer : Memory → Value → Memory × Option Value) (memory : Memory),
      Answered answer memory (path.allCalls limit answer memory document)
        (path.edit (.modify answer) limit memory document).memory ∧
      ∀ location value, (path.edit (.modify answer) limit memory document).document.at? location = some value →
        (∃ old, document.at? location = some old ∧ value.face = old.face) ∨
        ∃ call ∈ path.allCalls limit answer memory document, ∃ new below, call.reply = some new ∧
          location = call.location ++ below ∧ new.at? below = some value := by
  have shrunk := path.edit_delete_shrunkTo limit document
  refine ⟨?_, ?_, ?_⟩
  · intro location value found
    rcases shrunk location value found with ⟨old, isOld, faces | nulled⟩
    · refine ⟨old, isOld, ?_⟩
      rcases Value.kind_eq_or_eq_of_face_eq faces with container | scalar
      · exact .inl container
      · exact .inr (.inl scalar)
    · exact ⟨old, isOld, .inr (.inr nulled)⟩
  · intro location items found
    rcases shrunk location _ found with ⟨old, isOld, faces | ⟨isNull, -⟩⟩
    · rcases Value.length_eq_of_face_eq faces with ⟨olds, rfl, sameLength⟩
      exact ⟨olds, isOld, sameLength⟩
    · cases isNull
  · intro answer memory
    exact ⟨allCalls_answered limit memory document, edit_modify_madeOf limit memory document⟩

end Path

end TreePath

import Mathlib.Data.List.Permutation
import TreePath.Proofs.Edit.Search
import TreePath.Regex.Standard

/-!
# Edits of the first match

A modification or deletion of one match finds what the query finds, in the same order: it goes through the sites of
the path until one of them is changed, and that one is all that is changed. A modification that never
answers is asked about every value that the query gets.
-/

namespace TreePath

variable {Memory : Type}

/-- The answers of a modification to values that it is asked about one after the other. -/
def replies (answer : Memory → Value → Memory × Option Value) : Memory → List Value → List (Option Value)
  | _, [] => []
  | memory, value :: values => (answer memory value).2 :: replies answer (answer memory value).1 values

theorem eq_none_of_mem_replies {answer : Memory → Value → Memory × Option Value} {memory : Memory}
    {values : List Value} (never : ∀ memory value, (answer memory value).2 = none) {reply : Option Value}
    (isReply : reply ∈ replies answer memory values) : reply = none := by
  induction values generalizing memory with
  | nil => cases isReply
  | cons value values ih =>
      rcases List.mem_cons.1 isReply with rfl | later
      · exact never memory value
      · exact ih later

/-- Seeking an answer goes through all sites without one, or up to the first that has one. The log says which. -/
theorem consult_logging (answer : Memory → Value → Memory × Option Value) (memory : Memory) (log : List Value)
    (sites : List Site) :
    (∃ last, (Action.modify (logging answer)).consult (memory, log) sites =
        ((last, log ++ sites.map Site.value), none) ∧
      replies answer memory (sites.map Site.value) = List.replicate sites.length none) ∨
    ∃ last before site after new, sites = before ++ site :: after ∧
      (Action.modify (logging answer)).consult (memory, log) sites =
        ((last, log ++ (before ++ [site]).map Site.value), some (site, new)) ∧
      replies answer memory ((before ++ [site]).map Site.value) =
        List.replicate before.length none ++ [some new] := by
  induction sites generalizing memory log with
  | nil =>
      left
      refine ⟨memory, ?_, rfl⟩
      rw [Action.consult, List.map_nil, List.append_nil]
  | cons site sites ih =>
      rcases replied : answer memory site.value with ⟨later, _ | new⟩
      · have goesOn : (Action.modify (logging answer)).consult (memory, log) (site :: sites) =
            (Action.modify (logging answer)).consult (later, log ++ [site.value]) sites := by
          simp only [Action.consult, Action.reply, logging, replied]
        rw [goesOn]
        rcases ih later (log ++ [site.value]) with
          ⟨last, isSilent, areReplies⟩ | ⟨last, before, found, after, new, isSplit, isFound, areReplies⟩
        · left
          refine ⟨last, ?_, ?_⟩
          · rw [isSilent, List.map_cons, List.append_assoc]
            rfl
          · rw [List.map_cons, replies, replied, areReplies]
            rfl
        · right
          refine ⟨last, site :: before, found, after, new, ?_, ?_, ?_⟩
          · rw [isSplit]
            rfl
          · rw [isFound, List.cons_append, List.map_cons, List.append_assoc]
            rfl
          · rw [List.cons_append, List.map_cons, replies, replied, areReplies]
            rfl
      · right
        refine ⟨later, [], site, sites, new, rfl, ?_, ?_⟩
        · simp only [Action.consult, Action.reply, logging, replied]
          rfl
        · rw [List.nil_append, List.map_singleton, replies, replied]
          rfl

namespace Path

theorem admitsAt_of_standsIn {document : Value} {site : Site} {location : Location} {segment : Segment}
    (stands : site.StandsIn document) (isChild : site.location = location ++ [segment]) :
    document.AdmitsAt location segment := by
  rw [Site.StandsIn, isChild, Value.at?_concat] at stands
  rcases Option.bind_eq_some_iff.1 stands with ⟨node, found, isValue⟩
  exact ⟨node, found, Value.admits_of_child? isValue⟩

section Following

variable [RegexSyntax] {path : Path} {document : Value}

theorem assignable_last (assignable : path.isAssignable? = some true) :
    ∀ target ∈ path.fragments.getLast?, target.isAssignable = true := by
  intro target isTarget
  rw [isAssignable?, isTarget] at assignable
  exact Option.some.inj assignable

theorem edit_of_isAssignable (assignable : path.isAssignable? = some true) (action : Action Memory)
    (limit : Option Nat) (memory : Memory) :
    path.edit action limit memory document = path.runEdit action limit memory document := by
  rcases Option.map_eq_some_iff.1 assignable with ⟨target, isTarget, isAssignable⟩
  have notWhole : path.fragments.all Fragment.isAnchor = false := by
    rw [List.all_eq_false]
    refine ⟨target, List.mem_of_getLast? isTarget, ?_⟩
    cases target <;> first | exact Bool.eq_false_iff.1 rfl | cases isAssignable
  rw [edit, isTarget]
  cases action <;> simp only [isAssignable, notWhole, if_true, Bool.false_eq_true, if_false]

/-- An edit other than a modification runs along the path, or the path cannot be used for it and nothing is changed. -/
theorem edit_cases {action : Action Memory} (simple : action.isModify = false) (limit : Option Nat) (memory : Memory)
    (document : Value) :
    (path.isAssignable? = some true ∧
        path.edit action limit memory document = path.runEdit action limit memory document) ∨
      ∃ error, path.edit action limit memory document = ⟨document, memory, .error error⟩ := by
  by_cases assignable : path.isAssignable? = some true
  · exact .inl ⟨assignable, edit_of_isAssignable assignable action limit memory⟩
  · right
    cases isLast : path.fragments.getLast? with
    | none => exact ⟨_, by rw [edit, isLast]⟩
    | some target =>
        have refused : ¬ target.isAssignable = true := by
          intro isAssignable
          exact assignable (by rw [isAssignable?, isLast, Option.map_some, isAssignable])
        cases action with
        | modify answer => cases simple
        | _ =>
            simp only [edit, isLast, if_neg refused]
            exact ⟨_, rfl⟩

theorem runEdit_consults (action : Action Memory) (limit : Option Nat) (memory : Memory)
    (editable : Editable path.steps) (keeps : action.isSet = false) (wellFormed : document.WellFormed)
    (starts : (path.plan action limit).isDone 0 = false) (stops : (path.plan action limit).StopsAt 1) :
    ∃ later : Progress Memory, (path.runEdit action limit memory document).document = later.document ∧
      (path.runEdit action limit memory document).memory = later.memory ∧
      ((∃ obstacle sought last, (path.runEdit action limit memory document).outcome =
            .error (.ofObstacle path obstacle) ∧
          sought <+: path.sites document ∧ action.consult memory sought = (last, none) ∧
          later = { Progress.start document memory with memory := last }) ∨
        ((path.runEdit action limit memory document).outcome = .ok later.count ∧
          (path.plan action limit).Settles (.start document memory)
            (action.consult memory (path.sites document)) later)) := by
  have sites : [(⟨[], 0⟩ : Task)].flatMap (Task.sites document path.steps) = path.sites document := by
    have stands : document.at? [] = some document := rfl
    rw [List.flatMap_singleton, Task.sites_eq stands]
    rfl
  have consults := @Plan.run_consults _ (path.plan action limit) (.start document memory) [⟨[], 0⟩] editable keeps
    wellFormed starts stops rfl (by simp [Value.at?])
  have isStart : (Progress.start document memory).document = document := rfl
  have isPlan : (path.plan action limit).steps = path.steps := rfl
  rw [isStart, isPlan, sites] at consults
  rw [runEdit]
  rcases ran : (path.plan action limit).run (.start document memory) [⟨[], 0⟩] with ⟨later, _ | obstacle⟩
  · rw [ran] at consults
    exact ⟨later, rfl, rfl, .inr ⟨rfl, consults.1 rfl⟩⟩
  · rw [ran] at consults
    rcases consults.2 obstacle rfl with ⟨sought, last, isPrefix, silent, unchanged⟩
    exact ⟨later, rfl, rfl, .inl ⟨obstacle, sought, last, rfl, isPrefix, silent, unchanged⟩⟩

/--
A modification of one value, or one that never answers, asks about the sites of the path in order. Either there is no
answer and nothing is changed, or it ends with the first answer, which stands at its site then.
-/
theorem modification_asks {limit : Option Nat} (answer : Memory → Value → Memory × Option Value) (memory : Memory)
    (path_wellFormed : path.WellFormed) (assignable : path.isAssignable? = some true)
    (wellFormed : document.WellFormed)
    (limited : limit = some 1 ∨ limit = none ∧ ∀ memory value, (answer memory value).2 = none) :
    (∃ before after, path.sites document = before ++ after ∧
      path.asked limit answer memory document = before.map Site.value ∧
      replies answer memory (before.map Site.value) = List.replicate before.length none ∧
      (path.edit (.modify answer) limit memory document).document = document ∧
      ∀ count, (path.edit (.modify answer) limit memory document).outcome = .ok count → count = 0 ∧ after = []) ∨
    ∃ before site after new, path.sites document = before ++ site :: after ∧
      path.asked limit answer memory document = (before ++ [site]).map Site.value ∧
      replies answer memory ((before ++ [site]).map Site.value) =
        List.replicate before.length none ++ [some new] ∧
      (path.edit (.modify answer) limit memory document).outcome = .ok 1 ∧
      Overlay document (path.edit (.modify answer) limit memory document).document (· = site.location)
        fun _ => some new := by
  -- The modification is observed through one that notes what it is asked about, and does the same.
  have starts : (path.plan (.modify (logging answer)) limit).isDone 0 = false := by
    rcases limited with rfl | ⟨rfl, _⟩ <;> rfl
  have stops : (path.plan (.modify (logging answer)) limit).StopsAt 1 := by
    rcases limited with rfl | ⟨rfl, never⟩
    · exact .inl rfl
    · exact .inr fun ⟨memory, log⟩ value => never memory value
  rw [asked, ← edit_logging path limit answer memory document [], edit_of_isAssignable assignable]
  rcases runEdit_consults _ _ (memory, []) (editable_steps path_wellFormed (assignable_last assignable)) rfl wellFormed
    starts stops with ⟨later, isDocument, isMemory, failed | ⟨succeeded, settles⟩⟩
  · rcases failed with ⟨obstacle, sought, last, failed, isPrefix, silent, rfl⟩
    rcases isPrefix with ⟨after, isSplit⟩
    left
    refine ⟨sought, after, isSplit.symm, ?_⟩
    rcases consult_logging answer memory [] sought with
      ⟨memory', consulted, areReplies⟩ | ⟨_, _, _, _, _, _, consulted, _⟩
    · rw [consulted] at silent
      rcases Prod.mk.inj silent with ⟨rfl, -⟩
      refine ⟨by rw [isMemory]; rfl, areReplies, isDocument, ?_⟩
      intro count succeeds
      have impossible := failed.symm.trans succeeds
      cases impossible
    · rw [consulted] at silent
      cases (Prod.mk.inj silent).2
  · rcases consult_logging answer memory [] (path.sites document) with
      ⟨memory', consulted, areReplies⟩ | ⟨memory', before, site, after, new, isSplit, consulted, areReplies⟩
    · left
      rw [consulted] at settles
      have isSame : later = { Progress.start document (memory, ([] : List Value)) with
          memory := (memory', [] ++ (path.sites document).map Site.value) } := settles
      rw [isSame] at isDocument isMemory succeeded
      refine ⟨path.sites document, [], (List.append_nil _).symm, by rw [isMemory]; rfl, areReplies, isDocument, ?_⟩
      intro count succeeds
      have isCount := Except.ok.inj (succeeded.symm.trans succeeds)
      exact ⟨isCount.symm, rfl⟩
    · right
      rw [consulted] at settles
      rcases settles with ⟨laterMemory, isCount, location, segment, isLocation, laterDocument⟩
      refine ⟨before, site, after, new, isSplit, by rw [isMemory, laterMemory]; rfl, areReplies, ?_, ?_⟩
      · exact succeeded.trans (congrArg Except.ok isCount)
      · have stands : site.StandsIn document := by
          apply findSites_standsIn wellFormed (Site.rootSite_standsIn document) site
          rw [← sites, isSplit]
          exact List.mem_append_right before List.mem_cons_self
        show Overlay document (path.runEdit _ limit _ document).document _ _
        rw [isDocument, laterDocument, isLocation]
        exact overlay_place (admitsAt_of_standsIn stands isLocation) rfl

theorem deleteOne_eq_ok {count : Nat} (path_wellFormed : path.WellFormed)
    (assignable : path.isAssignable? = some true) (wellFormed : document.WellFormed)
    (succeeds : (path.deleteOne document).outcome = .ok count) :
    (path.sites document = [] ∧ count = 0 ∧ (path.deleteOne document).document = document) ∨
    ∃ first others, path.sites document = first :: others ∧ count = 1 ∧
      Overlay document (path.deleteOne document).document (· = first.location)
        fun location => location.getLast?.bind Value.leftover := by
  rw [deleteOne, edit_of_isAssignable assignable] at succeeds ⊢
  rcases runEdit_consults .delete (some 1) () (editable_steps path_wellFormed (assignable_last assignable)) rfl wellFormed rfl
    (.inl rfl) with
    ⟨later, isDocument, -, ⟨obstacle, _, _, failed, _⟩ | ⟨succeeded, settles⟩⟩
  · rw [failed] at succeeds
    cases succeeds
  · rw [succeeded] at succeeds
    rcases Except.ok.inj succeeds with rfl
    rw [isDocument]
    cases areSites : path.sites document with
    | nil =>
        rw [areSites] at settles
        have isSame : later = Progress.start document () := settles
        rw [isSame]
        exact .inl ⟨rfl, rfl, rfl⟩
    | cons first others =>
        rw [areSites] at settles
        rcases settles with ⟨-, isCount, location, segment, isLocation, laterDocument⟩
        refine .inr ⟨first, others, rfl, isCount, ?_⟩
        have stands : first.StandsIn document := by
          apply findSites_standsIn wellFormed (Site.rootSite_standsIn document) first
          rw [← sites, areSites]
          exact List.mem_cons_self
        rw [laterDocument, isLocation]
        apply overlay_remove (admitsAt_of_standsIn stands isLocation)
        rw [List.getLast?_concat, Option.bind_some]

/--
Edits of one value find what the path gets, in the same order. `sites` are the locations of what it gets. A
modification asks about them up to the first one to which there is an answer, which is stored there; a deletion
deletes at the first one. A modification that never answers asks about all of them, and changes nothing.
-/
theorem modify_and_delete_follow_get {text : String} {path : Path} (parsed : Path.parse text = .ok path)
    (assignable : path.isAssignable? = some true) {document : Value} (wellFormed : document.WellFormed)
    (answer : Memory → Value → Memory × Option Value) (memory : Memory) :
    ((path.sites document).map Site.value = path.get document ∧
      ∀ site ∈ path.sites document, document.at? site.location = some site.value) ∧
    path.asked (some 1) answer memory document <+: path.get document ∧
    (∀ count, (path.modifyOne answer memory document).outcome = .ok count →
      (count = 0 ∧ path.asked (some 1) answer memory document = path.get document ∧
        replies answer memory (path.get document) = List.replicate (path.get document).length none ∧
        (path.modifyOne answer memory document).document = document) ∨
      (count = 1 ∧ ∃ before site after new, path.sites document = before ++ site :: after ∧
        path.asked (some 1) answer memory document = (before ++ [site]).map Site.value ∧
        replies answer memory ((before ++ [site]).map Site.value) =
          List.replicate before.length none ++ [some new] ∧
        Overlay document (path.modifyOne answer memory document).document (· = site.location)
          fun _ => some new)) ∧
    (∀ count, (path.deleteOne document).outcome = .ok count →
      (count = 0 ∧ path.get document = [] ∧ (path.deleteOne document).document = document) ∨
      ∃ first others, count = 1 ∧ path.sites document = first :: others ∧
        Overlay document (path.deleteOne document).document (· = first.location)
          fun location => location.getLast?.bind Value.leftover) ∧
    ((∀ memory value, (answer memory value).2 = none) →
      (path.modify answer memory document).document = document ∧
        ∀ count, (path.modify answer memory document).outcome = .ok count →
          path.asked none answer memory document = path.get document) := by
  have path_wellFormed := wellFormed_of_parse parsed
  have values := path.map_value_sites document
  refine ⟨⟨values, findSites_standsIn wellFormed (Site.rootSite_standsIn document)⟩, ?_, ?_, ?_, ?_⟩
  · rcases modification_asks answer memory path_wellFormed assignable wellFormed (.inl rfl) with
      ⟨before, after, isSplit, isAsked, _⟩ | ⟨before, site, after, _, isSplit, isAsked, _⟩
    · rw [isAsked, ← values, isSplit]
      exact (List.prefix_append before after).map Site.value
    · rw [isAsked, ← values, isSplit]
      exact List.IsPrefix.map Site.value ⟨after, by simp⟩
  · intro count succeeds
    rw [modifyOne] at succeeds ⊢
    rcases modification_asks answer memory path_wellFormed assignable wellFormed (.inl rfl) with
      ⟨before, after, isSplit, isAsked, areReplies, unchanged, ends⟩ |
      ⟨before, site, after, new, isSplit, isAsked, areReplies, succeeded, overlay⟩
    · left
      rcases ends count succeeds with ⟨rfl, rfl⟩
      rw [List.append_nil] at isSplit
      subst isSplit
      rw [values] at isAsked areReplies
      refine ⟨rfl, isAsked, ?_, unchanged⟩
      rw [areReplies, ← values, List.length_map]
    · right
      rw [succeeded] at succeeds
      exact ⟨(Except.ok.inj succeeds).symm, before, site, after, new, isSplit, isAsked, areReplies, overlay⟩
  · intro count succeeds
    rcases deleteOne_eq_ok path_wellFormed assignable wellFormed succeeds with
      ⟨nothing, isCount, unchanged⟩ | ⟨first, others, isSplit, isCount, overlay⟩
    · left
      rw [← values, nothing]
      exact ⟨isCount, rfl, unchanged⟩
    · exact .inr ⟨first, others, isCount, isSplit, overlay⟩
  · intro never
    rw [modify]
    rcases modification_asks answer memory path_wellFormed assignable wellFormed (.inr ⟨rfl, never⟩) with
      ⟨before, after, isSplit, isAsked, -, unchanged, ends⟩ | ⟨before, site, _, new, _, _, areReplies, _⟩
    · refine ⟨unchanged, ?_⟩
      intro count succeeds
      rcases ends count succeeds with ⟨-, rfl⟩
      rw [isAsked, ← values, isSplit, List.append_nil]
    · have isAnswer : some new ∈ replies answer memory ((before ++ [site]).map Site.value) := by
        rw [areReplies]
        exact List.mem_append_right _ (List.mem_singleton_self _)
      cases eq_none_of_mem_replies never isAnswer

end Following

/-- The script of a filter for what has a member `a` that is one. -/
def flagged : Formula :=
  .binary .equal (.path [.current, .child "a"]) (.literal (.integer 1))

theorem flagged_isReadable : flagged.IsReadable := by
  simp [flagged, Formula.IsReadable, areReadable, isReadable, Value.IsLiteral, Operator.arity,
    Operator.compiles, Fragment.isAnchor]

/-- The path to all members `b` below what passes the filter. -/
def flaggedMembers : Path where
  fragments := [.root, .filter flagged.equation.script, .descent, .child "b"]

/-- A document in which two members pass the filter. -/
def flaggedDocument : Value :=
  .object [("x", .object [("a", .integer 1), ("b", .integer 10)]),
    ("y", .object [("a", .integer 1), ("b", .integer 20)]),
    ("z", .object [("a", .integer 2), ("b", .integer 30)])]

theorem flaggedDocument_wellFormed : flaggedDocument.WellFormed := by
  simp only [flaggedDocument, Value.WellFormed, Value.WellFormedMembers, Members.Ordered, and_true]
  decide

/-- Answers to every value but the first one. -/
def answerLater (asked : Nat) (_value : Value) : Nat × Option Value :=
  (asked + 1, if asked = 0 then none else some (.boolean true))

def answerNever (asked : Nat) (_value : Value) : Nat × Option Value :=
  (asked + 1, none)

theorem modify_and_delete_follow_get_flaggedMembers :
    Path.parse flaggedMembers.text = .ok flaggedMembers ∧ flaggedMembers.isAssignable? = some true ∧
      flaggedDocument.WellFormed ∧
      (flaggedMembers.modifyOne answerLater 0 flaggedDocument).outcome = .ok 1 ∧
      (∃ before site after new, flaggedMembers.sites flaggedDocument = before ++ site :: after ∧
        flaggedMembers.asked (some 1) answerLater 0 flaggedDocument = (before ++ [site]).map Site.value ∧
        replies answerLater 0 ((before ++ [site]).map Site.value) =
          List.replicate before.length none ++ [some new] ∧
        Overlay flaggedDocument (flaggedMembers.modifyOne answerLater 0 flaggedDocument).document
          (· = site.location) fun _ => some new) ∧
      (flaggedMembers.deleteOne flaggedDocument).outcome = .ok 1 ∧
      (∃ first others, flaggedMembers.sites flaggedDocument = first :: others ∧
        Overlay flaggedDocument (flaggedMembers.deleteOne flaggedDocument).document (· = first.location)
          fun location => location.getLast?.bind Value.leftover) ∧
      (flaggedMembers.modify answerNever 0 flaggedDocument).outcome = .ok 0 ∧
      flaggedMembers.asked none answerNever 0 flaggedDocument =
        flaggedMembers.get flaggedDocument := by
  have wellFormed : flaggedMembers.WellFormed :=
    ⟨by simpa [flaggedMembers, Fragment.WellFormed] using Fragment.filter_wellFormed flagged_isReadable,
      by simp [flaggedMembers, Fragment.isAnchor]⟩
  have parsed := parse_text_of_wellFormed wellFormed
  have assignable : flaggedMembers.isAssignable? = some true := rfl
  have ordered := flaggedDocument_wellFormed
  have isModified : (flaggedMembers.modifyOne answerLater 0 flaggedDocument).outcome = .ok 1 := by cbv
  have isDeleted : (flaggedMembers.deleteOne flaggedDocument).outcome = .ok 1 := by cbv
  have isSilent : (flaggedMembers.modify answerNever 0 flaggedDocument).outcome = .ok 0 := by cbv
  rcases modify_and_delete_follow_get parsed assignable ordered answerLater 0 with ⟨-, -, modifies, deletes, -⟩
  rcases modify_and_delete_follow_get parsed assignable ordered answerNever 0 with ⟨-, -, -, -, silent⟩
  refine ⟨parsed, assignable, ordered, isModified, ?_, isDeleted, ?_, isSilent, ?_⟩
  · rcases modifies 1 isModified with ⟨different, -⟩ | ⟨-, isFound⟩
    · cases different
    · exact isFound
  · rcases deletes 1 isDeleted with ⟨different, -⟩ | ⟨first, others, -, isFound⟩
    · cases different
    · exact ⟨first, others, isFound⟩
  · exact (silent fun _ _ => rfl).2 0 isSilent

end Path

end TreePath

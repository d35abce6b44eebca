import Mathlib
import ModuleInterface.Proofs.Workspace.Byteless
import ModuleInterface.Proofs.Workspace.Located
import ModuleInterface.Proofs.Workspace.Release

/-!
# Closing only removes answers

A run is compared with the same run in which a container is closed at some point
(`Workspace.closing_only_removes`). Whatever is asked afterwards is answered as in the run
without closing, or fails because the bytes are released; what needs no byte is always
answered as in the run without closing, and closing again changes nothing.
-/

namespace ModuleInterface

/-! ## Closing -/

namespace Session

/-- What is answered to closing a container names nothing. -/
theorem on_answered_of_closes
    {request : Request TargetName}
    {answer : Answer}
    (closes : request.closes = some answer)
    (name : Option String)
    (number : Nat)
    (workspace : Workspace) :
    (answered name number answer).on workspace = (.ok (.answer answer), workspace) := by
  cases request with
  | close =>
      cases closes
      rfl
  | closeAfterUse =>
      cases closes
      rfl
  | _ => contradiction

/-- A request that closes a container has nothing to look up. -/
theorem lookup_of_closes
    {request : Request TargetName}
    {answer : Answer}
    (closes : request.closes = some answer)
    (workspace : Workspace) :
    ∃ found : Request Target, ((request.lookup target).on workspace).1 = .ok found ∧
      found.closes = some answer := by
  cases request with
  | close => exact ⟨.close, rfl, closes⟩
  | closeAfterUse => exact ⟨.closeAfterUse, rfl, closes⟩
  | _ => contradiction

end Session

namespace Workspace

/-- Closing a container does nothing else, and is reported nowhere. -/
theorem on_closing
    {workspace : Workspace}
    {name : String}
    {number : Nat}
    (named : workspace.containerNames.find? name = some number)
    {request : Request TargetName}
    {answer : Answer}
    (closes : request.closes = some answer)
    (binding : Option String) :
    (Step.ask name request binding).perform.on workspace =
      match ((Session.environmentOf number).on workspace).1 with
      | .error fault => (.error fault, workspace)
      | .ok _ =>
          match workspace.containers[number]? with
          | none => (.error (.unbound (toString number)), workspace)
          | some container =>
              (.ok (.answer answer), workspace.withContainer number container.closed) := by
  obtain ⟨found, looked, closesFound⟩ := Session.lookup_of_closes closes workspace
  rw [Session.on_ask_of_some named, Session.on_askNumbered, looked]
  simp only
  rw [Session.on_askContainer_bind]
  cases ((Session.environmentOf number).on workspace).1 with
  | error fault => rfl
  | ok environment =>
      simp only
      cases workspace.containers[number]? with
      | none => rfl
      | some container =>
          have ran := Request.on_answer_of_closes closesFound workspace.registry environment
            container
          simp only [Session.asked, ran, Session.continued,
            Session.on_answered_of_closes closes]
          have quiet : container.closed.journal.drop container.journal.length = [] :=
            List.drop_length
          rw [quiet, List.append_nil]
          rfl

variable {number : Nat} {made : List PartitionSpec} {left right : Workspace}

/-- Closing a container that is closed changes nothing. -/
theorem run_closing_again
    {workspace : Workspace}
    {container : Container}
    (present : workspace.containers[number]? = some container)
    (released : container.blob.released = true)
    {name : String}
    (named : workspace.containerNames.find? name = some number)
    {request : Request TargetName}
    {answer : Answer}
    (closes : request.closes = some answer)
    (binding : Option String) :
    (workspace.run (.ask name request binding)).2 = (workspace, []) := by
  have itself : container.closed = container := by
    have closed := Container.eq_closed_of_released released
    exact (rfl : container.closed = container.reopened.closed).trans closed.symm
  have kept : ((Step.ask name request binding).perform.on workspace).2 = workspace := by
    rw [on_closing named closes, present]
    cases ((Session.environmentOf number).on workspace).1 with
    | error fault => rfl
    | ok environment =>
        simp only [itself]
        exact withContainer_of_present present
  change (((Step.ask name request binding).perform.on workspace).2,
    ((Step.ask name request binding).perform.on workspace).2.log.drop
      workspace.log.length) = _
  rw [kept, List.drop_length]

/-- A step that closes the container of a number is answered in the same way. -/
theorem Agrees.perform_closing
    {closed : Bool}
    (agrees : Agrees (.release closed) number made left right)
    {name : String}
    (named : left.containerNames.find? name = some number)
    {request : Request TargetName}
    {answer : Answer}
    (closes : request.closes = some answer)
    (binding : Option String) :
    ((Step.ask name request binding).perform.on right).1 =
      ((Step.ask name request binding).perform.on left).1 := by
  have environments := (agrees.steady (Session.Steady.environmentOf number)).1
  rw [on_closing named closes, on_closing (agrees.containerNames ▸ named) closes,
    ← environments]
  cases ((Session.environmentOf number).on left).1 with
  | error fault => rfl
  | ok environment =>
      simp only
      cases foundLeft : left.containers[number]? with
      | none => rw [agrees.right_none foundLeft]
      | some container =>
          obtain ⟨other, foundRight⟩ := agrees.exists_right foundLeft
          rw [foundRight]

/-! ## Steps that need no byte -/

section

variable {workspace : Workspace} {container : Container} {step : Step}

theorem spares_withContainer :
    (workspace.withContainer number container).Spares number step ↔
      workspace.Spares number step := by
  cases step <;> rfl

theorem keepsContents_withContainer :
    (workspace.withContainer number container).KeepsContents number step ↔
      workspace.KeepsContents number step := by
  cases step <;> rfl

theorem asksReleased_withContainer :
    (workspace.withContainer number container).AsksReleased number step ↔
      workspace.AsksReleased number step := by
  cases step <;> rfl

end

/-- The workspace in which a container is closed, if it is, agrees with that in which it is
open. -/
theorem Agrees.of_reopened
    {closed : Bool}
    (agrees : Agrees (.release closed) number made left right)
    {container : Container}
    (present : left.containers[number]? = some container)
    (isClosed : container = container.reopened.closed) :
    Agrees (.release true) number made (left.withContainer number container.reopened) left := by
  have itself : Agrees (.same fun _ _ => True) number made left left :=
    .self rfl agrees.knows trivial
  have sound := agrees.alike.1 container present
  have outlasts : container.reopened.Outlasts container made := by
    have outlasted : container.reopened.Outlasts container.reopened.closed made :=
      Container.outlasts_closed sound.remembers
    rwa [← isClosed] at outlasted
  have replaced : Agrees (.release true) number made
      (left.withContainer number container.reopened) (left.withContainer number container) :=
    itself.withContainers (Array.getElem?_eq_some_iff.mp present).1
      ⟨fun _ found => Option.some.inj found ▸ sound, _, _, rfl, rfl, outlasts⟩ trivial
  rwa [withContainer_of_present present] at replaced

/-- A step that needs no byte has the same outcome if a container was closed: both workspaces
are compared with those in which the containers are open. -/
theorem Agrees.run_of_needsNoByte
    (agrees : Agrees (.release true) number made left right)
    {step : Step}
    (keeps : left.KeepsContents number step)
    (plain : ¬left.AsksReleased number step)
    (needs : right.NeedsNoByte number step) :
    (right.run step).1 = (left.run step).1 := by
  obtain ⟨sound, container, other, foundLeft, foundRight, outlasts⟩ := agrees.alike
  have sound := sound container foundLeft
  by_cases spares : left.Spares number step
  · -- With both containers open only what they remember differs, and it is right in both.
    have opened : Agrees .memory number made (left.withContainer number container.reopened)
        (right.withContainer number other.reopened) :=
      agrees.withContainers (Array.getElem?_eq_some_iff.mp foundLeft).1
        ⟨congrArg some outlasts.tables.symm,
          fun _ found => Option.some.inj found ▸ sound,
          fun _ found => Option.some.inj found ▸
            sound.of_bare outlasts.tables outlasts.remembers_other⟩
        trivial
    have needed : (right.run step).1 =
        ((left.withContainer number container.reopened).run step).1 :=
      (needs other other.reopened.blob foundRight).symm.trans
        (opened.run (spares_withContainer.mpr spares)).1.symm
    obtain isOpen | isClosed := container.reopened_or_closed
    · rwa [← isOpen, withContainer_of_present foundLeft] at needed
    · -- Closed as well, it may fail where it would not if it were open; but then the other
      -- one fails in the same way.
      obtain same | released := (agrees.of_reopened foundLeft isClosed).run_release
        (keepsContents_withContainer.mpr keeps) (mt asksReleased_withContainer.mp plain)
      · exact needed.trans same.symm
      · obtain same | failed := agrees.run_release keeps plain
        · exact same
        · exact failed.trans released.symm
  · -- What does not spare the container and keeps its table of contents closes it.
    cases step with
    | ask name request binding =>
        obtain ⟨named, changes⟩ := Classical.not_imp.mp spares
        obtain ⟨answer, closes⟩ :=
          Request.exists_closes (keeps named) (Bool.eq_false_iff.mpr changes)
        rw [run_fst, run_fst, agrees.perform_closing named closes]
    | _ => exact absurd trivial spares

/-! ## Runs -/

theorem Agrees.knows_right
    {likeness : Likeness}
    (agrees : Agrees likeness number made left right) :
    Knows made right.registry right.records right.specs := by
  rw [← agrees.registry, ← agrees.records, ← agrees.specs]
  exact agrees.knows

theorem keepsContentsAll_append
    {workspace : Workspace}
    {earlier later : List Step} :
    KeepsContentsAll number workspace (earlier ++ later) ↔
      KeepsContentsAll number workspace earlier ∧
        KeepsContentsAll number (workspace.after earlier) later := by
  induction earlier generalizing workspace with
  | nil => exact ⟨fun keeps => ⟨trivial, keeps⟩, And.right⟩
  | cons step rest inductionHypothesis =>
      exact (and_congr_right fun _ => inductionHypothesis).trans and_assoc.symm

/-- A workspace agrees with the one in which a container is closed. -/
theorem Agrees.closing
    (agrees : Agrees (.release false) number made left left)
    {name : String}
    (named : left.containerNames.find? name = some number)
    {request : Request TargetName}
    {answer : Answer}
    (closes : request.closes = some answer)
    {binding : Option String}
    {outcome : Outcome}
    (closed : (left.run (.ask name request binding)).1 = .ok outcome) :
    Agrees (.release true) number made left (left.run (.ask name request binding)).2.1 := by
  change Agrees _ _ _ _ ((Step.ask name request binding).perform.on left).2
  rw [run_fst, on_closing named closes] at closed
  rw [on_closing named closes]
  cases environment : ((Session.environmentOf number).on left).1 with
  | error fault =>
      rw [environment] at closed
      contradiction
  | ok found =>
      rw [environment] at closed
      cases present : left.containers[number]? with
      | none =>
          rw [present] at closed
          contradiction
      | some container =>
          have sound := agrees.alike.1 container present
          have replaced : Agrees (.release true) number made
              (left.withContainer number container)
              (left.withContainer number container.closed) :=
            agrees.withContainers (Array.getElem?_eq_some_iff.mp present).1
              ⟨fun _ found => Option.some.inj found ▸ sound, _, _, rfl, rfl,
                Container.outlasts_closed sound.remembers⟩ trivial
          rwa [withContainer_of_present present] at replaced

/-- In a run in which a container is closed at some point, whatever is asked afterwards has
the outcome that it has in the run without closing, value or fault, or fails because the
bytes are released. What needs no byte has the same outcome. The container stays closed; a
location or a table that it remembers is the one that is remembered in the run without
closing, and it still remembers what it did when it was closed. Closing again changes
nothing. -/
theorem closing_only_removes
    {before later : List Step}
    {name : String}
    {number : Nat}
    (named : (initial.after before).containerNames.find? name = some number)
    {request : Request TargetName}
    {answer : Answer}
    (closes : request.closes = some answer)
    {binding : Option String}
    {outcome : Outcome}
    (closed : ((initial.after before).run (.ask name request binding)).1 = .ok outcome)
    (keeps : KeepsContentsAll number initial (before ++ later))
    {left right : Workspace}
    (unclosed : left = initial.after (before ++ later))
    (ended : right = initial.after (before ++ .ask name request binding :: later)) :
    (∀ step, left.KeepsContents number step → ¬left.AsksReleased number step →
      ((right.run step).1 = (left.run step).1 ∨ (right.run step).1 = .error .released) ∧
        (right.NeedsNoByte number step → (right.run step).1 = (left.run step).1)) ∧
    (∀ step, right.Byteless number step → right.NeedsNoByte number step) ∧
    (∃ earlier container other, (initial.after before).containers[number]? = some earlier ∧
      left.containers[number]? = some container ∧ right.containers[number]? = some other ∧
      other.blob.released ∧ container.Retains other ∧ other.Retains earlier) ∧
    ∀ (name : String) (request : Request TargetName) answer binding,
      request.closes = some answer → right.containerNames.find? name = some number →
        (right.run (.ask name request binding)).2 = (right, []) := by
  obtain ⟨keepsBefore, keepsLater⟩ := keepsContentsAll_append.mp keeps
  have start : Agrees (.release false) number Catalogue.specs initial initial :=
    .self ⟨fun _ found => by contradiction, rfl⟩ knows_initial trivial
  obtain ⟨between, _, agreesBefore⟩ := start.after_release keepsBefore
  have agreesClosed := agreesBefore.closing named closes closed
  obtain ⟨_, earlier, _, present, _⟩ := id agreesClosed.alike
  obtain ⟨made, _, agrees⟩ := agreesClosed.after_release keepsLater
  obtain ⟨effects, presentLast⟩ :=
    (settled_after before).applyAll_after present (.ask name request binding :: later)
  rw [after_append] at unclosed ended
  cases unclosed
  cases ended
  obtain ⟨_, container, other, foundLeft, foundRight, outlasts⟩ := id agrees.alike
  refine ⟨fun step kept plain => ?_, fun step byteless => ?_, ?_, ?_⟩
  · exact ⟨agrees.run_release kept plain, agrees.run_of_needsNoByte kept plain⟩
  · exact needsNoByte_of_byteless agrees.knows_right byteless
  · refine ⟨earlier, container, other, present, foundLeft, foundRight, outlasts.released,
      outlasts.retains, ?_⟩
    obtain rfl := Option.some.inj (presentLast.symm.trans foundRight)
    exact earlier.retains_applyAll effects
  · intro again closing answer binding closesAgain namedAgain
    exact run_closing_again foundRight outlasts.released namedAgain closesAgain binding

/-- A session that opens a container and keeps a view of its partition. -/
def viewKept : List Step := [
  .openContainer "f" Container.oneByteData .bytes none,
  .defineRecord "R" ["a"] [.named "U8"] (some ⟨"r", "Index", .null⟩),
  .ask "f" (.partition (.named "R")) (some "v")]

theorem closing_only_removes_viewKept :
    KeepsContentsAll 0 initial (viewKept ++ []) ∧
    ((initial.after viewKept).run (.viewPart "v" (.element (.integer 0)))).1.isOk ∧
    ((initial.after (viewKept ++ [.ask "f" .close none])).run
      (.viewPart "v" (.element (.integer 0)))).1 = .error .released ∧
    ((initial.after (viewKept ++ [.ask "f" .close none])).run (.viewPart "v" .describe)).1 =
      ((initial.after viewKept).run (.viewPart "v" .describe)).1 := by
  have keeps : KeepsContentsAll 0 initial (viewKept ++ []) :=
    ⟨trivial, trivial, fun _ => rfl, trivial⟩
  have named : (initial.after viewKept).containerNames.find? "f" = some 0 := by
    decide +kernel
  have answered : ((initial.after viewKept).run (.ask "f" .close none)).1.isOk := by
    decide +kernel
  have read : ((initial.after viewKept).run
      (.viewPart "v" (.element (.integer 0)))).1.isOk := by
    decide +kernel
  have unread : ((initial.after (viewKept ++ [.ask "f" .close none])).run
      (.viewPart "v" (.element (.integer 0)))).1.isOk = false := by
    decide +kernel
  obtain ⟨outcome, closed⟩ := Fallible.exists_of_isOk answered
  obtain ⟨answers, byteless, _⟩ := closing_only_removes named rfl closed keeps rfl rfl
  refine ⟨keeps, read, ?_, ?_⟩
  · obtain same | released :=
      (answers (.viewPart "v" (.element (.integer 0))) trivial not_false).1
    · rw [same] at unread
      exact absurd (unread.symm.trans read) Bool.false_ne_true
    · exact released
  · exact (answers (.viewPart "v" .describe) trivial not_false).2
      (byteless (.viewPart "v" .describe) fun _ _ => trivial)

end Workspace
end ModuleInterface

import Mathlib
import ModuleInterface.Proofs.Workspace.Asking
import ModuleInterface.Proofs.Workspace.Leaves
import ModuleInterface.Proofs.Workspace.Located

/-!
# Views that a session names

A step names a view only if it asks a container, and the view is what the container
answers. So what holds of all views that are named, and of the answer, holds of all views
that are named afterwards (`Workspace.HoldOfViews.perform`). In particular every view that
is named is one of a container that is there (`Workspace.views_after`).
-/

namespace ModuleInterface

namespace Workspace

/-- Something holds of every view that is named, with the number of its container. -/
def HoldOfViews (workspace : Workspace) (holds : Nat → View → Prop) : Prop :=
  ∀ part number view, workspace.views.find? part = some (number, view) → holds number view

/-- What a step asks the container of a number: what its request stands for, or a part of a
view of the container. -/
def Asks (workspace : Workspace) (number : Nat) (found : Request Target) : Step → Prop
  | .ask container request _ =>
      workspace.containerNames.find? container = some number ∧
        ((request.lookup Session.target).on workspace).1 = .ok found
  | .viewPart part _ =>
      ∃ view, workspace.views.find? part = some (number, view) ∧ found.view? = some view
  | _ => False

end Workspace

namespace Session

variable {α β : Type} {holds : Nat → View → Prop}

/-! ## Parts of steps -/

/-- A part of a session keeps what holds of all views that are named. -/
def KeepsViews (holds : Nat → View → Prop) (session : Session α) : Prop :=
  ∀ workspace : Workspace, workspace.HoldOfViews holds →
    (session.on workspace).2.HoldOfViews holds

theorem Leaves.keepsViews
    {session : Session α}
    (leaves : Leaves Workspace.views session) :
    KeepsViews holds session := by
  intro workspace before part number view bound
  rw [leaves workspace] at bound
  exact before part number view bound

theorem KeepsViews.bind
    {first : Session α}
    {rest : α → Session β}
    (keepsFirst : KeepsViews holds first)
    (keepsRest : ∀ value, KeepsViews holds (rest value)) :
    KeepsViews holds (first >>= rest) := by
  intro workspace before
  have between := keepsFirst workspace before
  rw [on_bind]
  generalize first.on workspace = ran at between
  obtain ⟨outcome, after⟩ := ran
  cases outcome with
  | error fault => exact between
  | ok value => exact keepsRest value after between

/-- An answer that is a view is named if what holds of all views holds of it. -/
theorem keepsViews_bindAnswer
    {number : Nat}
    {answer : Answer}
    (given : ∀ view, answer = .view view → holds number view)
    (name : Option String) :
    KeepsViews holds (bindAnswer name number answer) := by
  intro workspace before
  cases answer with
  | view view =>
      cases name with
      | none => exact before
      | some name =>
          intro part other named bound
          change (workspace.views.bind name (number, view)).find? part = _ at bound
          rw [Bindings.find?_bind] at bound
          split at bound
          · cases bound
            exact given view rfl
          · exact before part other named bound
  | _ => exact before

/-- A container is asked, and what follows is given its answer. -/
theorem holdOfViews_ask
    {workspace : Workspace}
    (before : workspace.HoldOfViews holds)
    {number : Nat}
    {found : Request Target}
    {rest : Answer → Session α}
    (keeps : ∀ answer, ((askContainer number found).on workspace).1 = .ok answer →
      KeepsViews holds (rest answer)) :
    ((askContainer number found >>= rest).on workspace).2.HoldOfViews holds := by
  have between : ((askContainer number found).on workspace).2.HoldOfViews holds :=
    (Leaves.askContainer Workspace.apart_views number found).keepsViews workspace before
  rw [on_bind]
  generalize (askContainer number found).on workspace = ran at between keeps
  obtain ⟨outcome, after⟩ := ran
  cases outcome with
  | error fault => exact between
  | ok answer => exact keeps answer rfl after between

/-- A container that answers is there. -/
theorem exists_answer_of_ask
    {workspace : Workspace}
    {number : Nat}
    {found : Request Target}
    {answer : Answer}
    (answered : ((askContainer number found).on workspace).1 = .ok answer) :
    ∃ environment container, workspace.containers[number]? = some container ∧
      ((found.answer workspace.registry environment).on container).1 = .ok answer := by
  rw [← bind_pure (askContainer number found), on_askContainer_bind] at answered
  cases known : ((environmentOf number).on workspace).1 with
  | error fault =>
      rw [known] at answered
      contradiction
  | ok environment =>
      cases present : workspace.containers[number]? with
      | none =>
          rw [known, present] at answered
          contradiction
      | some container =>
          simp only [known, present] at answered
          refine ⟨environment, container, rfl, ?_⟩
          generalize ((found.answer workspace.registry environment).on container).1 = outcome
            at answered
          cases outcome with
          | error fault => contradiction
          | ok given => exact answered

end Session

/-! ## Steps -/

namespace Workspace

variable {workspace : Workspace} {holds : Nat → View → Prop}

/-- What holds of all views that are named, and of the view that a container answers to a
step, holds of all views that are named after the step. -/
theorem HoldOfViews.perform
    (before : workspace.HoldOfViews holds)
    {step : Step}
    (answers : ∀ number found view, workspace.Asks number found step →
      ((Session.askContainer number found).on workspace).1 = .ok (.view view) →
        holds number view) :
    (step.perform.on workspace).2.HoldOfViews holds := by
  cases step with
  | ask container request name =>
      cases named : workspace.containerNames.find? container with
      | none =>
          rw [Session.on_ask_of_none named]
          exact before
      | some number =>
          rw [Session.on_ask_of_some named, Session.on_askNumbered]
          cases looked : ((request.lookup Session.target).on workspace).1 with
          | error fault => exact before
          | ok found =>
              refine Session.holdOfViews_ask before fun answer answered => ?_
              refine (Session.keepsViews_bindAnswer (fun view same => ?_) name).bind fun _ => ?_
              · rw [same] at answered
                exact answers number found view ⟨named, looked⟩ answered
              · exact ((Session.Leaves.nameAnswer answer).bind fun _ => .pure _).keepsViews
  | viewPart part request =>
      rw [Step.perform, Session.on_get_bind, Session.bound]
      cases bound : workspace.views.find? part with
      | none => exact before
      | some found =>
          obtain ⟨number, view⟩ := found
          rw [pure_bind]
          cases request with
          | element key =>
              exact ((Session.Leaves.askContainer apart_views _ _).bind fun _ =>
                .pure _).keepsViews workspace before
          | elements =>
              exact ((Session.Leaves.askContainer apart_views _ _).bind fun _ =>
                .pure _).keepsViews workspace before
          | slice range name =>
              refine Session.holdOfViews_ask before fun answer answered => ?_
              refine (Session.keepsViews_bindAnswer (fun part same => ?_) name).bind fun _ => ?_
              · rw [same] at answered
                exact answers number (.slice view range) part ⟨view, bound, rfl⟩ answered
              · exact (Session.Leaves.pure _).keepsViews
          | describe => exact before
  | unreadable subjects fault =>
      exact ((Session.Leaves.forM (Session.Leaves.requireSubject apart_views) subjects).bind
        fun _ => .throw _).keepsViews workspace before
  | _ =>
      exact (Session.Leaves.perform apart_views (.inl rfl)
        (.inr fun _ _ => rfl)).keepsViews workspace before

/-- A session names views only of containers that are there. -/
theorem views_after
    (steps : List Step) :
    (initial.after steps).HoldOfViews fun number _ =>
      number < (initial.after steps).containers.size := by
  induction steps using List.reverseRecOn with
  | nil => exact fun _ _ _ bound => by contradiction
  | append_singleton steps step inductionHypothesis =>
      have present : ∀ number container,
          (initial.after steps).containers[number]? = some container →
            number < (initial.after (steps ++ [step])).containers.size := by
        intro number container present
        rw [after_append]
        have kept := ((settled_after steps).leaves_perform present step).1
        exact (Array.getElem?_eq_some_iff.mp kept).1
      have before : (initial.after steps).HoldOfViews fun number _ =>
          number < (initial.after (steps ++ [step])).containers.size := by
        intro part number view bound
        have placed := inductionHypothesis part number view bound
        exact present number _ (Array.getElem?_eq_getElem placed)
      rw [after_append] at before present ⊢
      refine before.perform fun number found view _ answered => ?_
      obtain ⟨_, container, here, _⟩ := Session.exists_answer_of_ask answered
      exact present number container here

end Workspace
end ModuleInterface

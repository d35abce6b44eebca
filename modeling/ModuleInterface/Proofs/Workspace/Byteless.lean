import Mathlib
import ModuleInterface.Proofs.Container.Byteless
import ModuleInterface.Proofs.Workspace.Asking
import ModuleInterface.Proofs.Workspace.History

/-!
# Steps that need no byte

A step needs no byte of a container if its outcome is the same whatever the blob of the
container is (`Workspace.NeedsNoByte`). Such are the steps that have nothing to do with the
container, those that ask it for something it needs no byte for, and those that describe a
view of it, or slice it, or are refused by it (`Workspace.Byteless`).
-/

namespace ModuleInterface

/-! ## Workspaces that differ in a blob -/

namespace Likeness

/-- The container may have another blob. -/
def blob : Likeness where
  alike _ left right := ∃ blob, right = left.map fun container => { container with blob }
  admits _ _ := True
  mono alike _ := alike
  environment := by
    rintro made left right ⟨blob, rfl⟩
    cases left <;> rfl
  opened _ _ := ⟨_, rfl⟩

theorem keeps_blob
    {α : Type}
    {made : List PartitionSpec}
    {query : Query α}
    (blind : query.Blind) :
    blob.Keeps made query := by
  rintro left right ⟨blob, found⟩
  cases found
  rw [blind left blob]
  exact ⟨rfl, blob, rfl⟩

end Likeness

/-- Requests to a view that need no byte: its description and its slices, its elements if it
has none, and elements that it refuses. -/
def ViewRequest.Byteless (view : View) : ViewRequest → Prop
  | .element key => view.Refuses key
  | .elements => view.count = 0
  | .slice _ _ => True
  | .describe => True

namespace Workspace

/-- The outcome of a step is the same whatever the blob of the container of a number is. -/
def NeedsNoByte (workspace : Workspace) (number : Nat) (step : Step) : Prop :=
  ∀ container blob, workspace.containers[number]? = some container →
    ((workspace.withContainer number { container with blob }).run step).1 =
      (workspace.run step).1

/-- Steps that need no byte of the container of a number: those that put a request to it, or
to a view of it, that needs none, and all that do not ask it anything. -/
def Byteless (workspace : Workspace) (number : Nat) : Step → Prop
  | .ask name request _ => workspace.containerNames.find? name = some number →
      ∀ found container, ((request.lookup Session.target).on workspace).1 = .ok found →
        workspace.containers[number]? = some container →
          found.Byteless workspace.registry container
  | .viewPart part request => ∀ view, workspace.views.find? part = some (number, view) →
      request.Byteless view
  | _ => True

variable {made : List PartitionSpec} {workspace : Workspace}
variable {number : Nat} {container : Container}

theorem agrees_withBlob
    (knows : Knows made workspace.registry workspace.records workspace.specs)
    (present : workspace.containers[number]? = some container)
    (blob : Blob) :
    Agrees .blob number made workspace
      (workspace.withContainer number { container with blob }) := by
  have itself : Agrees (.same fun _ _ => True) number made workspace workspace :=
    .self rfl knows trivial
  have replaced : Agrees .blob number made (workspace.withContainer number container)
      (workspace.withContainer number { container with blob }) :=
    itself.withContainers (Array.getElem?_eq_some_iff.mp present).1 ⟨blob, rfl⟩ trivial
  rwa [withContainer_of_present present] at replaced

end Workspace

namespace Session

variable {α : Type} {made : List PartitionSpec} {workspace : Workspace}
variable {number : Nat} {container : Container}

/-- What is left of a step after its container answered does not look at containers. -/
def LooksAtNames (rest : Answer → Session α) : Prop :=
  ∀ answer (first second : Workspace), first.containerNames = second.containerNames →
    ((rest answer).on first).1 = ((rest answer).on second).1

theorem looksAtNames_answered
    (name : Option String)
    (number : Nat) :
    LooksAtNames (answered name number) := by
  intro answer first second names
  cases answer with
  | view view => cases name <;> rfl
  | container other =>
      change Except.ok (Outcome.answer (.optionalText ((List.find? _
        first.containerNames).map (·.1)))) = _
      rw [names]
      rfl
  | _ => rfl

theorem LooksAtNames.continued
    {rest : Answer → Session α}
    (looks : LooksAtNames rest)
    (outcome : Except Fault Answer)
    {first second : Workspace}
    (names : first.containerNames = second.containerNames) :
    (Session.continued rest outcome first).1 = (Session.continued rest outcome second).1 := by
  cases outcome with
  | error fault => rfl
  | ok answer => exact looks answer first second names

/-- A container is asked for something it needs no byte for. -/
theorem on_askContainer_withBlob
    (knows : Knows made workspace.registry workspace.records workspace.specs)
    (present : workspace.containers[number]? = some container)
    (blob : Blob)
    {found : Request Target}
    (byteless : found.Byteless workspace.registry container)
    {rest : Answer → Session α}
    (looks : LooksAtNames rest) :
    ((askContainer number found >>= rest).on
        (workspace.withContainer number { container with blob })).1 =
      ((askContainer number found >>= rest).on workspace).1 := by
  have agrees := Workspace.agrees_withBlob knows present blob
  have environments := (agrees.steady (Steady.environmentOf number)).1
  obtain ⟨bound, _⟩ := Array.getElem?_eq_some_iff.mp present
  have replaced : (workspace.withContainer number { container with blob }).containers[number]? =
      some { container with blob } := by
    simp [Workspace.withContainer, bound]
  rw [on_askContainer_bind, on_askContainer_bind, ← environments, present, replaced]
  cases ((environmentOf number).on workspace).1 with
  | error fault => rfl
  | ok environment =>
      have needs := Query.needsNoByte_of_byteless environment byteless blob
      simp only
      rw [← agrees.registry, needs]
      exact looks.continued _ rfl

/-- A container is asked, and its answer is shown. -/
theorem on_askNumbered_withBlob
    (knows : Knows made workspace.registry workspace.records workspace.specs)
    (present : workspace.containers[number]? = some container)
    (blob : Blob)
    {request : Request TargetName}
    (byteless : ∀ found, ((request.lookup target).on workspace).1 = .ok found →
      found.Byteless workspace.registry container)
    (name : Option String) :
    ((askNumbered number request name).on
        (workspace.withContainer number { container with blob })).1 =
      ((askNumbered number request name).on workspace).1 := by
  have agrees := Workspace.agrees_withBlob knows present blob
  have lookups := (agrees.steady (Steady.lookup knows.catalogue request)).1
  rw [on_askNumbered, on_askNumbered, ← lookups]
  cases looked : ((request.lookup target).on workspace).1 with
  | error fault => rfl
  | ok found =>
      exact on_askContainer_withBlob knows present blob (byteless found looked)
        (looksAtNames_answered name number)

theorem on_useView_withBlob
    (knows : Knows made workspace.registry workspace.records workspace.specs)
    (present : workspace.containers[number]? = some container)
    (blob : Blob)
    {view : View}
    {request : ViewRequest}
    (byteless : request.Byteless view) :
    ((useView number view request).on
        (workspace.withContainer number { container with blob })).1 =
      ((useView number view request).on workspace).1 := by
  cases request with
  | element key =>
      have asked : (Request.element view key).Byteless workspace.registry container := byteless
      exact on_askContainer_withBlob knows present blob asked fun _ _ _ _ => rfl
  | elements =>
      have asked : (Request.elements view).Byteless workspace.registry container := byteless
      exact on_askContainer_withBlob knows present blob asked fun _ _ _ _ => rfl
  | slice range name =>
      have asked : (Request.slice view range).Byteless workspace.registry container := trivial
      refine on_askContainer_withBlob knows present blob asked fun answer _ _ _ => ?_
      cases answer with
      | view view => cases name <;> rfl
      | _ => rfl
  | describe => rfl

end Session

namespace Workspace

variable {made : List PartitionSpec} {workspace : Workspace} {number : Nat}

/-- The steps that are byteless need no byte. -/
theorem needsNoByte_of_byteless
    (knows : Knows made workspace.registry workspace.records workspace.specs)
    {step : Step}
    (byteless : workspace.Byteless number step) :
    workspace.NeedsNoByte number step := by
  intro container blob present
  have agrees := agrees_withBlob knows present blob
  have grown := knows.catalogue
  suffices same : (step.perform.on (workspace.withContainer number { container with blob })).1 =
      (step.perform.on workspace).1 by
    rw [run_fst, run_fst, same]
  cases asks : step.asks with
  | false =>
      exact (agrees.steady (Session.Steady.perform grown asks (.inr fun _ _ _ _ => trivial)
        (.inr fun _ _ _ => trivial))).1.symm
  | true =>
      cases step with
      | ask name request binding =>
          have names := agrees.containerNames
          cases named : workspace.containerNames.find? name with
          | none => rw [Session.on_ask_of_none named, Session.on_ask_of_none (names ▸ named)]
          | some other =>
              rw [Session.on_ask_of_some named, Session.on_ask_of_some (names ▸ named)]
              by_cases here : other = number
              · subst here
                exact Session.on_askNumbered_withBlob knows present blob
                  (fun found looked => byteless named found container looked present) binding
              · exact (agrees.steady
                  (Session.Steady.askNumbered grown (.inl here) binding)).1.symm
      | viewPart part request =>
          rw [Step.perform, Session.on_get_bind, Session.on_get_bind, ← agrees.views]
          cases found : workspace.views.find? part with
          | none => simp only [Session.bound, found]; rfl
          | some placed =>
              obtain ⟨other, view⟩ := placed
              simp only [Session.bound, found]
              by_cases here : other = number
              · subst here
                exact Session.on_useView_withBlob knows present blob (byteless view found)
              · exact (agrees.steady
                  (Session.Steady.useView other view request (.inl here))).1.symm
      | unreadable subjects fault =>
          exact (agrees.steady (Session.Steady.unreadable grown
            (fun _ spec _ => Likeness.keeps_blob (.partition spec)) subjects fault)).1.symm
      | _ => contradiction

end Workspace
end ModuleInterface

import ModuleInterface.Bindings
import ModuleInterface.Builder
import ModuleInterface.Container.Request

/-!
# Workspaces

A workspace holds everything that one session works on under names of the
session's choice: containers, environments, blobs, views, records and
specifications, each in a name space of its own, together with the registry and
a container that is being built. Binding a name again replaces what it stands
for.
-/

namespace ModuleInterface

/-- A record that is known by name, with the specification of its partition. -/
structure KnownRecord where
  schema : Schema
  spec : Option PartitionSpec
  deriving Repr

/-- What one session works on. -/
structure Workspace where
  registry : Registry
  records : Bindings String KnownRecord
  specs : Bindings String PartitionSpec
  /-- The containers, by number. -/
  containers : Array Container
  containerNames : Bindings String Nat
  /-- The environments, by number. -/
  environments : Array Environment
  environmentNames : Bindings String Nat
  blobs : Bindings String Blob
  /-- The views, each with the number of its container. -/
  views : Bindings String (Nat × View)
  builder : Builder
  /-- What was reported, the latest last. -/
  log : List Event
  deriving Repr

/-- A step of a session: it may change the workspace, whether it answers or fails. -/
abbrev Session (α : Type) := ExceptT Fault (StateM Workspace) α

namespace Workspace

/-- The record of a specification that has records of its own. -/
def recordOfSpec? (spec : PartitionSpec) : Option (String × KnownRecord) :=
  match spec.element with
  | .record schema => some (schema.name, ⟨schema, some spec⟩)
  | _ => none

/-- The records of the format: each with the first specification that has it. -/
def formatRecords : Bindings String KnownRecord :=
  (Catalogue.looseSchemas.map fun schema => (schema.name, ⟨schema, none⟩)) ++
    Catalogue.specs.filterMap recordOfSpec?

/-- The workspace that a session starts with. -/
def initial : Workspace where
  registry := Catalogue.registry
  records := formatRecords
  specs := []
  containers := #[]
  containerNames := []
  environments := #[]
  environmentNames := []
  blobs := []
  views := []
  builder := Builder.empty
  log := []

end Workspace

namespace Session

/-- What a name is bound to in one of the name spaces. -/
def bound {α : Type} (bindings : Bindings String α) (name : String) : Session α :=
  match bindings.find? name with
  | some value => return value
  | none => throw (.unbound name)

/-- Report some events. -/
def report (events : List Event) : Session Unit :=
  modify fun workspace => { workspace with log := workspace.log ++ events }

/-- Run a query on the container of a number. The query is reported even when it
fails. -/
def onContainer {α : Type} (number : Nat) (query : Query α) : Session α := do
  match (← get).containers[number]? with
  | none => throw (.unbound (toString number))
  | some container =>
      let (outcome, after) := query.on container
      modify fun workspace =>
        { workspace with containers := workspace.containers.setIfInBounds number after }
      report (after.journal.drop container.journal.length)
      ofExcept outcome

/-- The number of the container of a name. -/
def containerNumber (name : String) : Session Nat := do
  bound (← get).containerNames name

/-- The number of the environment of a name. -/
def environmentNumber (name : String) : Session Nat := do
  bound (← get).environmentNames name

/-- The environment of a number. -/
def environmentAt (number : Nat) : Session Environment := do
  match (← get).environments[number]? with
  | some environment => return environment
  | none => throw (.unbound (toString number))

/-- The environment that a container was opened with. -/
def environmentOf (number : Nat) : Session (Option Environment) := do
  match (← get).containers[number]? >>= Container.environment with
  | none => return none
  | some environment => return some (← environmentAt environment)

/-- The first name that is bound to a container. -/
def nameOfContainer (number : Nat) : Session (Option String) := do
  let names := (← get).containerNames
  return (List.find? (fun entry => entry.2 == number) names).map (·.1)

/-- Add a container and bind a name to it. -/
def bindContainer (name : String) (container : Container) : Session Unit :=
  modify fun workspace =>
    { workspace with
      containers := workspace.containers.push container
      containerNames := workspace.containerNames.bind name workspace.containers.size }

/-- Bind a name to a view of a container, if there is a name. -/
def bindView (name : Option String) (number : Nat) (view : View) : Session Unit :=
  match name with
  | none => return ()
  | some name =>
      modify fun workspace =>
        { workspace with views := workspace.views.bind name (number, view) }

/-- Replace the registry. -/
def setRegistry (registry : Registry) : Session Unit :=
  modify fun workspace => { workspace with registry }

/-- The record of a name. -/
def recordNamed (name : String) : Session KnownRecord := do
  bound (← get).records name

end Session
end ModuleInterface

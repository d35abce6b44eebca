import ModuleInterface.Bindings
import ModuleInterface.Event
import ModuleInterface.Fault

/-!
# Environments

An environment knows containers by module name. Adding a name again replaces
its container and keeps its place.
-/

namespace ModuleInterface

/-- Numbers of containers by module name. -/
structure Environment where
  modules : Bindings String Nat
  deriving Repr

namespace Environment

/-- The environment that knows no module. -/
def empty : Environment := ⟨[]⟩

/-- The container of a name. -/
def find? (environment : Environment) (name : String) : Option Nat :=
  environment.modules.find? name

/-- Give a name to a container. -/
def add (environment : Environment) (name : String) (container : Nat) : Environment :=
  ⟨environment.modules.bind name container⟩

/-- What is reported when a name is given to a container. -/
def addEvents (environment : Environment) (name : String) (container : Nat) : List Event :=
  match environment.find? name with
  | some earlier => if earlier = container then [] else [.moduleReplaced name]
  | none => []

/-- The container of a name, which must be known. -/
def require (environment : Environment) (name : String) : Except Fault Nat :=
  match environment.find? name with
  | some container => .ok container
  | none => .error (.moduleAbsent name)

/-- The known names, in the order of first addition. -/
def names (environment : Environment) : List String :=
  environment.modules.keys

end Environment
end ModuleInterface

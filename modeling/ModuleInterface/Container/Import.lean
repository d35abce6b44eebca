import ModuleInterface.Container.Resolve
import ModuleInterface.Container.Traits
import ModuleInterface.Environment

/-!
# Imported modules

A declaration that another module owns is referred to by the names of the owner
and of a partition of it. The other module is looked up in the environment that
the container was opened with, which may know no module at all; a container
that was opened without one looks nothing up.
-/

namespace ModuleInterface
namespace Query

/-- The text that a value is the offset of. -/
def textOf (offset : Value) : Query String := do
  stringAt (← ofExcept offset.toInteger)

/-- The name that a module reference is looked up by: that of the partition when
the owner is null, and otherwise that of the owner, followed by that of the
partition unless it is null. -/
def moduleName (reference : Value) : Query String := do
  let owner ← ofExcept (reference.part "owner")
  if ← ofExcept (owner.holds "is_null") then
    textOf (← ofExcept (reference.part "partition"))
  else
    let name ← textOf owner
    let partition ← ofExcept (reference.part "partition")
    if ← ofExcept (partition.holds "is_null") then return name
    else return name ++ ":" ++ (← textOf partition)

/-- The number of the container that a module reference names. -/
def importedModule (environment : Option Environment) (reference : Value) :
    Query Nat := do
  match environment with
  | none => throw .environmentAbsent
  | some environment =>
      let name ← moduleName reference
      record (.importing name)
      ofExcept (environment.require name)

/-- The number of the container that the unit of a record names. -/
def importedUnit (environment : Option Environment) (record : Value) : Query Nat := do
  importedModule environment (← ofExcept (record.part "unit"))

end Query
end ModuleInterface

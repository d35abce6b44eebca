import ModuleInterface.Fault
import ModuleInterface.Value

/-!
# Values as keys

A value can be looked up, and told from others, unless its content can change.
-/

namespace ModuleInterface
namespace Value

/-- What a value holds whose content can change, if it holds such a thing. -/
def mutable? : Value → Option Value
  | .list items => some (.list items)
  | .entries items => some (.entries items)
  | .sequence start cardinality => start.mutable?.or cardinality.mutable?
  | .location line column => line.mutable?.or column.mutable?
  | _ => none

/-- Fail unless a value can be looked up. -/
def requireKey (value : Value) : Except Fault Unit :=
  match value.mutable? with
  | some part => .error (.notKey part.typeName)
  | none => .ok ()

/-- The values that differ from every one before them. -/
def distinct (values : List Value) : Except Fault (List Value) := do
  values.forM requireKey
  return values.foldl
    (fun seen value =>
      if seen.any fun earlier => bothNan earlier value || earlier.same value then seen
      else seen ++ [value]) []

@[simp] theorem requireKey_tagged (index : TaggedIndex) :
    (tagged index).requireKey = .ok () := rfl

end Value
end ModuleInterface

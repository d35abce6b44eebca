import ModuleInterface.Schema.Names
import ModuleInterface.Text.Normal

/-!
# How records of a shape are made

A record is made from the values of its fields, each given under the name of its
field. What every shape has under the name of a field is the default of the field;
fields without a default come first. Names are told apart by their normal forms, but
a value is given under the name of its field as it is, so that a name has to be its
own normal form (`ofText_eq_of_requireParameters`).
-/

namespace ModuleInterface
namespace Schema

/-- What every shape has, and so what a field of the same name has for its default. -/
def members : List String := [
  "LAYOUT", "__base__", "__bases__", "__basicsize__", "__call__", "__class__",
  "__dataclass_params__", "__delattr__", "__dictoffset__", "__dir__", "__doc__", "__eq__",
  "__flags__", "__format__", "__ge__", "__getattribute__", "__getstate__", "__gt__",
  "__hash__", "__init__", "__init_subclass__", "__instancecheck__", "__itemsize__",
  "__le__", "__lt__", "__module__", "__mro__", "__name__", "__ne__", "__new__", "__or__",
  "__prepare__", "__qualname__", "__reduce__", "__reduce_ex__", "__repr__", "__ror__",
  "__setattr__", "__sizeof__", "__str__", "__subclasscheck__", "__subclasses__",
  "__subclasshook__", "__text_signature__", "__weakref__", "__weakrefoffset__", "mro"]

/-- What every shape has and can change, so that no field can have it for its
default. -/
def sharedMembers : List String := ["__annotations__", "__dict__"]

/-- Fail if a default would be shared by all records. -/
def requireOwnDefaults (fields : List String) : Except Fault Unit :=
  if fields.any fun field => sharedMembers.contains field then .error .defaultShared
  else .ok ()

/-- Fail if a field without a default comes after one that has a default. -/
def requireDefaultsLast (defaultSeen : Bool) : List String → Except Fault Unit
  | [] => .ok ()
  | field :: rest =>
      if members.contains field then requireDefaultsLast true rest
      else if defaultSeen then .error (.fieldAfterDefault (Quoted.render field))
      else requireDefaultsLast defaultSeen rest

/-- The name under which the type of a field is given. -/
def typeParameter (field : String) : String :=
  "_type_" ++ field

/-- The name of the record that is made, among the names of its fields. -/
def receiver (fields : List String) : String :=
  if fields.contains "self" then "__dataclass_self__" else "self"

/-- The name that stands for a constant. -/
def constantName : String := "__debug__"

/-- The first name that is among some others or repeats one before it. -/
def repeated? (earlier : List String) : List String → Option String
  | [] => none
  | name :: rest =>
      if earlier.contains name then some name else repeated? (name :: earlier) rest

/-- Fail unless values can be given under the names of the fields. The types of the
fields come first, the fields themselves second. -/
def requireParameters (fields : List String) : Except Fault Unit :=
  let names := fields.map Normal.ofText
  match repeated? [] names with
  | some name => .error (.parameterRepeated (typeParameter name) 1)
  | none =>
      if names.contains (receiver fields) then
        .error (.parameterRepeated (receiver fields) 2)
      else if names.contains constantName then .error (.parameterConstant constantName 2)
      else
        match fields.find? fun field => Normal.ofText field != field with
        | some field => .error (.parameterUnknown (typeParameter field))
        | none => .ok ()

/-- Fail unless records can be made from fields of the given names. -/
def requireConstruction (fields : List String) : Except Fault Unit := do
  requireOwnDefaults fields
  requireDefaultsLast false fields
  requireParameters fields

/-- A name under which a value can be given is its own normal form. -/
theorem ofText_eq_of_requireParameters {fields : List String}
    (accepted : requireParameters fields = .ok ()) :
    ∀ field ∈ fields, Normal.ofText field = field := by
  unfold requireParameters at accepted
  simp only at accepted
  split at accepted
  · cases accepted
  · split at accepted
    · cases accepted
    · split at accepted
      · cases accepted
      · split at accepted
        · cases accepted
        · rename_i absent
          intro field member
          have same := List.find?_eq_none.mp absent field member
          simpa using same

end Schema
end ModuleInterface

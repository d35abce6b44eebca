import ModuleInterface.Fault
import ModuleInterface.Value

/-!
# What is read and makes no value

A number that an enumeration has to name makes no value where it does not, and no
number makes an index whose kind is left open. Some names belong to what every record
has besides its fields: its shape, the references to it, and what sets its fields. A
shape may give these names to fields, but no record of the shape can be made.
-/

namespace ModuleInterface

/-- Why a number makes no member of an enumeration, if it makes none. -/
def Enumeration.refusal? (enumeration : Enumeration) (number : Nat) : Option Fault :=
  if enumeration.Knows number then none
  else some (.notMember (toString number) enumeration.name)

/-- Why no number makes an index of a kind, if none does: its division into sort and
position is not known. -/
def IndexKind.refusal? (kind : IndexKind) : Option Fault :=
  match kind with
  | .anyTagged => some (.typeMemberAbsent kind.label "SORT_BITS")
  | _ => none

@[simp] theorem IndexKind.refusal?_tagged (kind : TaggedKind) :
    (IndexKind.tagged kind).refusal? = none := rfl

@[simp] theorem IndexKind.refusal?_plain (kind : PlainKind) :
    (IndexKind.plain kind).refusal? = none := rfl

namespace Value

/-- The name of the shape of a record. -/
def shapeMember : String := "__class__"

/-- The name of the references to a record. -/
def referenceMember : String := "__weakref__"

/-- The name of what sets the fields of a record. -/
def setterMember : String := "__dataclass_builtins_object__"

/-- The name of a value that has fields or parts of its own. -/
def compoundName? : Value → Option String
  | .tagged index => some index.kind.label
  | .floating index => some index.kind.label
  | .sequence start cardinality => some (sequence start cardinality).typeName
  | .location line column => some (location line column).typeName
  | .moduleReference reference => some (moduleReference reference).typeName
  | .record name _ => some name
  | _ => none

/-- Why a record cannot hold a value under a name, if it cannot. -/
def fieldRefusal? (record : String) (field : String × Value) : Option Fault :=
  if field.1 = shapeMember then some (.shapeReplaced field.2.typeName)
  else if field.1 = referenceMember then some (.memberReadOnly field.1 record)
  else none

/-- Why there is no record with some fields, if there is none. -/
def recordRefusal? (record : String) (fields : List (String × Value)) : Option Fault :=
  match fields.lookup setterMember with
  | some value => some (.setterReplaced value.compoundName?)
  | none => fields.findSome? (fieldRefusal? record)

end Value
end ModuleInterface

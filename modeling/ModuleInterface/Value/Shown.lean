import ModuleInterface.Value.Part

/-!
# Values that can be shown

An answer shows its values in numerals. A number with too many digits has none, and
only what is compared with numbers is shown as a number of a range or of a place. A
record names its fields itself and cannot be shown when a field takes the place of
their names.
-/

namespace ModuleInterface
namespace Value

/-- The name under which a record names its fields. -/
def fieldNamesMember : String := "__dataclass_fields__"

/-- The name of the operation that lists what names have. -/
def namedMember : String := "values"

/-- Why a record does not name its fields, when a value stands for their names. -/
def fieldNamesFault (value : Value) : Fault :=
  match value.part namedMember with
  | .ok member => .notCallable member.typeName
  | .error fault => fault

/-- Fail unless an integer has a numeral. -/
def requireNumeral (number : Int) : Except Fault Unit :=
  if Numeral.isPrintable number then .ok () else .error .numberUnprintable

/-- Fail unless a value can be shown as a number of a range or of a place. -/
def requireOrdered (value : Value) : Except Fault Unit :=
  match value.integer?, value.float64? with
  | some number, _ => requireNumeral number
  | none, some _ => .ok ()
  | none, none => .error (.notOrdered value.typeName)

mutual

/-- Fail unless a value can be shown. -/
def requireShown : Value → Except Fault Unit
  | .integer number => requireNumeral number
  | .flags _ number => requireNumeral number
  | .sequence start cardinality => do
      start.requireOrdered
      cardinality.requireOrdered
  | .location line column => do
      line.requireOrdered
      column.requireOrdered
  | .list items => requireShownItems items
  | .entries items => requireShownFields items
  | .record _ fields =>
      match fields.lookup fieldNamesMember with
      | some value => .error value.fieldNamesFault
      | none => requireShownFields fields
  | _ => .ok ()

/-- Fail unless some values can be shown. -/
def requireShownItems : List Value → Except Fault Unit
  | [] => .ok ()
  | item :: rest => do
      item.requireShown
      requireShownItems rest

/-- Fail unless some values under names can be shown. -/
def requireShownFields : List (String × Value) → Except Fault Unit
  | [] => .ok ()
  | field :: rest => do
      requireShownField field
      requireShownFields rest

/-- Fail unless a value under a name can be shown. -/
def requireShownField : String × Value → Except Fault Unit
  | (_, value) => value.requireShown

end

end Value
end ModuleInterface

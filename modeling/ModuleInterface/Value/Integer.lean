import ModuleInterface.Fault
import ModuleInterface.Number.Numeral
import ModuleInterface.Text.Quoted
import ModuleInterface.Value

/-!
# The integer of a value

Where an integer is asked for, a value will do that stands for one, that has an
integer part, or that spells one. `integer?` is the first of these alone;
`toInteger` tries all of them and says why none applies. An offset or a bound
must stand for an integer: `integerOr` takes nothing else.
-/

namespace ModuleInterface
namespace Value

/-- The integer that a text spells. A text that spells none is shown by its start. -/
def spelledInteger (content : String) : Except Fault Int :=
  match Numeral.parse content with
  | .ok number => .ok number
  | .error .malformed => .error (.notNumeral (Quoted.excerpt content))
  | .error (.overlong digits) => .error (.numeralOverlong digits)

/-- The integer part of a floating-point number. -/
def wholeInteger (bits : UInt64) : Except Fault Int :=
  if Binary64.isNaN bits then .error .nanHasNoInteger
  else if Binary64.isInfinite bits then .error .infinityHasNoInteger
  else .ok (Binary64.truncate bits)

/-- The integer that a value is converted to. -/
def toInteger (value : Value) : Except Fault Int :=
  match value.integer?, value.float64? with
  | some number, _ => .ok number
  | none, some bits => wholeInteger bits
  | none, none =>
      match value with
      | .text content => spelledInteger content
      | _ => .error (.notInteger value.typeName)

/-- The integer that a value stands for, or the fault of one that stands for none. -/
def integerOr (value : Value) (fault : Fault) : Except Fault Int :=
  match value.integer? with
  | some number => .ok number
  | none => .error fault

/-- The offset that a value stands for. -/
def toOffset (value : Value) : Except Fault Int :=
  value.integerOr (.notLength value.typeName)

/-- The bound of a run of bytes that a value stands for. Nothing stands for the end
that the bound is of. -/
def toBound (absent : Int) : Value → Except Fault Int
  | .null => .ok absent
  | value => value.integerOr .notBound

@[simp] theorem toInteger_integer (number : Int) :
    (Value.integer number).toInteger = .ok number := rfl

@[simp] theorem toInteger_plain (index : PlainIndex) :
    (Value.plain index).toInteger = .ok index.value := rfl

end Value
end ModuleInterface

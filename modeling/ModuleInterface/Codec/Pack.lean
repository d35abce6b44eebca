import ModuleInterface.Bytes.LittleEndian
import ModuleInterface.Codec.Basic

/-!
# Writing a layout

Writing lowers each value to the bare numbers it is stored as and then writes
the words of the flat layout, with zeros where bytes are skipped. It fails when
there are more or fewer values than words that carry one, when a number does
not fit its word, and when a value stands for no number. The two numbers of a
pair are written as they were given.
-/

-- Powers are the core library's, whatever else a reader of this module imports.
attribute [local instance (1100)] instPowNat

namespace ModuleInterface

/-- The bare values that a value is stored as: an index becomes its encoding if it has
one, a pair its two numbers, and whatever stands for an integer that integer. -/
def Value.lower : Value → List Value
  | .tagged index => [.integer index.raw]
  | .sequence start cardinality => [start, cardinality]
  | .location line column => [line, column]
  | .moduleReference reference => [.integer reference.owner, .integer reference.partition]
  | .integer number => [.integer number]
  | .boolean flag => [.integer (if flag then 1 else 0)]
  | .enumerator _ number => [.integer number]
  | .flags _ number => [.integer number]
  | .plain index => [.integer index.value]
  | value => [value]

/-- The bare values that some values are stored as. -/
def Value.flatten (values : List Value) : List Value :=
  values.flatMap Value.lower

/-- The floating-point number that a value is stored as. -/
def Value.storedFloat64? (value : Value) : Option UInt64 :=
  value.float64?.or (value.integer?.bind Binary64.ofInt?)

namespace Word

/-- The bytes of an integer that fits `width` bytes. -/
def packInteger? (width : Nat) (number : Int) : Option (List UInt8) :=
  if 0 ≤ number ∧ number < 256 ^ width then
    some (LittleEndian.encode width number.toNat)
  else none

/-- The bytes of words that carry the given bare values. -/
def packAll? : List Word → List Value → Option (List UInt8)
  | [], [] => some []
  | .skip length :: rest, values => do
      let bytes ← packAll? rest values
      return List.replicate length 0 ++ bytes
  | .unsigned width :: rest, value :: values => do
      let head ← packInteger? width (← value.integer?)
      let bytes ← packAll? rest values
      return head ++ bytes
  | .float64 :: rest, value :: values => do
      let bits ← value.storedFloat64?
      let bytes ← packAll? rest values
      return LittleEndian.encode 8 bits.toNat ++ bytes
  | _, _ => none

/-- An integer that fits its width is written with exactly that many bytes. -/
theorem length_packInteger? {width : Nat} {number : Int} {bytes : List UInt8}
    (packed : packInteger? width number = some bytes) : bytes.length = width := by
  unfold packInteger? at packed
  split at packed
  · simp only [Option.some.injEq] at packed
    simp [← packed]
  · simp at packed

end Word

namespace Codec

/-- The bytes of a layout whose fields have the given values, the values of a
nested record standing in place of the record. -/
def pack? (layout : List Codec) (values : List Value) : Option (List UInt8) :=
  Word.packAll? (layoutWords layout) (Value.flatten values)

end Codec
end ModuleInterface

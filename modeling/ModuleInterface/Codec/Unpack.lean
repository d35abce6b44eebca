import ModuleInterface.Bytes.LittleEndian
import ModuleInterface.Codec.Basic
import ModuleInterface.Value.Refusal

/-!
# Reading a layout

Reading has two stages. The first reads the words of the flat layout one after
another and drops those that are skipped; the second shares the numbers read
out among the codecs by their arities, a nested record taking as many as its
own codecs do together. Where every field is one word, the second stage pairs
numbers and codecs one to one. Numbers that an enumeration has to name and does not,
indices whose kind is left open, and fields that no record can hold make no values;
`layoutRefusal?` finds the first such fault.
-/

namespace ModuleInterface
namespace Word

/-- The numbers that some words read from bytes. -/
def readAll : List Word → List UInt8 → List Nat
  | [], _ => []
  | .unsigned width :: rest, bytes =>
      LittleEndian.decode (bytes.take width) :: readAll rest (bytes.drop width)
  | .float64 :: rest, bytes =>
      LittleEndian.decode (bytes.take 8) :: readAll rest (bytes.drop 8)
  | .skip length :: rest, bytes => readAll rest (bytes.drop length)

@[simp] theorem readAll_nil (bytes : List UInt8) : readAll [] bytes = [] := rfl

@[simp] theorem readAll_unsigned (width : Nat) (rest : List Word) (bytes : List UInt8) :
    readAll (.unsigned width :: rest) bytes =
      LittleEndian.decode (bytes.take width) :: readAll rest (bytes.drop width) := rfl

@[simp] theorem readAll_float64 (rest : List Word) (bytes : List UInt8) :
    readAll (.float64 :: rest) bytes =
      LittleEndian.decode (bytes.take 8) :: readAll rest (bytes.drop 8) := rfl

@[simp] theorem readAll_skip (length : Nat) (rest : List Word) (bytes : List UInt8) :
    readAll (.skip length :: rest) bytes = readAll rest (bytes.drop length) := rfl

end Word

namespace Codec

mutual

/-- The value that a codec makes of its numbers. -/
def decode : Codec → List Nat → Value
  | .unsigned _, numbers => .integer (numbers.headD 0)
  | .float64, numbers => .float64 (UInt64.ofNat (numbers.headD 0))
  | .boolean, numbers => .boolean (numbers.headD 0 != 0)
  | .padding _, _ => .null
  | .enumerator _ enumeration, numbers => enumeration.value (numbers.headD 0)
  | .member _ enumeration, numbers => enumeration.value (numbers.headD 0)
  | .flags _ set, numbers => .flags set (numbers.headD 0)
  | .index kind, numbers => kind.ofWord (numbers.headD 0)
  | .sequence, numbers => Sequence.value ⟨numbers.headD 0, numbers.getD 1 0⟩
  | .location, numbers => SourceLocation.value ⟨numbers.headD 0, numbers.getD 1 0⟩
  | .moduleReference, numbers => .moduleReference ⟨numbers.headD 0, numbers.getD 1 0⟩
  | .nested record fields layout, numbers =>
      .record record (fields.zip (decodeLayout layout numbers))

/-- The values that the codecs of a layout make of their numbers, in order. -/
def decodeLayout : List Codec → List Nat → List Value
  | [], _ => []
  | codec :: rest, numbers =>
      if codec.arity = 0 then decodeLayout rest numbers
      else
        codec.decode (numbers.take codec.arity) ::
          decodeLayout rest (numbers.drop codec.arity)

end

mutual

/-- Why the numbers that a codec is given make no value, if they make none. -/
def refusal? : Codec → List Nat → Option Fault
  | .member _ enumeration, numbers => enumeration.refusal? (numbers.headD 0)
  | .index kind, _ => kind.refusal?
  | .nested record fields layout, numbers =>
      (layoutRefusal? layout numbers).or
        (Value.recordRefusal? record (fields.zip (decodeLayout layout numbers)))
  | _, _ => none

/-- Why the numbers that the codecs of a layout are given make no values, if they
make none. -/
def layoutRefusal? : List Codec → List Nat → Option Fault
  | [], _ => none
  | codec :: rest, numbers =>
      (codec.refusal? (numbers.take codec.arity)).or
        (layoutRefusal? rest (numbers.drop codec.arity))

end

/-- The values that codecs of one word each make of their numbers. -/
def decodeSingles (codecs : List Codec) (numbers : List Nat) : List Value :=
  codecs.zipWith (fun codec number => codec.decode [number]) numbers

/-- Whether every field of a layout is one word. -/
def isSimple (layout : List Codec) : Bool :=
  (fieldCodecs layout).all fun codec => codec.arity == 1

/-- The values of a layout's fields, read from the bytes of the layout. -/
def unpack (layout : List Codec) (bytes : List UInt8) : List Value :=
  let numbers := Word.readAll (layoutWords layout) bytes
  if isSimple layout then decodeSingles (fieldCodecs layout) numbers
  else decodeLayout layout numbers

/-- Why the bytes of a layout hold no record of a name, if they hold none. -/
def recordRefusal? (record : String) (fields : List String) (layout : List Codec)
    (bytes : List UInt8) : Option Fault :=
  (layoutRefusal? layout (Word.readAll (layoutWords layout) bytes)).or
    (Value.recordRefusal? record (fields.zip (unpack layout bytes)))

end Codec
end ModuleInterface

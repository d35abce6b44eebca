import ModuleInterface.Bytes.Window
import ModuleInterface.Codec.Basic
import ModuleInterface.Value.Refusal

/-!
# Reading a layout field by field

The plain reading of a layout: each field is read at the offset that the sizes
of everything before it add up to, and a nested record is read by the same rule
at its own offset. It states what reading through the flat words has to give.
-/

namespace ModuleInterface
namespace Codec

mutual

/-- The number of bytes of a codec. -/
def byteSize : Codec → Nat
  | .unsigned width => width
  | .float64 => 8
  | .boolean => 1
  | .padding length => length.toNat
  | .enumerator width _ => width
  | .member width _ => width
  | .flags width _ => width
  | .index _ => 4
  | .sequence => 8
  | .location => 8
  | .moduleReference => 8
  | .nested _ _ layout => layoutByteSize layout

/-- The number of bytes of all codecs of a layout. -/
def layoutByteSize : List Codec → Nat
  | [] => 0
  | codec :: rest => codec.byteSize + layoutByteSize rest

end

mutual

/-- The value of the field that a codec stores at an offset. -/
def valueAt (bytes : Bytes) : Codec → Nat → Value
  | .unsigned width, offset => .integer (bytes.number width offset)
  | .float64, offset => .float64 (UInt64.ofNat (bytes.number 8 offset))
  | .boolean, offset => .boolean (bytes.number 1 offset != 0)
  | .padding _, _ => .null
  | .enumerator width enumeration, offset =>
      enumeration.value (bytes.number width offset)
  | .member width enumeration, offset =>
      enumeration.value (bytes.number width offset)
  | .flags width set, offset => .flags set (bytes.number width offset)
  | .index kind, offset => kind.ofWord (bytes.number 4 offset)
  | .sequence, offset =>
      Sequence.value ⟨bytes.number 4 offset, bytes.number 4 (offset + 4)⟩
  | .location, offset =>
      SourceLocation.value ⟨bytes.number 4 offset, bytes.number 4 (offset + 4)⟩
  | .moduleReference, offset =>
      .moduleReference ⟨bytes.number 4 offset, bytes.number 4 (offset + 4)⟩
  | .nested record fields layout, offset =>
      .record record (fields.zip (valuesAt bytes layout offset))

/-- The values of the fields that a layout stores from an offset on. -/
def valuesAt (bytes : Bytes) : List Codec → Nat → List Value
  | [], _ => []
  | codec :: rest, offset =>
      let following := valuesAt bytes rest (offset + codec.byteSize)
      if codec.arity = 0 then following else codec.valueAt bytes offset :: following

end

mutual

/-- Why a codec stores no value at an offset, if it stores none. -/
def refusalAt? (bytes : Bytes) : Codec → Nat → Option Fault
  | .member width enumeration, offset => enumeration.refusal? (bytes.number width offset)
  | .index kind, _ => kind.refusal?
  | .nested record fields layout, offset =>
      (layoutRefusalAt? bytes layout offset).or
        (Value.recordRefusal? record (fields.zip (valuesAt bytes layout offset)))
  | _, _ => none

/-- Why a layout stores no values from an offset on, if it stores none. -/
def layoutRefusalAt? (bytes : Bytes) : List Codec → Nat → Option Fault
  | [], _ => none
  | codec :: rest, offset =>
      (codec.refusalAt? bytes offset).or
        (layoutRefusalAt? bytes rest (offset + codec.byteSize))

end

mutual

/-- A codec has the bytes of its words. -/
theorem totalSize_words (codec : Codec) : Word.totalSize codec.words = codec.byteSize := by
  cases codec with
  | nested record fields layout =>
      simpa [words, byteSize] using totalSize_layoutWords layout
  | _ => simp [words, byteSize]

/-- A layout has the bytes of its words. -/
theorem totalSize_layoutWords (layout : List Codec) :
    Word.totalSize (layoutWords layout) = layoutByteSize layout := by
  cases layout with
  | nil => simp [layoutByteSize]
  | cons codec rest =>
      simp [layoutByteSize, totalSize_words codec, totalSize_layoutWords rest]

end

end Codec
end ModuleInterface

import ModuleInterface.Bytes.Window
import ModuleInterface.Codec.Pack
import ModuleInterface.Codec.Unpack
import ModuleInterface.Text.Symbol
import ModuleInterface.Value.Part

/-!
# Schemas and elements

A schema is a record shape that has been checked: its layout stores one value
for each of its fields and has a size. The elements of a partition are records
of one schema, indices of one kind, or ranges. Elements are read from exactly
as many bytes as they have, and written to as many.
-/

namespace ModuleInterface

/-- A record shape: a name, the names of its fields, and its layout. -/
structure Schema where
  name : String
  fields : List String
  layout : List Codec
  deriving Repr

namespace Schema

/-- The number of bytes of a record. -/
def size (schema : Schema) : Nat :=
  Codec.layoutSize schema.layout

/-- The schema of a record shape. The layout must store as many values as there
are fields, no padding may be negative, and a machine word must hold the size. -/
def compile (name : String) (fields : List String) (layout : List Codec) :
    Except Fault Schema :=
  let stored := (Codec.fieldCodecs layout).length
  if stored ≠ fields.length then
    .error (.fieldCountDisagrees name stored fields.length)
  else if Codec.layoutPaddingOk layout ∧ Codec.layoutSize layout < MachineWord.limit then
    .ok ⟨name, fields, layout⟩
  else .error .layoutViolated

/-- The record that is stored in the bytes of a layout. -/
def decode (schema : Schema) (bytes : List UInt8) : Value :=
  .record schema.name (schema.fields.zip (Codec.unpack schema.layout bytes))

/-- The record that is stored in the bytes of a layout, unless they hold none. -/
def read (schema : Schema) (bytes : List UInt8) : Except Fault Value :=
  match Codec.recordRefusal? schema.name schema.fields schema.layout bytes with
  | none => .ok (schema.decode bytes)
  | some fault => .error fault

/-- The codec of a record within another record. -/
def codec (schema : Schema) : Codec :=
  .nested schema.name schema.fields schema.layout

/-- The bytes of a record with the given field values. -/
def pack (schema : Schema) (values : List Value) : Except Fault (List UInt8) := do
  values.forM Value.requireEncoding
  match Codec.pack? schema.layout values with
  | some bytes => return bytes
  | none => throw .layoutViolated

end Schema

/-- The values that a value consists of: the items of a list, the symbols of a text,
the names of entries, the named flags that are set. -/
def Value.items? : Value → Option (List Value)
  | .list items => some items
  | .text content =>
      some ((Symbol.ofText content).map fun symbol => .text (Symbol.toText [symbol]))
  | .entries items => some (items.map fun item => .text item.1)
  | .flags set number => some ((set.presentNumbers number).map (.flags set))
  | _ => none

/-- The field values that a value consists of. -/
def Value.components (value : Value) : Except Fault (List Value) :=
  match value.items? with
  | some items => .ok items
  | none => .error (.notFields value.typeName)

/-- What a partition consists of. -/
inductive Element
  | record (schema : Schema)
  | index (kind : IndexKind)
  | sequence
  deriving Repr

namespace Element

/-- The name of an element. -/
def label : Element → String
  | .record schema => schema.name
  | .index kind => kind.label
  | .sequence => "Sequence"

/-- The number of bytes of an element. -/
def size : Element → Nat
  | .record schema => schema.size
  | .index _ => 4
  | .sequence => 8

@[simp] theorem size_record (schema : Schema) : (record schema).size = schema.size := rfl

@[simp] theorem size_index (kind : IndexKind) : (index kind).size = 4 := rfl

@[simp] theorem size_sequence : sequence.size = 8 := rfl

/-- The value that is stored in the bytes of an element. -/
def decode : Element → List UInt8 → Value
  | .record schema, bytes => schema.decode bytes
  | .index kind, bytes => kind.ofWord (LittleEndian.decode (bytes.take 4))
  | .sequence, bytes =>
      Sequence.value ⟨LittleEndian.decode (bytes.take 4),
        LittleEndian.decode ((bytes.drop 4).take 4)⟩

/-- The value that is stored in the bytes of an element, unless they hold none. -/
def read : Element → List UInt8 → Except Fault Value
  | .record schema, bytes => schema.read bytes
  | .index kind, bytes =>
      match kind.refusal? with
      | none => .ok (decode (.index kind) bytes)
      | some fault => .error fault
  | .sequence, bytes => .ok (sequence.decode bytes)

/-- The element that starts at an offset. -/
def readAt (element : Element) (bytes : Bytes) (offset : Nat) : Except Fault Value :=
  if offset + element.size ≤ bytes.size then
    element.read (bytes.window offset element.size)
  else .error .layoutViolated

/-- The bytes of an element that holds a value. A record takes a list of field
values; any other element is written as the value asks: a range as its two
numbers, an index as its encoding, and all else as one integer. -/
def pack (element : Element) (value : Value) : Except Fault (List UInt8) :=
  let checked : Option (List UInt8) → Except Fault (List UInt8)
    | some bytes => .ok bytes
    | none => .error .layoutViolated
  match element with
  | .record schema => do schema.pack (← value.components)
  | _ =>
      match value with
      | .sequence start cardinality =>
          checked <| Word.packAll? [.unsigned 4, .unsigned 4] [start, cardinality]
      | .tagged reference => .ok (LittleEndian.encode 4 reference.raw)
      | _ => do
          value.requireEncoding
          checked (Word.packInteger? 4 (← value.toInteger))

end Element

/-- The element that starts at an offset that may count from the end. -/
def Element.readFrom (element : Element) (bytes : Bytes) (offset : Int) :
    Except Fault Value := do
  element.readAt bytes (← bytes.place offset element.size)

end ModuleInterface

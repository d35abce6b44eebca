import ModuleInterface.Bindings
import ModuleInterface.Container.Header
import ModuleInterface.Digest.Sha256
import ModuleInterface.Registry
import ModuleInterface.Text.Utf8
import ModuleInterface.Value.Part

/-!
# Building containers

A builder collects texts and partitions and then writes a container: signature,
header, string table, partitions in the order they were added, and table of
contents. A text is stored once; the empty text is at offset 0, so that the
null offset names it. A text that has no bytes is refused at once; numbers that
do not fit their fields, and values that are no numbers, are refused when the
container is written.
-/

namespace ModuleInterface

/-- A partition that is to be written. -/
structure PendingPartition where
  /-- The text offset of the name. -/
  name : Nat
  entrySize : Int
  cardinality : Int
  data : List UInt8
  deriving Repr

/-- The texts and partitions of a container that is being built. -/
structure Builder where
  /-- The bytes of the string table. -/
  strings : List UInt8
  /-- The texts that are stored, with their offsets. -/
  offsets : Bindings String Nat
  partitions : List PendingPartition
  deriving Repr

/-- What a caller chooses when a container is written. -/
structure BuildOptions where
  globalScope : Value
  /-- The index of the unit, or what counts as false for none. -/
  unit : Value
  sourcePath : String
  signature : List UInt8
  /-- The numbers of the version, of which the first two count. -/
  version : List Value
  /-- Whether the digest of the content is recorded. -/
  checksum : Bool
  deriving Repr

/-- What is chosen where the caller does not. -/
def BuildOptions.default : BuildOptions where
  globalScope := .integer 0
  unit := .null
  sourcePath := ""
  signature := Dimensions.signature
  version := [.integer 0, .integer 43]
  checksum := true

/-- The encoding of the unit: none is the null unit. -/
def BuildOptions.unitEncoding (options : BuildOptions) : Except Fault Value := do
  if ← options.unit.isTrue then options.unit.part "raw"
  else return .integer (TaggedIndex.null .unit).raw

/-- The two numbers of the version. -/
def BuildOptions.versionNumbers (options : BuildOptions) : Except Fault (Value × Value) :=
  match options.version with
  | major :: minor :: _ => .ok (major, minor)
  | _ => .error .versionIncomplete

namespace Builder

/-- The builder that has collected nothing. -/
def empty : Builder := ⟨[0], [("", 0)], []⟩

/-- Store a text, unless it is stored already, and answer its offset. A text that
has no bytes is refused. -/
def addString (builder : Builder) (text : String) : Except Fault (Nat × Builder) :=
  match builder.offsets.find? text with
  | some offset => .ok (offset, builder)
  | none =>
      match Utf8.encode? text with
      | none => .error .textUnencodable
      | some bytes =>
          let offset := builder.strings.length
          .ok (offset, { builder with
            strings := builder.strings ++ bytes ++ [0]
            offsets := builder.offsets.bind text offset })

/-- The number of elements of some bytes: whole elements only, and none where
elements have no size. -/
def countElements (data : List UInt8) (entrySize : Int) : Int :=
  if entrySize = 0 then 0 else Int.fdiv data.length entrySize

/-- Add a partition of some bytes. The number of its elements is that of the
bytes unless the caller gives it. -/
def addPartition (builder : Builder) (name : String) (entrySize : Int)
    (data : List UInt8) (cardinality : Option Int) : Except Fault Builder := do
  let (offset, named) ← builder.addString name
  return { named with
    partitions := named.partitions ++
      [⟨offset, entrySize, cardinality.getD (countElements data entrySize), data⟩] }

/-- Add a partition that holds the given values, under the given name or that
of its specification. A value or a name that cannot be written leaves the builder
as it was. -/
def addElements (builder : Builder) (spec : PartitionSpec) (values : List Value)
    (name : Option String) : Except Fault Builder := do
  let packed ← values.mapM spec.element.pack
  builder.addPartition (name.getD spec.name) spec.entrySize packed.flatten
    (some packed.length)

/-- The bytes of numbers of the given widths. -/
def packNumbers (items : List (Nat × Value)) : Except Fault (List UInt8) :=
  match Word.packAll? (items.map fun item => .unsigned item.1) (items.map (·.2)) with
  | some bytes => .ok bytes
  | none => .error .layoutViolated

/-- A number of four bytes. -/
def quad (number : Int) : Nat × Value := (4, .integer number)

/-- The table of contents of partitions that lie one after another from an
offset on. -/
def packContents : Nat → List PendingPartition → Except Fault (List UInt8)
  | _, [] => .ok []
  | cursor, partition :: rest => do
      let summary ← packNumbers [
        quad partition.name, quad cursor, quad partition.cardinality,
        quad partition.entrySize]
      return summary ++ (← packContents (cursor + partition.data.length) rest)

/-- The bytes of all partitions, in order. -/
def partitionData (builder : Builder) : List UInt8 :=
  builder.partitions.flatMap PendingPartition.data

/-- The header after the checksum, for a table of contents at an offset. -/
def packHeader (builder : Builder) (options : BuildOptions) (sourcePath contents : Nat) :
    Except Fault (List UInt8) := do
  let (major, minor) ← options.versionNumbers
  let unit ← options.unitEncoding
  let numbers ← packNumbers [
    (1, major), (1, minor), (1, .integer 0), (1, .integer 0),
    quad 202002, quad Dimensions.structureSize, quad builder.strings.length, (4, unit),
    quad sourcePath, (4, options.globalScope), quad contents,
    quad builder.partitions.length, (1, .integer 0)]
  return numbers ++ [0, 0, 0]

/-- A signature cut or filled with zeros to its size. -/
def fitSignature (signature : List UInt8) : List UInt8 :=
  signature.take Dimensions.signatureSize ++
    List.replicate (Dimensions.signatureSize - signature.length) 0

/-- The container of what was collected. The checksum is the digest of everything
after it, or zero. -/
def buildWith (digest : List UInt8 → List UInt8) (builder : Builder)
    (options : BuildOptions) : Except Fault (List UInt8) := do
  let (sourcePath, complete) ← builder.addString options.sourcePath
  let start := Dimensions.structureSize + complete.strings.length
  let contents ← packContents start complete.partitions
  let data := complete.partitionData
  let header ← complete.packHeader options sourcePath (start + data.length)
  let content := header ++ complete.strings ++ data ++ contents
  let checksum :=
    if options.checksum then digest content
    else List.replicate Dimensions.checksumSize 0
  return fitSignature options.signature ++ checksum ++ content

/-- The container of what was collected, with a SHA-256 digest for its checksum. -/
def build (builder : Builder) (options : BuildOptions) : Except Fault (List UInt8) :=
  builder.buildWith Sha256.digest options

end Builder
end ModuleInterface

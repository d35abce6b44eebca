import ModuleInterface.Bytes.Window
import ModuleInterface.Index.Plain

/-!
# Header and entries of the table of contents

The header follows the signature and locates the string table and the table of
contents. An entry of the table of contents names a partition and says where it
lies and how its elements are sized. Every read is preceded by a check that the
bytes are there. A read past the end of the bytes would fail for itself, with a
fault that no check reports.
-/

namespace ModuleInterface

/-- The header of a container. -/
structure Header where
  checksum : List UInt8
  majorVersion : Nat
  minorVersion : Nat
  abi : Nat
  arch : Nat
  cplusplus : Nat
  stringTableStart : Nat
  stringTableSize : Nat
  unit : TaggedIndex
  sourcePath : Nat
  globalScope : Nat
  contentsStart : Nat
  partitionCount : Nat
  internalPartition : Bool
  deriving DecidableEq, Repr

/-- An entry of the table of contents. -/
structure Summary where
  name : Nat
  offset : Nat
  cardinality : Nat
  entrySize : Nat
  deriving DecidableEq, Repr

namespace Summary

/-- The number of bytes of a partition. -/
def size (summary : Summary) : Nat :=
  summary.cardinality * summary.entrySize

/-- The end of a partition. -/
def stop (summary : Summary) : Nat :=
  summary.offset + summary.size

/-- The number of bytes of some partitions together. -/
def totalSize : List Summary → Nat
  | [] => 0
  | summary :: rest => summary.size + totalSize rest

@[simp] theorem totalSize_append (first second : List Summary) :
    totalSize (first ++ second) = totalSize first + totalSize second := by
  induction first with
  | nil => simp [totalSize]
  | cons summary rest inductionHypothesis =>
      simp only [List.cons_append, totalSize, inductionHypothesis, Nat.add_assoc]

/-- The entry that is stored at an offset. -/
def decode (bytes : Bytes) (offset : Nat) : Summary where
  name := bytes.number 4 offset
  offset := bytes.number 4 (offset + 4)
  cardinality := bytes.number 4 (offset + 8)
  entrySize := bytes.number 4 (offset + 12)

/-- The entry that is read at an offset, where the bytes hold one. -/
def read (bytes : Bytes) (offset : Nat) : Except Fault Summary := do
  return decode bytes (← bytes.place offset Dimensions.summarySize)

end Summary

namespace Header

/-- The number of bytes of the table of contents. -/
def contentsSize (header : Header) : Nat :=
  header.partitionCount * Dimensions.summarySize

/-- The end of the table of contents. -/
def contentsStop (header : Header) : Nat :=
  header.contentsStart + header.contentsSize

/-- The end of the string table. -/
def stringTableStop (header : Header) : Nat :=
  header.stringTableStart + header.stringTableSize

/-- The header that is stored after the signature, given the index of its unit. -/
def decode (bytes : Bytes) (unit : TaggedIndex) : Header where
  checksum := bytes.window 4 Dimensions.checksumSize
  majorVersion := bytes.number 1 36
  minorVersion := bytes.number 1 37
  abi := bytes.number 1 38
  arch := bytes.number 1 39
  cplusplus := bytes.number 4 40
  stringTableStart := bytes.number 4 44
  stringTableSize := bytes.number 4 48
  unit
  sourcePath := bytes.number 4 56
  globalScope := bytes.number 4 60
  contentsStart := bytes.number 4 64
  partitionCount := bytes.number 4 68
  internalPartition := bytes.number 1 72 != 0

/-- The signature, when the bytes start with it. -/
def readSignature (bytes : Bytes) : Except Fault (List UInt8) :=
  if bytes.size < Dimensions.signatureSize then .error (.signatureCut bytes.size)
  else do
    let start ← bytes.place 0 Dimensions.signatureSize
    let found := bytes.window start Dimensions.signatureSize
    if found = Dimensions.signature then return found else throw (.wrongSignature found)

/-- The index of the unit that the header stores. -/
def readUnit (bytes : Bytes) : Except Fault TaggedIndex :=
  (TaggedIndex.ofRaw? .unit (bytes.number 4 52)).mapError (.indexMisfit .unit)

/-- The header, when the bytes hold it. -/
def read (bytes : Bytes) : Except Fault Header :=
  if bytes.size < Dimensions.structureSize then .error (.headerCut bytes.size)
  else do
    discard <| bytes.place Dimensions.signatureSize Dimensions.headerSize
    return decode bytes (← readUnit bytes)

/-- The entries of the table of contents, when the bytes hold them. -/
def readSummaries (header : Header) (bytes : Bytes) : Except Fault (List Summary) :=
  if bytes.size < header.contentsStop then
    .error (.contentsOutside header.contentsStart header.contentsStop bytes.size)
  else
    (List.range header.partitionCount).mapM fun index =>
      Summary.read bytes (header.contentsStart + index * Dimensions.summarySize)

/-- The number of bytes that header and table of contents declare. -/
def declaredSize (header : Header) (summaries : List Summary) : Nat :=
  Dimensions.structureSize + header.stringTableSize + header.contentsSize +
    Summary.totalSize summaries

/-- The declared sizes must add up to the number of bytes. -/
def checkTotal (header : Header) (bytes : Bytes) (summaries : List Summary) :
    Except Fault Unit :=
  if header.declaredSize summaries = bytes.size then .ok ()
  else .error (.totalDisagrees (header.declaredSize summaries) bytes.size)

/-- Every partition must lie inside the bytes. -/
def checkPartitions (bytes : Bytes) : List Summary → Except Fault Unit
  | [] => .ok ()
  | summary :: rest =>
      if bytes.size < summary.stop then .error (.partitionOutside summary.stop bytes.size)
      else checkPartitions bytes rest

/-- String table and partitions must lie inside the bytes. -/
def checkRegions (header : Header) (bytes : Bytes) (summaries : List Summary) :
    Except Fault Unit :=
  if bytes.size < header.stringTableStop then
    .error (.stringTableOutside header.stringTableStop bytes.size)
  else checkPartitions bytes summaries

end Header
end ModuleInterface

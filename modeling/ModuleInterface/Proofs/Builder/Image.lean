import Mathlib
import ModuleInterface.Builder
import ModuleInterface.Proofs.Codec.Words
import ModuleInterface.Proofs.Container.Bounds

/-!
# Images of containers

A built container consists of signature, checksum, header, string table, the bytes of its
partitions and its table of contents, one after another. `Image` names these parts. Its
bytes are read back part by part, and they are accepted when the table of contents
describes partitions that together are as long as the bytes that are there for them.
-/

-- Powers are the core library's, as in the definitions that are reasoned about.
attribute [local instance (1100)] instPowNat

namespace ModuleInterface

open Acceptance

/-! ## Words of header and entries -/

/-- The words of the header after the checksum. -/
def Header.words : List Word := [
  .unsigned 1, .unsigned 1, .unsigned 1, .unsigned 1, .unsigned 4, .unsigned 4,
  .unsigned 4, .unsigned 4, .unsigned 4, .unsigned 4, .unsigned 4, .unsigned 4,
  .unsigned 1]

/-- The numbers of the header are read at their places. -/
theorem Header.readAll_words
    (data : List UInt8) :
    Word.readAll words (data.drop 36) = [
      Bytes.number data.toArray 1 36, Bytes.number data.toArray 1 37,
      Bytes.number data.toArray 1 38, Bytes.number data.toArray 1 39,
      Bytes.number data.toArray 4 40, Bytes.number data.toArray 4 44,
      Bytes.number data.toArray 4 48, Bytes.number data.toArray 4 52,
      Bytes.number data.toArray 4 56, Bytes.number data.toArray 4 60,
      Bytes.number data.toArray 4 64, Bytes.number data.toArray 4 68,
      Bytes.number data.toArray 1 72] := by
  simp only [words, Word.readAll_unsigned, Word.readAll_nil, List.drop_drop, Bytes.number,
    Bytes.window_eq]

namespace Summary

/-- The words of an entry of the table of contents. -/
def words : List Word := [.unsigned 4, .unsigned 4, .unsigned 4, .unsigned 4]

/-- The numbers of an entry, in order. -/
def numbers (summary : Summary) : List Nat :=
  [summary.name, summary.offset, summary.cardinality, summary.entrySize]

/-- The bytes of an entry. -/
def encode (summary : Summary) : List UInt8 :=
  Word.writeAll words summary.numbers

/-- Every number of an entry fits four bytes. -/
structure Fits (summary : Summary) : Prop where
  name : summary.name < 256 ^ 4
  offset : summary.offset < 256 ^ 4
  cardinality : summary.cardinality < 256 ^ 4
  entrySize : summary.entrySize < 256 ^ 4

theorem Fits.carries
    {summary : Summary}
    (fits : summary.Fits)
    (name offset cardinality entrySize : Value)
    (nameInteger : name.integer? = some (summary.name : Int))
    (offsetInteger : offset.integer? = some (summary.offset : Int))
    (cardinalityInteger : cardinality.integer? = some (summary.cardinality : Int))
    (entrySizeInteger : entrySize.integer? = some (summary.entrySize : Int)) :
    Word.Carries words [name, offset, cardinality, entrySize] summary.numbers :=
  .unsigned nameInteger fits.name <| .unsigned offsetInteger fits.offset <|
    .unsigned cardinalityInteger fits.cardinality <|
      .unsigned entrySizeInteger fits.entrySize .nil

@[simp] theorem length_encode
    (summary : Summary) :
    summary.encode.length = 16 := by
  simp [encode, words, numbers, Word.writeAll]

/-- An entry is read back from where its bytes start. -/
theorem Fits.decode_eq
    {summary : Summary}
    (fits : summary.Fits)
    {data rest : List UInt8}
    {offset : Nat}
    (found : data.drop offset = summary.encode ++ rest) :
    decode data.toArray offset = summary := by
  have read : Word.readAll words (data.drop offset) = summary.numbers := by
    rw [found]
    exact (fits.carries (.integer summary.name) (.integer summary.offset)
      (.integer summary.cardinality) (.integer summary.entrySize) rfl rfl rfl
      rfl).readAll_writeAll rest
  simp only [words, numbers, Word.readAll_unsigned, Word.readAll_nil, List.drop_drop,
    List.cons.injEq, and_true] at read
  obtain ⟨name, place, cardinality, entrySize⟩ := read
  simp only [decode, Bytes.number, Bytes.window_eq, name, place, cardinality, entrySize]

/-- Entries are read back from where their bytes start. -/
theorem map_decode_eq
    {summaries : List Summary}
    (fits : ∀ summary ∈ summaries, summary.Fits)
    {data : List UInt8}
    {offset : Nat}
    (found : data.drop offset = summaries.flatMap encode) :
    (List.range summaries.length).map
      (fun index => decode data.toArray (offset + 16 * index)) = summaries := by
  induction summaries generalizing offset with
  | nil => rfl
  | cons summary rest inductionHypothesis =>
      rw [List.flatMap_cons] at found
      have next : data.drop (offset + 16) = rest.flatMap encode := by
        rw [← List.drop_drop, found, List.drop_left' (length_encode summary)]
      have others := inductionHypothesis
        (fun other member => fits other (List.mem_cons_of_mem _ member)) next
      rw [List.length_cons, List.range_succ_eq_map, List.map_cons, List.map_map]
      refine congrArg₂ _ ((fits summary List.mem_cons_self).decode_eq found) ?_
      refine Eq.trans (List.map_congr_left fun index _ => ?_) others
      simp only [Function.comp_apply]
      congr 1
      omega

end Summary

/-! ## Parts of an image -/

/-- The parts of a built container. -/
structure Image where
  checksum : List UInt8
  majorVersion : Nat
  minorVersion : Nat
  /-- The encoding of the index of the unit. -/
  unit : Nat
  sourcePath : Nat
  globalScope : Nat
  strings : List UInt8
  /-- The bytes of all partitions. -/
  data : List UInt8
  summaries : List Summary

namespace Image

/-- The place where the table of contents starts. -/
def contentsStart (image : Image) : Nat :=
  76 + image.strings.length + image.data.length

/-- The numbers of the header after the checksum. -/
def numbers (image : Image) : List Nat := [
  image.majorVersion, image.minorVersion, 0, 0, 202002, 76, image.strings.length,
  image.unit, image.sourcePath, image.globalScope, image.contentsStart,
  image.summaries.length, 0]

/-- Everything after the checksum. -/
def content (image : Image) : List UInt8 :=
  Word.writeAll Header.words image.numbers ++ [0, 0, 0] ++ image.strings ++ image.data ++
    image.summaries.flatMap Summary.encode

/-- The bytes of a built container. -/
def bytes (image : Image) : List UInt8 :=
  Dimensions.signature ++ image.checksum ++ image.content

/-- Every number of an image fits its field. -/
structure Fits (image : Image) : Prop where
  checksum : image.checksum.length = 32
  majorVersion : image.majorVersion < 256 ^ 1
  minorVersion : image.minorVersion < 256 ^ 1
  unit : image.unit < 256 ^ 4
  sourcePath : image.sourcePath < 256 ^ 4
  globalScope : image.globalScope < 256 ^ 4
  contentsStart : image.contentsStart < 256 ^ 4
  count : image.summaries.length < 256 ^ 4
  summaries : ∀ summary ∈ image.summaries, summary.Fits

theorem Fits.strings
    {image : Image}
    (fits : image.Fits) :
    image.strings.length < 256 ^ 4 := by
  have bound := fits.contentsStart
  unfold Image.contentsStart at bound
  omega

theorem Fits.carries
    {image : Image}
    (fits : image.Fits)
    (major minor unit scope : Value)
    (majorInteger : major.integer? = some (image.majorVersion : Int))
    (minorInteger : minor.integer? = some (image.minorVersion : Int))
    (unitInteger : unit.integer? = some (image.unit : Int))
    (scopeInteger : scope.integer? = some (image.globalScope : Int)) :
    Word.Carries Header.words [
      major, minor, .integer 0, .integer 0, .integer 202002, .integer 76,
      .integer image.strings.length, unit, .integer image.sourcePath, scope,
      .integer image.contentsStart, .integer image.summaries.length, .integer 0]
      image.numbers :=
  .unsigned majorInteger fits.majorVersion <| .unsigned minorInteger fits.minorVersion <|
    .unsigned rfl (by decide) <| .unsigned rfl (by decide) <| .unsigned rfl (by decide) <|
      .unsigned rfl (by decide) <| .unsigned rfl fits.strings <|
        .unsigned unitInteger fits.unit <| .unsigned rfl fits.sourcePath <|
          .unsigned scopeInteger fits.globalScope <| .unsigned rfl fits.contentsStart <|
            .unsigned rfl fits.count <| .unsigned rfl (by decide) .nil

@[simp] theorem length_header
    (image : Image) :
    (Word.writeAll Header.words image.numbers ++ [0, 0, 0]).length = 40 := by
  simp [Header.words, numbers, Word.writeAll]

theorem length_flatMap_encode
    (summaries : List Summary) :
    (summaries.flatMap Summary.encode).length = 16 * summaries.length := by
  induction summaries with
  | nil => rfl
  | cons summary rest inductionHypothesis =>
      rw [List.flatMap_cons, List.length_append, inductionHypothesis, Summary.length_encode,
        List.length_cons]
      omega

theorem Fits.length_bytes
    {image : Image}
    (fits : image.Fits) :
    image.bytes.length = image.contentsStart + 16 * image.summaries.length := by
  have header := image.length_header
  have checksum := fits.checksum
  simp only [bytes, content, Image.contentsStart, List.length_append, length_flatMap_encode,
    Dimensions.length_signature, Dimensions.signatureSize, List.length_cons,
    List.length_nil] at header ⊢
  omega

theorem Fits.drop_checksum
    {image : Image}
    (fits : image.Fits) :
    image.bytes.drop 36 = image.content := by
  have prefixLength : (Dimensions.signature ++ image.checksum).length = 36 := by
    rw [List.length_append, fits.checksum]
    rfl
  rw [bytes, List.drop_left' prefixLength]

theorem Fits.drop_header
    {image : Image}
    (fits : image.Fits) :
    image.bytes.drop 76 =
      image.strings ++ (image.data ++ image.summaries.flatMap Summary.encode) := by
  have split : (76 : Nat) = 36 + 40 := rfl
  rw [split, ← List.drop_drop, fits.drop_checksum, content, List.append_assoc,
    List.append_assoc, List.drop_left' image.length_header]

theorem Fits.drop_strings
    {image : Image}
    (fits : image.Fits) :
    image.bytes.drop (76 + image.strings.length) =
      image.data ++ image.summaries.flatMap Summary.encode := by
  rw [← List.drop_drop, fits.drop_header, List.drop_left]

theorem Fits.drop_contents
    {image : Image}
    (fits : image.Fits) :
    image.bytes.drop image.contentsStart = image.summaries.flatMap Summary.encode := by
  rw [Image.contentsStart, ← List.drop_drop, fits.drop_strings, List.drop_left]

/-- The header is read back. -/
structure Describes (image : Image) (data : List UInt8) : Prop where
  majorVersion : Bytes.number data.toArray 1 36 = image.majorVersion
  minorVersion : Bytes.number data.toArray 1 37 = image.minorVersion
  tableStart : tableStart data = 76
  tableSize : tableSize data = image.strings.length
  unit : quadAt data 52 = image.unit
  sourcePath : Bytes.number data.toArray 4 56 = image.sourcePath
  globalScope : Bytes.number data.toArray 4 60 = image.globalScope
  contentsStart : Acceptance.contentsStart data = image.contentsStart
  entryCount : entryCount data = image.summaries.length

theorem Fits.describes
    {image : Image}
    (fits : image.Fits) :
    image.Describes image.bytes := by
  have read := Header.readAll_words image.bytes
  rw [fits.drop_checksum, content, List.append_assoc, List.append_assoc, List.append_assoc,
    (fits.carries (.integer image.majorVersion) (.integer image.minorVersion)
      (.integer image.unit) (.integer image.globalScope) rfl rfl rfl
      rfl).readAll_writeAll] at read
  simp only [numbers, List.cons.injEq, and_true] at read
  obtain ⟨major, minor, _, _, _, start, size, unit, path, scope, contents, count, _⟩ := read
  simp only [Bytes.number_four] at start size unit contents count
  exact ⟨major.symm, minor.symm, start.symm, size.symm, unit.symm, path.symm, scope.symm,
    contents.symm, count.symm⟩

/-- The entries of the table of contents are read back. -/
theorem Fits.storedSummaries_eq
    {image : Image}
    (fits : image.Fits) :
    storedSummaries image.bytes = image.summaries := by
  rw [storedSummaries, fits.describes.entryCount, fits.describes.contentsStart]
  exact Summary.map_decode_eq fits.summaries fits.drop_contents

/-! ## Images that are accepted -/

/-- The table of contents describes partitions inside the bytes that are together as
long as those that are there for them, and names inside the string table. -/
structure Consistent (image : Image) : Prop where
  total : Summary.totalSize image.summaries = image.data.length
  inside : ∀ summary ∈ image.summaries, summary.stop ≤ image.contentsStart
  names : ∀ summary ∈ image.summaries, summary.name < image.strings.length

/-- An image is signed. -/
theorem Fits.signed
    {image : Image}
    (fits : image.Fits) :
    Signed image.bytes := by
  have length := fits.length_bytes
  refine ⟨by unfold Image.contentsStart at length; omega, ?_⟩
  rw [bytes, List.append_assoc]
  rfl

/-- What holds of all entries of an image holds of what is stored at every index. -/
theorem Fits.forall_summaries_iff
    {image : Image}
    (fits : image.Fits)
    {holds : Summary → Prop} :
    (∀ summary ∈ image.summaries, holds summary) ↔
      ∀ index < entryCount image.bytes,
        holds ⟨nameOf image.bytes index, offsetOf image.bytes index,
          cardinalityOf image.bytes index, entrySizeOf image.bytes index⟩ := by
  rw [← fits.storedSummaries_eq, storedSummaries]
  simp only [List.forall_mem_map, List.mem_range, decode_entry]

/-- The sizes of an image are in order when its entries together declare as many bytes as
there are for its partitions, and none beyond the end. -/
theorem Fits.sized_iff
    {image : Image}
    (fits : image.Fits) :
    Sized image.bytes ↔
      Summary.totalSize image.summaries = image.data.length ∧
        ∀ summary ∈ image.summaries, summary.stop ≤ image.bytes.length := by
  have length := fits.length_bytes
  have described := fits.describes
  have stop : contentsStop image.bytes = image.bytes.length := by
    rw [contentsStop, described.contentsStart, described.entryCount, length]
  have total : declaredTotal image.bytes = image.bytes.length ↔
      Summary.totalSize image.summaries = image.data.length := by
    rw [declaredTotal, ← totalSize_storedSummaries, fits.storedSummaries_eq,
      described.tableSize, described.entryCount, length, Image.contentsStart]
    omega
  rw [fits.forall_summaries_iff, ← total]
  constructor
  · intro sized
    exact ⟨sized.total, sized.partitions⟩
  · rintro ⟨declared, inside⟩
    refine ⟨by unfold Image.contentsStart at length; omega, stop.le, declared, ?_, inside⟩
    rw [described.tableStart, described.tableSize, length, Image.contentsStart]
    omega

/-- The names of an image are in order when its entries give places of its string table. -/
theorem Fits.named
    {image : Image}
    (fits : image.Fits)
    (names : ∀ summary ∈ image.summaries, summary.name < image.strings.length) :
    Named image.bytes := by
  rw [Named, fits.describes.tableSize]
  exact fits.forall_summaries_iff.mp names

/-- A consistent image is opened as a container. -/
theorem Fits.exists_load
    {image : Image}
    (fits : image.Fits)
    (consistent : image.Consistent)
    (backing : Backing)
    (environment : Option Nat) :
    ∃ opened, (Container.load (.of image.bytes backing) environment).1 = .ok opened := by
  refine Acceptance.exists_load fits.signed (fits.sized_iff.mpr ⟨consistent.total, ?_⟩)
    (fits.named consistent.names) backing environment
  intro summary member
  have inside := consistent.inside summary member
  have length := fits.length_bytes
  omega

end Image
end ModuleInterface

import Mathlib
import ModuleInterface.Proofs.Builder.Image
import ModuleInterface.Proofs.Builder.Run

/-!
# What a builder writes

Writing a container gives the image of the builder: its string table, the bytes of its
partitions one after another, and an entry for each of them at the place where its bytes
start. `build_eq_of_numbers` states this for options whose numbers fit their fields.
-/

-- Powers are the core library's, as in the definitions that are reasoned about.
attribute [local instance (1100)] instPowNat

namespace ModuleInterface

/-- What is chosen for the header of a container, with the default signature. -/
structure BuildOptions.Chooses (options : BuildOptions) (major minor scope : Nat)
    (unit : TaggedIndex) : Prop where
  signature : options.signature = Dimensions.signature
  version : ∃ first second, options.versionNumbers = .ok (first, second) ∧
    first.integer? = some (major : Int) ∧ second.integer? = some (minor : Int)
  globalScope : options.globalScope.integer? = some (scope : Int)
  /-- No unit is the null unit. -/
  givenUnit : options.unit = .tagged unit ∨ options.unit.isTrue = .ok false ∧ unit = .null .unit
  unitKind : unit.kind = .unit
  majorFits : major < 256 ^ 1
  minorFits : minor < 256 ^ 1
  globalScopeFits : scope < 256 ^ 4

/-- The unit that is chosen is written as its encoding. -/
theorem BuildOptions.Chooses.unitEncoding_eq
    {options : BuildOptions}
    {major minor scope : Nat}
    {unit : TaggedIndex}
    (chosen : options.Chooses major minor scope unit) :
    options.unitEncoding = .ok (.integer unit.raw) := by
  obtain tagged | ⟨none, null⟩ := chosen.givenUnit
  · rw [unitEncoding, tagged]
    rfl
  · rw [unitEncoding, none, null]
    rfl

/-- What is chosen for the header of a container stands for numbers that fit their fields. -/
structure BuildOptions.Numbers (options : BuildOptions) (major minor unit scope : Nat) :
    Prop where
  version : ∃ first second, options.versionNumbers = .ok (first, second) ∧
    first.integer? = some (major : Int) ∧ second.integer? = some (minor : Int)
  encoding : ∃ encoding, options.unitEncoding = .ok encoding ∧
    encoding.integer? = some (unit : Int)
  globalScope : options.globalScope.integer? = some (scope : Int)
  majorFits : major < 256 ^ 1
  minorFits : minor < 256 ^ 1
  unitFits : unit < 256 ^ 4
  globalScopeFits : scope < 256 ^ 4

theorem BuildOptions.Chooses.numbers
    {options : BuildOptions}
    {major minor scope : Nat}
    {unit : TaggedIndex}
    (chosen : options.Chooses major minor scope unit) :
    options.Numbers major minor unit.raw scope where
  version := chosen.version
  encoding := ⟨_, chosen.unitEncoding_eq, rfl⟩
  globalScope := chosen.globalScope
  majorFits := chosen.majorFits
  minorFits := chosen.minorFits
  unitFits := unit.raw_lt
  globalScopeFits := chosen.globalScopeFits

/-- The entry of a partition whose bytes start at a place. -/
def PendingPartition.summary (partition : PendingPartition) (place : Nat) : Summary :=
  ⟨partition.name, place, partition.cardinality.toNat, partition.entrySize.toNat⟩

namespace Builder

/-- The entries of partitions whose bytes stand one after another from a place on. -/
def summariesFrom : Nat → List PendingPartition → List Summary
  | _, [] => []
  | place, partition :: rest =>
      partition.summary place :: summariesFrom (place + partition.data.length) rest

theorem summariesFrom_append
    (place : Nat)
    (earlier later : List PendingPartition) :
    summariesFrom place (earlier ++ later) =
      summariesFrom place earlier ++
        summariesFrom (place + (earlier.flatMap PendingPartition.data).length) later := by
  induction earlier generalizing place with
  | nil => rfl
  | cons partition rest inductionHypothesis =>
      rw [List.cons_append, summariesFrom, summariesFrom, inductionHypothesis,
        List.flatMap_cons, List.length_append, Nat.add_assoc, List.cons_append]

@[simp] theorem length_summariesFrom
    (place : Nat)
    (partitions : List PendingPartition) :
    (summariesFrom place partitions).length = partitions.length := by
  induction partitions generalizing place with
  | nil => rfl
  | cons partition rest inductionHypothesis =>
      rw [summariesFrom, List.length_cons, inductionHypothesis, List.length_cons]

/-- An entry is that of a partition, at a place where its bytes are among those of all
partitions. -/
theorem exists_of_mem_summariesFrom
    {place : Nat}
    {partitions : List PendingPartition}
    {summary : Summary}
    (member : summary ∈ summariesFrom place partitions) :
    ∃ partition ∈ partitions, ∃ start, summary = partition.summary (place + start) ∧
      start + partition.data.length ≤ (partitions.flatMap PendingPartition.data).length := by
  induction partitions generalizing place with
  | nil => simp [summariesFrom] at member
  | cons first rest inductionHypothesis =>
      rw [summariesFrom, List.mem_cons] at member
      rw [List.flatMap_cons, List.length_append]
      obtain rfl | following := member
      · exact ⟨first, List.mem_cons_self, 0, rfl, by omega⟩
      · obtain ⟨partition, present, start, rfl, bound⟩ := inductionHypothesis following
        refine ⟨partition, List.mem_cons_of_mem _ present, first.data.length + start, ?_, ?_⟩
        · rw [Nat.add_assoc]
        · omega

/-- Where every partition has the bytes that its entry declares, the entries together
declare the bytes of all partitions. -/
theorem totalSize_summariesFrom
    {partitions : List PendingPartition}
    (filled : ∀ partition ∈ partitions, ∀ place,
      (partition.summary place).size = partition.data.length)
    (place : Nat) :
    Summary.totalSize (summariesFrom place partitions) =
      (partitions.flatMap PendingPartition.data).length := by
  induction partitions generalizing place with
  | nil => rfl
  | cons first rest inductionHypothesis =>
      rw [List.forall_mem_cons] at filled
      rw [summariesFrom, Summary.totalSize, filled.1, inductionHypothesis filled.2,
        List.flatMap_cons, List.length_append]

/-- The sizes of a partition are no less than zero. -/
structure Counts (partition : PendingPartition) : Prop where
  entrySize : 0 ≤ partition.entrySize
  cardinality : 0 ≤ partition.cardinality

/-- Numbers that their words carry are written. -/
theorem packNumbers_of_carries
    (items : List (Nat × Value))
    {numbers : List Nat}
    (carried : Word.Carries (items.map fun item => .unsigned item.1) (items.map (·.2))
      numbers) :
    packNumbers items = .ok (Word.writeAll (items.map fun item => .unsigned item.1) numbers) := by
  rw [packNumbers, carried.packAll?_eq]

/-- The table of contents that is written is that of the entries. -/
theorem packContents_eq
    {place : Nat}
    {partitions : List PendingPartition}
    (counts : ∀ partition ∈ partitions, Counts partition)
    (fits : ∀ summary ∈ summariesFrom place partitions, summary.Fits) :
    packContents place partitions =
      .ok ((summariesFrom place partitions).flatMap Summary.encode) := by
  induction partitions generalizing place with
  | nil => rfl
  | cons partition rest inductionHypothesis =>
      rw [summariesFrom, List.forall_mem_cons] at fits
      rw [List.forall_mem_cons] at counts
      obtain ⟨fitsFirst, fitsRest⟩ := fits
      obtain ⟨countsFirst, countsRest⟩ := counts
      have carried := fitsFirst.carries (.integer partition.name) (.integer place)
        (.integer partition.cardinality) (.integer partition.entrySize) rfl rfl
        (congrArg some (Int.toNat_of_nonneg countsFirst.cardinality).symm)
        (congrArg some (Int.toNat_of_nonneg countsFirst.entrySize).symm)
      have first : packNumbers [quad partition.name, quad place, quad partition.cardinality,
          quad partition.entrySize] = .ok (partition.summary place).encode :=
        packNumbers_of_carries _ carried
      rw [packContents, first, inductionHypothesis countsRest fitsRest, summariesFrom,
        List.flatMap_cons]
      rfl

/-- The image of a builder, without its checksum. -/
def image (complete : Builder) (major minor unit sourcePath scope : Nat) : Image where
  checksum := List.replicate Dimensions.checksumSize 0
  majorVersion := major
  minorVersion := minor
  unit
  sourcePath
  globalScope := scope
  strings := complete.strings
  data := complete.partitionData
  summaries := summariesFrom (76 + complete.strings.length) complete.partitions

/-- The number of bytes that a text adds to the string table. -/
def textSize (builder : Builder) (text : String) : Nat :=
  match builder.offsets.find? text, Utf8.encode? text with
  | none, some bytes => bytes.length + 1
  | _, _ => 0

/-- The number of bytes of the container that is written for a source path. -/
def totalSize (builder : Builder) (sourcePath : String) : Nat :=
  76 + (builder.strings.length + builder.textSize sourcePath) +
    builder.partitionData.length + 16 * builder.partitions.length

/-- A text that has bytes is stored. -/
theorem exists_addString
    (builder : Builder)
    {text : String}
    {bytes : List UInt8}
    (encoded : Utf8.encode? text = some bytes) :
    ∃ offset next, builder.addString text = .ok (offset, next) ∧
      next.strings.length = builder.strings.length + builder.textSize text := by
  unfold addString textSize
  rw [encoded]
  cases builder.offsets.find? text with
  | some offset => exact ⟨offset, builder, rfl, rfl⟩
  | none =>
      refine ⟨_, _, rfl, ?_⟩
      simp only [List.length_append, List.length_cons, List.length_nil, Nat.add_assoc]

end Builder

/-- An image with the checksum of its content, if one is asked for. -/
def Image.sealed (image : Image) (checksum : Bool) : Image :=
  { image with
    checksum :=
      if checksum then Sha256.digest image.content
      else List.replicate Dimensions.checksumSize 0 }

theorem Image.Fits.sealed
    {image : Image}
    (fits : image.Fits)
    (checksum : Bool) :
    (image.sealed checksum).Fits := by
  refine { fits with checksum := ?_ }
  cases checksum with
  | true => exact Sha256.length_digest _
  | false => rfl

namespace Builder

/-- The sizes of a partition have room in its entry. -/
structure HasEntry (partition : PendingPartition) : Prop extends Counts partition where
  entrySizeFits : partition.entrySize < 256 ^ 4
  cardinalityFits : partition.cardinality < 256 ^ 4

section Written

variable {builder complete : Builder} {options : BuildOptions}
variable {major minor unit scope sourcePath : Nat}

/-- The numbers of a builder fit the fields that they are written to, if its names and its
source path stand in the string table and the places of its parts fit. -/
theorem image_fits
    (numbers : options.Numbers major minor unit scope)
    (path : sourcePath < complete.strings.length)
    (names : ∀ partition ∈ complete.partitions, partition.name < complete.strings.length)
    (entries : ∀ partition ∈ complete.partitions, HasEntry partition)
    (total : 76 + complete.strings.length + complete.partitionData.length +
      16 * complete.partitions.length < 256 ^ 4) :
    (complete.image major minor unit sourcePath scope).Fits := by
  refine ⟨List.length_replicate, numbers.majorFits, numbers.minorFits, numbers.unitFits, ?_,
    numbers.globalScopeFits, ?_, ?_, ?_⟩
  · simp only [image]
    omega
  · simp only [Image.contentsStart, image]
    omega
  · simp only [image, length_summariesFrom]
    omega
  · intro summary member
    obtain ⟨partition, present, start, rfl, bound⟩ := exists_of_mem_summariesFrom member
    have name := names partition present
    have entry := entries partition present
    have counts := entry.toCounts
    rw [← partitionData] at bound
    refine ⟨?_, ?_, ?_, ?_⟩
    · simp only [PendingPartition.summary]
      omega
    · simp only [PendingPartition.summary]
      omega
    · exact (Int.toNat_lt counts.cardinality).mpr entry.cardinalityFits
    · exact (Int.toNat_lt counts.entrySize).mpr entry.entrySizeFits

/-- What is written consists of the parts of the image of the builder, after the signature
that is chosen. -/
theorem build_eq_of_numbers
    (pathAdded : builder.addString options.sourcePath = .ok (sourcePath, complete))
    (numbers : options.Numbers major minor unit scope)
    (counts : ∀ partition ∈ complete.partitions, Counts partition)
    (fits : (complete.image major minor unit sourcePath scope).Fits) :
    builder.build options =
      .ok (fitSignature options.signature ++
        ((complete.image major minor unit sourcePath scope).sealed options.checksum).checksum ++
        (complete.image major minor unit sourcePath scope).content) := by
  obtain ⟨first, second, version, majorInteger, minorInteger⟩ := numbers.version
  obtain ⟨encoding, encoded, unitInteger⟩ := numbers.encoding
  have contents := packContents_eq counts fits.summaries
  have count : (complete.image major minor unit sourcePath scope).summaries.length =
      complete.partitions.length :=
    length_summariesFrom _ _
  have carried := fits.carries first second encoding options.globalScope
    majorInteger minorInteger unitInteger numbers.globalScope
  rw [count] at carried
  have header : complete.packHeader options sourcePath
      (76 + complete.strings.length + complete.partitionData.length) =
        .ok (Word.writeAll Header.words
          (complete.image major minor unit sourcePath scope).numbers ++ [0, 0, 0]) := by
    have written := packNumbers_of_carries [
      (1, first), (1, second), (1, .integer 0), (1, .integer 0), quad 202002,
      quad Dimensions.structureSize, quad complete.strings.length, (4, encoding),
      quad sourcePath, (4, options.globalScope),
      quad (76 + complete.strings.length + complete.partitionData.length : Nat),
      quad (complete.partitions.length : Nat), (1, .integer 0)] carried
    refine Fallible.bind_eq_ok.mpr ⟨_, version, ?_⟩
    refine Fallible.bind_eq_ok.mpr ⟨_, encoded, ?_⟩
    exact Fallible.bind_eq_ok.mpr ⟨_, written, rfl⟩
  refine Fallible.bind_eq_ok.mpr ⟨_, pathAdded, ?_⟩
  refine Fallible.bind_eq_ok.mpr ⟨_, contents, ?_⟩
  exact Fallible.bind_eq_ok.mpr ⟨_, header, rfl⟩

end Written

/-- A container that is written has the bytes of the image of its builder. -/
theorem build_eq
    {builder complete : Builder}
    {options : BuildOptions}
    {sourcePath : Nat}
    (pathAdded : builder.addString options.sourcePath = .ok (sourcePath, complete))
    {major minor scope : Nat}
    {unit : TaggedIndex}
    (chosen : options.Chooses major minor scope unit)
    (counts : ∀ partition ∈ complete.partitions, Counts partition)
    (fits : (complete.image major minor unit.raw sourcePath scope).Fits) :
    builder.build options =
      .ok ((complete.image major minor unit.raw sourcePath scope).sealed
        options.checksum).bytes := by
  rw [build_eq_of_numbers pathAdded chosen.numbers counts fits, chosen.signature]
  rfl

end Builder
end ModuleInterface

import Mathlib
import ModuleInterface.Proofs.Builder.Texts
import ModuleInterface.Proofs.Fault

/-!
# Which built containers are opened

Whoever adds a partition may declare any number of elements of any size, whatever its
bytes. Such a container is opened when the declared sizes add up to the number of the bytes
and no partition ends beyond the container; sizes that are wrong one by one may make up for
each other (`Builder.Balanced`). Where every partition declares the bytes that it has, the
parts of the container lie one after another without gaps (`Regions.Abut`).
-/

-- Powers are the core library's, as in the definitions that are reasoned about.
attribute [local instance (1100)] instPowNat

namespace ModuleInterface

open Acceptance

/-! ## Regions that follow each other -/

/-- Some bytes that stand one after another. -/
structure Region where
  start : Nat
  size : Nat
  deriving DecidableEq, Repr

namespace Region

/-- The end of a region. -/
def stop (region : Region) : Nat :=
  region.start + region.size

/-- A byte belongs to a region. -/
def Holds (region : Region) (position : Nat) : Prop :=
  region.start ≤ position ∧ position < region.stop

/-- The bytes of a region. -/
def window (region : Region) (data : List UInt8) : List UInt8 :=
  (data.drop region.start).take region.size

end Region

/-- Regions follow each other from a place to another, without gaps. -/
inductive Abut : Nat → List Region → Nat → Prop
  | nil (place : Nat) : Abut place [] place
  | cons
      {place size stop : Nat}
      {rest : List Region}
      (following : Abut (place + size) rest stop) :
      Abut place (⟨place, size⟩ :: rest) stop

namespace Abut

variable {place stop : Nat} {regions : List Region}

theorem append
    (earlier : Abut place regions stop)
    {others : List Region}
    {last : Nat}
    (later : Abut stop others last) :
    Abut place (regions ++ others) last := by
  induction earlier with
  | nil place => exact later
  | cons following inductionHypothesis => exact .cons (inductionHypothesis later)

/-- Regions that follow each other lie between the two places. -/
theorem bounds
    (abut : Abut place regions stop) :
    place ≤ stop ∧ ∀ region ∈ regions, place ≤ region.start ∧ region.stop ≤ stop := by
  induction abut with
  | nil place => exact ⟨le_rfl, fun _ member => absurd member List.not_mem_nil⟩
  | @cons place size stop rest following inductionHypothesis =>
      obtain ⟨upto, inside⟩ := inductionHypothesis
      have forward : place ≤ place + size := Nat.le_add_right _ _
      refine ⟨forward.trans upto, List.forall_mem_cons.mpr ⟨⟨le_rfl, upto⟩, ?_⟩⟩
      intro region member
      exact ⟨forward.trans (inside region member).1, (inside region member).2⟩

/-- Every byte between the two places belongs to exactly one of the regions. -/
theorem existsUnique
    (abut : Abut place regions stop)
    {position : Nat}
    (lower : place ≤ position)
    (upper : position < stop) :
    ∃! index : Nat, ∃ region, regions[index]? = some region ∧ region.Holds position := by
  induction abut with
  | nil place => omega
  | @cons place size stop rest following inductionHypothesis =>
      have apart : ∀ region ∈ rest, place + size ≤ region.start := fun region member =>
        (following.bounds.2 region member).1
      by_cases own : position < place + size
      · refine ⟨0, ⟨_, rfl, lower, own⟩, ?_⟩
        rintro (_ | index) ⟨region, found, holds⟩
        · rfl
        · have after := apart region (List.mem_of_getElem? found)
          exact absurd own (Nat.not_lt.mpr (after.trans holds.1))
      · obtain ⟨index, ⟨region, found, holds⟩, unique⟩ :=
          inductionHypothesis (Nat.le_of_not_lt own) upper
        refine ⟨index + 1, ⟨region, found, holds⟩, ?_⟩
        rintro (_ | other) ⟨region, found, holds⟩
        · cases found
          exact absurd holds.2 own
        · exact congrArg (· + 1) (unique other ⟨region, found, holds⟩)

end Abut

/-- The region of a partition. -/
def Summary.region (summary : Summary) : Region :=
  ⟨summary.offset, summary.size⟩

/-- The parts that bytes declare: signature, header, string table, partitions in the order
of the table of contents, and the table of contents itself. -/
def Acceptance.regions (data : List UInt8) : List Region :=
  [⟨0, Dimensions.signatureSize⟩, ⟨Dimensions.signatureSize, Dimensions.headerSize⟩,
    ⟨tableStart data, tableSize data⟩] ++
  (storedSummaries data).map Summary.region ++
  [⟨Acceptance.contentsStart data, 16 * entryCount data⟩]

/-! ## Declared sizes -/

/-- The number of bytes that a partition declares. -/
def PendingPartition.declared (partition : PendingPartition) : Int :=
  partition.cardinality * partition.entrySize

namespace Builder

/-- Partitions whose entries are written have room in them. -/
theorem hasEntry_of_packContents
    {place : Nat}
    {partitions : List PendingPartition}
    {bytes : List UInt8}
    (packed : packContents place partitions = .ok bytes) :
    ∀ partition ∈ partitions, HasEntry partition := by
  induction partitions generalizing place bytes with
  | nil => exact fun _ member => absurd member List.not_mem_nil
  | cons partition rest inductionHypothesis =>
      obtain ⟨head, packedHead, remaining⟩ := Fallible.bind_eq_ok.mp packed
      obtain ⟨tail, packedTail, _⟩ := Fallible.bind_eq_ok.mp remaining
      obtain ⟨numbers, carried, _⟩ := exists_carries_of_packNumbers packedHead
      obtain ⟨_, _, _, carried⟩ := carried.exists_of_integer rfl
      obtain ⟨_, _, _, carried⟩ := carried.exists_of_integer rfl
      obtain ⟨cardinality, _, _, integer, cardinalityFits, carried⟩ :=
        carried.exists_of_unsigned
      obtain ⟨entrySize, _, _, integerSize, entrySizeFits, _⟩ := carried.exists_of_unsigned
      have count : partition.cardinality = cardinality := Option.some.inj integer
      have size : partition.entrySize = entrySize := Option.some.inj integerSize
      refine List.forall_mem_cons.mpr ⟨⟨⟨?_, ?_⟩, ?_, ?_⟩, inductionHypothesis packedTail⟩
      · rw [size]
        exact Int.natCast_nonneg _
      · rw [count]
        exact Int.natCast_nonneg _
      · rw [size]
        exact_mod_cast entrySizeFits
      · rw [count]
        exact_mod_cast cardinalityFits

/-- An entry declares what its partition does. -/
theorem Counts.size_summary
    {partition : PendingPartition}
    (counts : Counts partition)
    (place : Nat) :
    ((partition.summary place).size : Int) = partition.declared := by
  rw [PendingPartition.summary, Summary.size, Nat.cast_mul,
    Int.toNat_of_nonneg counts.cardinality, Int.toNat_of_nonneg counts.entrySize,
    PendingPartition.declared]

/-- Entries together declare what their partitions do. -/
theorem totalSize_summariesFrom_eq_sum
    {partitions : List PendingPartition}
    (counts : ∀ partition ∈ partitions, Counts partition)
    (place : Nat) :
    (Summary.totalSize (summariesFrom place partitions) : Int) =
      (partitions.map PendingPartition.declared).sum := by
  induction partitions generalizing place with
  | nil => rfl
  | cons first rest inductionHypothesis =>
      rw [List.forall_mem_cons] at counts
      rw [summariesFrom, Summary.totalSize, Nat.cast_add, counts.1.size_summary,
        inductionHypothesis counts.2, List.map_cons, List.sum_cons]

/-- The number of the bytes of partitions is the sum of the numbers of their bytes. -/
theorem length_flatMap_data
    (partitions : List PendingPartition) :
    ((partitions.flatMap PendingPartition.data).length : Int) =
      (partitions.map fun partition => (partition.data.length : Int)).sum := by
  rw [List.length_flatMap, Nat.cast_list_sum, List.map_map]
  rfl

/-- The place where the bytes of the partition at an index start. -/
def placeOf (builder : Builder) (index : Nat) : Nat :=
  76 + builder.strings.length +
    ((builder.partitions.take index).flatMap PendingPartition.data).length

/-- The entry at an index is that of the partition at this index. -/
theorem getElem?_summariesFrom
    (place : Nat)
    (partitions : List PendingPartition)
    (index : Nat) :
    (summariesFrom place partitions)[index]? = partitions[index]?.map fun partition =>
      partition.summary
        (place + ((partitions.take index).flatMap PendingPartition.data).length) := by
  induction partitions generalizing place index with
  | nil => rfl
  | cons first rest inductionHypothesis =>
      cases index with
      | zero => rfl
      | succ index =>
          rw [summariesFrom, List.getElem?_cons_succ, inductionHypothesis,
            List.getElem?_cons_succ, List.take_succ_cons, List.flatMap_cons,
            List.length_append]
          simp only [Nat.add_assoc]

/-- The bytes of a partition stand after those of the partitions before it. -/
theorem exists_flatMap_data_eq
    {partitions : List PendingPartition}
    {index : Nat}
    {partition : PendingPartition}
    (found : partitions[index]? = some partition) :
    ∃ after, partitions.flatMap PendingPartition.data =
      (partitions.take index).flatMap PendingPartition.data ++ (partition.data ++ after) := by
  obtain ⟨bound, rfl⟩ := List.getElem?_eq_some_iff.mp found
  refine ⟨(partitions.drop (index + 1)).flatMap PendingPartition.data, ?_⟩
  rw [← List.flatMap_cons, ← List.drop_eq_getElem_cons bound, ← List.flatMap_append,
    List.take_append_drop]

/-- The partitions declare as many bytes as they have together, and none of them declares
bytes beyond a container of some size. -/
structure Balanced (builder : Builder) (size : Nat) : Prop where
  total : (builder.partitions.map PendingPartition.declared).sum =
    (builder.partitions.map fun partition => (partition.data.length : Int)).sum
  inside : ∀ (index : Nat) partition, builder.partitions[index]? = some partition →
    (builder.placeOf index : Int) + partition.declared ≤ size

/-- The partitions are those at the places of their list. -/
theorem balanced_iff
    (builder : Builder)
    (size : Nat) :
    builder.Balanced size ↔
      (builder.partitions.map PendingPartition.declared).sum =
          (builder.partitions.map fun partition => (partition.data.length : Int)).sum ∧
        ∀ (index : Nat) (bound : index < builder.partitions.length),
          (builder.placeOf index : Int) + builder.partitions[index].declared ≤ size := by
  constructor
  · intro balanced
    refine ⟨balanced.total, fun index bound => ?_⟩
    exact balanced.inside index _ (List.getElem?_eq_getElem bound)
  · rintro ⟨total, inside⟩
    refine ⟨total, fun index partition found => ?_⟩
    obtain ⟨bound, rfl⟩ := List.getElem?_eq_some_iff.mp found
    exact inside index bound

instance (builder : Builder) (size : Nat) : Decidable (builder.Balanced size) :=
  decidable_of_iff
    ((builder.partitions.map PendingPartition.declared).sum =
        (builder.partitions.map fun partition => (partition.data.length : Int)).sum ∧
      ∀ (index : Nat) (bound : index < builder.partitions.length),
        (builder.placeOf index : Int) + builder.partitions[index].declared ≤ size)
    (builder.balanced_iff size).symm

/-- The sizes of what is written are in order when the builder is balanced. -/
theorem Writes.sized_iff
    {builder : Builder}
    {image : Image}
    (writes : builder.Writes image)
    (counts : ∀ partition ∈ builder.partitions, Counts partition) :
    Sized image.bytes ↔ builder.Balanced image.bytes.length := by
  have total : Summary.totalSize image.summaries = image.data.length ↔
      (builder.partitions.map PendingPartition.declared).sum =
        (builder.partitions.map fun partition => (partition.data.length : Int)).sum := by
    rw [writes.summaries, writes.data, partitionData, ← totalSize_summariesFrom_eq_sum counts,
      ← length_flatMap_data, Nat.cast_inj]
  have stop : ∀ (index : Nat) partition, builder.partitions[index]? = some partition →
      ((partition.summary (builder.placeOf index)).stop : Int) =
        builder.placeOf index + partition.declared := by
    intro index partition found
    rw [Summary.stop, Nat.cast_add, (counts _ (List.mem_of_getElem? found)).size_summary]
    rfl
  have entries : ∀ index : Nat, image.summaries[index]? = builder.partitions[index]?.map
      fun partition => partition.summary (builder.placeOf index) := by
    intro index
    rw [writes.summaries, getElem?_summariesFrom, placeOf]
  rw [writes.fits.sized_iff, total]
  constructor
  · rintro ⟨same, inside⟩
    refine ⟨same, fun index partition found => ?_⟩
    have entry := entries index
    rw [found, Option.map_some] at entry
    rw [← stop index partition found]
    exact_mod_cast inside _ (List.mem_of_getElem? entry)
  · rintro ⟨same, inside⟩
    refine ⟨same, fun summary member => ?_⟩
    obtain ⟨index, entry⟩ := List.mem_iff_getElem?.mp member
    rw [entries, Option.map_eq_some_iff] at entry
    obtain ⟨partition, found, rfl⟩ := entry
    have bound := inside index partition found
    rw [← stop index partition found] at bound
    exact_mod_cast bound

/-! ## Numbers of elements that are counted -/

/-- What counted elements declare is no more than the bytes that are there, and as much as
these when they are whole elements. -/
theorem declared_of_counted
    {partition : PendingPartition}
    (counts : Counts partition)
    (counted : partition.cardinality =
      countElements partition.data partition.entrySize) :
    partition.declared ≤ partition.data.length ∧
      (partition.declared = partition.data.length ↔
        partition.entrySize ∣ partition.data.length) := by
  have declared : partition.declared =
      (partition.data.length : Int) / partition.entrySize * partition.entrySize := by
    rw [PendingPartition.declared, counted, countElements]
    split
    next none => rw [none, mul_zero, mul_zero]
    next => rw [Int.fdiv_eq_ediv_of_nonneg _ counts.entrySize]
  rw [declared]
  refine ⟨?_, fun whole => ⟨_, whole.symm.trans (mul_comm _ _)⟩, Int.ediv_mul_cancel⟩
  have split := Int.ediv_mul_add_emod partition.data.length partition.entrySize
  obtain empty | positive := counts.entrySize.eq_or_lt
  · rw [← empty, mul_zero]
    exact Int.natCast_nonneg _
  · have rest := Int.emod_nonneg (partition.data.length : Int) positive.ne'
    omega

/-- Partitions none of which declares more bytes than it has declare all bytes together
only if each of them declares its own. -/
theorem forall_declared_eq_of_sum_eq
    {partitions : List PendingPartition}
    (bounded : ∀ partition ∈ partitions, partition.declared ≤ partition.data.length)
    (same : (partitions.map PendingPartition.declared).sum =
      (partitions.map fun partition => (partition.data.length : Int)).sum) :
    ∀ partition ∈ partitions, partition.declared = partition.data.length := by
  induction partitions with
  | nil => exact fun _ member => absurd member List.not_mem_nil
  | cons first rest inductionHypothesis =>
      rw [List.forall_mem_cons] at bounded
      rw [List.map_cons, List.sum_cons, List.map_cons, List.sum_cons] at same
      have others : (rest.map PendingPartition.declared).sum ≤
          (rest.map fun partition => (partition.data.length : Int)).sum :=
        List.sum_le_sum bounded.2
      have own := bounded.1
      exact List.forall_mem_cons.mpr
        ⟨by omega, inductionHypothesis bounded.2 (by omega)⟩

/-- Partitions that declare the bytes that they have are balanced. -/
theorem balanced_of_declared_eq
    {builder : Builder}
    (filled : ∀ partition ∈ builder.partitions,
      partition.declared = partition.data.length)
    {size : Nat}
    (room : 76 + builder.strings.length + builder.partitionData.length ≤ size) :
    builder.Balanced size := by
  refine ⟨congrArg List.sum (List.map_congr_left filled), fun index partition found => ?_⟩
  obtain ⟨after, split⟩ := exists_flatMap_data_eq found
  rw [partitionData, split, List.length_append, List.length_append] at room
  rw [filled partition (List.mem_of_getElem? found), placeOf]
  omega

end Builder

/-- A call leaves the number of elements of what it adds to be counted. -/
def BuilderCall.LeavesCount : BuilderCall → Prop
  | .step (.addString _) => True
  | .step (.addElements _ _ _) => False
  | .addPartition _ _ _ cardinality => cardinality = none
  | .build _ => True

namespace Builder

/-- The elements of what is added are counted where a call leaves this. -/
theorem counted_after
    {builder : Builder}
    {call : BuilderCall}
    (leaves : call.LeavesCount)
    {partition : PendingPartition}
    (member : partition ∈ (call.after builder).partitions) :
    partition ∈ builder.partitions ∨
      partition.cardinality = countElements partition.data partition.entrySize := by
  cases call with
  | step action =>
      cases action with
      | addElements target values name => exact leaves.elim
      | addString text =>
          obtain present | ⟨next, performed, present⟩ := of_getD (partition ∈ ·.partitions) member
          · exact .inl present
          obtain ⟨⟨offset, stored⟩, added, final⟩ := Fallible.bind_eq_ok.mp performed
          cases final
          exact .inl ((adds_of_addString added).partitions ▸ present)
  | addPartition name entrySize data cardinality =>
      obtain present | ⟨next, added, present⟩ := of_getD (partition ∈ ·.partitions) member
      · exact .inl present
      obtain ⟨⟨offset, named⟩, stored, final⟩ := Fallible.bind_eq_ok.mp added
      cases final
      obtain earlier | rfl := mem_partitions_concat rfl present
      · exact .inl ((adds_of_addString stored).partitions ▸ earlier)
      · rw [leaves]
        exact .inr rfl
  | build options =>
      rw [BuilderCall.after, partitions_after_addString] at member
      exact .inl member

/-- The elements of every partition are counted where no call gives their number. -/
theorem counted_afterAll
    {calls : List BuilderCall}
    (leave : ∀ call ∈ calls, call.LeavesCount) :
    ∀ partition ∈ (empty.afterAll calls).partitions,
      partition.cardinality = countElements partition.data partition.entrySize := by
  induction calls using List.reverseRecOn with
  | nil => exact fun _ member => absurd member List.not_mem_nil
  | append_singleton earlier call inductionHypothesis =>
      rw [List.forall_mem_append, List.forall_mem_singleton] at leave
      intro partition member
      rw [afterAll_concat] at member
      obtain before | counted := counted_after leave.2 member
      · exact inductionHypothesis leave.1 partition before
      · exact counted

/-! ## Parts of what is written -/

/-- The entries of partitions that declare their bytes give regions that follow each
other. -/
theorem abut_summariesFrom
    {partitions : List PendingPartition}
    (filled : ∀ partition ∈ partitions, ∀ place,
      (partition.summary place).size = partition.data.length)
    (place : Nat) :
    Abut place ((summariesFrom place partitions).map Summary.region)
      (place + (partitions.flatMap PendingPartition.data).length) := by
  induction partitions generalizing place with
  | nil => exact .nil place
  | cons first rest inductionHypothesis =>
      rw [List.forall_mem_cons] at filled
      have following := inductionHypothesis filled.2 (place + first.data.length)
      rw [summariesFrom, List.map_cons, List.flatMap_cons, List.length_append,
        ← Nat.add_assoc, Summary.region, filled.1]
      exact .cons following

/-- Some bytes consist of the parts that they declare and of nothing else, and these are
those of a builder. -/
structure Tiles (builder : Builder) (bytes : List UInt8) : Prop where
  abut : Abut 0 (regions bytes) bytes.length
  everyByte : ∀ position < bytes.length,
    ∃! index : Nat, ∃ region, (regions bytes)[index]? = some region ∧ region.Holds position
  inside : ∀ region ∈ regions bytes, region.stop ≤ bytes.length
  signature : Region.window ⟨0, Dimensions.signatureSize⟩ bytes = Dimensions.signature
  strings : Region.window ⟨tableStart bytes, tableSize bytes⟩ bytes = builder.strings
  /-- The table of contents has the entries of the partitions, in order. -/
  contents : storedSummaries bytes =
    summariesFrom (76 + builder.strings.length) builder.partitions
  partitions : ∀ (index : Nat) partition, builder.partitions[index]? = some partition →
    ∃ summary, (storedSummaries bytes)[index]? = some summary ∧
      summary.region.window bytes = partition.data

/-- What is written tiles the container where every partition declares the bytes that it
has. -/
theorem Writes.tiles
    {builder : Builder}
    {image : Image}
    (writes : builder.Writes image)
    (filled : ∀ partition ∈ builder.partitions, ∀ place,
      (partition.summary place).size = partition.data.length) :
    builder.Tiles image.bytes := by
  have length := writes.fits.length_bytes
  have described := writes.fits.describes
  have stored := writes.fits.storedSummaries_eq.trans writes.summaries
  have abut : Abut 0 (regions image.bytes) image.bytes.length := by
    have head : Abut 0 [⟨0, Dimensions.signatureSize⟩,
        ⟨Dimensions.signatureSize, Dimensions.headerSize⟩, ⟨76, image.strings.length⟩]
        (76 + image.strings.length) :=
      .cons (.cons (.cons (.nil _)))
    have entries := abut_summariesFrom filled (76 + image.strings.length)
    rw [← writes.strings] at stored
    rw [regions, described.tableStart, described.tableSize, described.contentsStart,
      described.entryCount, stored, length, Image.contentsStart, writes.data]
    exact (head.append entries).append (.cons (.nil _))
  refine ⟨abut, fun position bound => abut.existsUnique (Nat.zero_le _) bound,
    fun region member => (abut.bounds.2 region member).2, writes.fits.signed.2, ?_, stored,
    fun index partition found => ?_⟩
  · rw [Region.window, described.tableStart, described.tableSize, writes.fits.drop_header,
      List.take_left, writes.strings]
  · refine ⟨partition.summary (builder.placeOf index), ?_, ?_⟩
    · rw [stored, getElem?_summariesFrom, found]
      rfl
    · obtain ⟨after, split⟩ := exists_flatMap_data_eq found
      have size := filled partition (List.mem_of_getElem? found) (builder.placeOf index)
      rw [Summary.region, Region.window, size, PendingPartition.summary, placeOf,
        ← writes.strings, ← List.drop_drop, writes.fits.drop_strings, writes.data,
        partitionData, split, List.append_assoc, List.drop_left, List.append_assoc,
        List.take_left]

/-! ## What is opened -/

/-- The names of the partitions of a run stand in the string table. -/
theorem name_lt_of_mem_partitions
    {calls : List BuilderCall}
    {partition : PendingPartition}
    (present : partition ∈ (empty.afterAll calls).partitions)
    {text : String}
    {offset : Nat}
    {next : Builder}
    (added : (empty.afterAll calls).addString text = .ok (offset, next)) :
    partition.name < next.strings.length := by
  obtain ⟨name, used⟩ := exists_used_of_mem_partitions present
  obtain ⟨interns, recalls, _⟩ := (interns_empty.afterAll calls).1.addString added
  have known := recalls name partition.name (used.find?_eq interns_empty)
  exact (interns.texts name partition.name known).offset_lt

/-- What is written with the default signature consists of the parts of an image of the
builder, which its source path was given to, and whose names stand in its string table. -/
theorem exists_image_of_signature
    {calls : List BuilderCall}
    {options : BuildOptions}
    {bytes : List UInt8}
    (signature : fitSignature options.signature = Dimensions.signature)
    (built : (empty.afterAll calls).build options = .ok bytes) :
    ∃ image, bytes = image.bytes ∧
      (empty.afterAll (calls ++ [.build options])).Writes image ∧
      (∀ partition ∈ (empty.afterAll (calls ++ [.build options])).partitions,
        HasEntry partition) ∧
      Named image.bytes := by
  obtain ⟨sourcePath, complete, image, added, writes, _, written⟩ :=
    exists_image_of_build built
  have final := afterAll_build added
  obtain ⟨⟨_, _⟩, addedToo, remaining⟩ := Fallible.bind_eq_ok.mp built
  obtain ⟨contents, packed, _⟩ := Fallible.bind_eq_ok.mp remaining
  cases added.symm.trans addedToo
  rw [final]
  refine ⟨image, ?_, writes, hasEntry_of_packContents packed, writes.fits.named ?_⟩
  · rw [written, signature]
    rfl
  · intro summary member
    rw [writes.summaries] at member
    obtain ⟨partition, present, _, rfl, _⟩ := exists_of_mem_summariesFrom member
    rw [(adds_of_addString added).partitions] at present
    rw [writes.strings]
    exact name_lt_of_mem_partitions present added

/-- What is written is opened just when the builder is balanced. -/
theorem Writes.exists_load_iff
    {builder : Builder}
    {image : Image}
    (writes : builder.Writes image)
    (counts : ∀ partition ∈ builder.partitions, Counts partition)
    (named : Named image.bytes)
    (backing : Backing)
    (environment : Option Nat) :
    (∃ opened, (Container.load (.of image.bytes backing) environment).1 = .ok opened) ↔
      builder.Balanced image.bytes.length := by
  rw [← writes.sized_iff counts]
  constructor
  · rintro ⟨opened, loaded⟩
    exact (accepted_of_load loaded).2.1
  · intro inOrder
    exact exists_load writes.fits.signed inOrder named backing environment

/-- What is written by a builder that is not balanced is refused for its sizes. -/
theorem Writes.failsAs_of_not_balanced
    {builder : Builder}
    {image : Image}
    (writes : builder.Writes image)
    (counts : ∀ partition ∈ builder.partitions, Counts partition)
    (unbalanced : ¬builder.Balanced image.bytes.length)
    (backing : Backing)
    (environment : Option Nat) :
    FailsAs (Container.load (.of image.bytes backing) environment).1
      (.reader .sizeMismatch) := by
  obtain ⟨fault, refused, kind⟩ := load_of_not_sized backing environment writes.fits.signed
    (mt (writes.sized_iff counts).mp unbalanced)
  exact ⟨fault, refused, Fault.kind_shown_of_reader kind⟩

/-- A container that is written after any run of a builder, with the default signature, is
opened just when the builder is balanced, and else refused for its sizes. Where the numbers
of elements are counted, as they are where no call gives them, it is opened just when all
partitions have whole elements. Where every partition declares the bytes that it has, the
parts of the container tile it. -/
theorem built_container_loads
    {calls : List BuilderCall}
    {options : BuildOptions}
    {bytes : List UInt8}
    (signature : options.signature = Dimensions.signature)
    (built : (empty.afterAll calls).build options = .ok bytes)
    (backing : Backing)
    (environment : Option Nat) :
    ((∃ opened, (Container.load (.of bytes backing) environment).1 = .ok opened) ↔
      (empty.afterAll (calls ++ [.build options])).Balanced bytes.length) ∧
    (¬(empty.afterAll (calls ++ [.build options])).Balanced bytes.length →
      FailsAs (Container.load (.of bytes backing) environment).1 (.reader .sizeMismatch)) ∧
    ((∀ partition ∈ (empty.afterAll calls).partitions,
        partition.cardinality = countElements partition.data partition.entrySize) →
      ((∃ opened, (Container.load (.of bytes backing) environment).1 = .ok opened) ↔
        ∀ partition ∈ (empty.afterAll calls).partitions,
          partition.entrySize ∣ partition.data.length)) ∧
    ((∀ call ∈ calls, call.LeavesCount) →
      ∀ partition ∈ (empty.afterAll calls).partitions,
        partition.cardinality = countElements partition.data partition.entrySize) ∧
    ((∀ partition ∈ (empty.afterAll calls).partitions,
        partition.declared = partition.data.length) →
      (empty.afterAll (calls ++ [.build options])).Tiles bytes) := by
  obtain ⟨image, rfl, writes, entries, named⟩ :=
    exists_image_of_signature (congrArg fitSignature signature) built
  have counts : ∀ partition ∈ (empty.afterAll (calls ++ [.build options])).partitions,
      Counts partition := fun partition member => (entries partition member).toCounts
  have partitions := empty.partitions_afterAll_build calls options
  have loads := writes.exists_load_iff counts named backing environment
  have room : 76 + (empty.afterAll (calls ++ [.build options])).strings.length +
      (empty.afterAll (calls ++ [.build options])).partitionData.length ≤
        image.bytes.length := by
    rw [writes.fits.length_bytes, ← writes.strings, ← writes.data]
    exact Nat.le_add_right _ _
  refine ⟨loads, fun unbalanced => ?_, fun counted => loads.trans ⟨fun balanced => ?_,
    fun whole => ?_⟩, counted_afterAll, fun filled => ?_⟩
  · exact writes.failsAs_of_not_balanced counts unbalanced backing environment
  · rw [partitions] at counts
    have total := balanced.total
    rw [partitions] at total
    have filled := forall_declared_eq_of_sum_eq
      (fun partition member => (declared_of_counted (counts partition member)
        (counted partition member)).1) total
    intro partition member
    exact (declared_of_counted (counts partition member) (counted partition member)).2.mp
      (filled partition member)
  · refine balanced_of_declared_eq (fun partition member => ?_) room
    have count := counts partition member
    rw [partitions] at member
    exact (declared_of_counted count (counted partition member)).2.mpr (whole partition member)
  · rw [← partitions] at filled
    refine writes.tiles fun partition member place => ?_
    have declared := (counts partition member).size_summary place
    rw [filled partition member] at declared
    exact Nat.cast_inj.mp declared

/-- Two partitions of three bytes, of which one declares a byte more and the other a byte
less. -/
def errorsCancel : List BuilderCall := [
  .addPartition "a" 2 [1, 2, 3] (some 2),
  .addPartition "b" 1 [4, 5, 6] (some 2)]

/-- The bytes of the container of these partitions. -/
def errorsCancelData : List UInt8 :=
  Dimensions.signature ++ List.replicate 32 0 ++
    [0, 43, 0, 0, 18, 21, 3, 0, 76, 0, 0, 0, 5, 0, 0, 0] ++ List.replicate 12 0 ++
    [87, 0, 0, 0, 2, 0, 0, 0, 0, 0, 0, 0] ++ [0, 97, 0, 98, 0] ++ [1, 2, 3, 4, 5, 6] ++
    [1, 0, 0, 0, 81, 0, 0, 0, 2, 0, 0, 0, 2, 0, 0, 0] ++
    [3, 0, 0, 0, 84, 0, 0, 0, 2, 0, 0, 0, 1, 0, 0, 0]

/-- A partition whose elements are counted. -/
def wholeElements : List BuilderCall := [
  .step (.addString "t"),
  .addPartition "a" 2 [1, 2, 3, 4] none]

theorem built_container_loads_errorsCancel :
    (empty.afterAll errorsCancel).build unchecked = .ok errorsCancelData ∧
    (∃ opened, (Container.load (.of errorsCancelData .bytes) none).1 = .ok opened) ∧
    ∃ bytes, (empty.afterAll wholeElements).build unchecked = .ok bytes ∧
      (∃ opened, (Container.load (.of bytes .bytes) none).1 = .ok opened) ∧
      (empty.afterAll (wholeElements ++ [.build unchecked])).Tiles bytes := by
  have built : (empty.afterAll errorsCancel).build unchecked = .ok errorsCancelData := rfl
  obtain ⟨loads, _⟩ := built_container_loads rfl built .bytes none
  refine ⟨built, loads.mpr (by decide +kernel), ?_⟩
  obtain ⟨bytes, whole⟩ : ∃ bytes, (empty.afterAll wholeElements).build unchecked =
    .ok bytes := ⟨_, rfl⟩
  have leaves : ∀ call ∈ wholeElements, call.LeavesCount :=
    List.forall_mem_cons.mpr ⟨trivial, List.forall_mem_singleton.mpr rfl⟩
  obtain ⟨_, _, countedLoads, counted, tiles⟩ := built_container_loads rfl whole .bytes none
  exact ⟨bytes, whole, (countedLoads (counted leaves)).mpr (by decide), tiles (by decide)⟩

end Builder
end ModuleInterface

import Mathlib
import ModuleInterface.Container.State
import ModuleInterface.Proofs.Builder.Written
import ModuleInterface.Proofs.Codec.RoundTrip
import ModuleInterface.Proofs.Container.Running
import ModuleInterface.Proofs.Text.Utf8

/-!
# Built containers are read back

What is added to a builder comes back from the container that it writes: the names, each
once and in the order of their first use; under each name the elements that were first
added under it; the texts; and what was chosen for the header. The invariant of a run
says where names and elements were put, and the image of the builder where they stand in
the bytes.
-/

-- Powers are the core library's, as in the definitions that are reasoned about.
attribute [local instance (1100)] instPowNat

namespace ModuleInterface

open Acceptance

/-! ## Texts -/

/-- A text that stands in the bytes and is closed by a zero is read at its place. -/
theorem Blob.textAt_of_drop
    {data bytes after : List UInt8}
    {place : Nat}
    (found : data.drop place = bytes ++ 0 :: after)
    (nonzero : 0 ∉ bytes) :
    (Blob.of data .bytes).textAt (.integer place) = .ok (Utf8.decode bytes) := by
  have length := congrArg List.length found
  simp only [List.length_drop, List.length_append, List.length_cons] at length
  have spelled : textBytes data place = bytes := by
    have kept : ∀ byte ∈ bytes, (!byte == 0) = true := by
      intro byte member
      rw [Bool.not_eq_true', beq_eq_false_iff_ne]
      rintro rfl
      exact nonzero member
    rw [textBytes, found, List.takeWhile_append_of_pos kept]
    simp
  rw [Blob.textAt_eq .bytes (by omega), spelled]

/-- Bytes of the string table of an image that a zero follows are read as a text, unless
there is a zero among them. -/
theorem Image.Fits.tableText_of_split
    {image : Image}
    (fits : image.Fits)
    {before bytes after : List UInt8}
    (split : image.strings = before ++ (bytes ++ 0 :: after))
    (nonzero : 0 ∉ bytes) :
    Container.tableText (storedHeader image.bytes) (.of image.bytes .bytes) before.length =
      .ok (Utf8.decode bytes) := by
  have described := fits.describes
  have place : image.bytes.drop (76 + before.length) =
      bytes ++ 0 :: (after ++ (image.data ++ image.summaries.flatMap Summary.encode)) := by
    rw [← List.drop_drop, fits.drop_header, split]
    simp only [List.append_assoc, List.cons_append, List.drop_left]
  have size : tableSize image.bytes = before.length + (bytes.length + (after.length + 1)) := by
    rw [described.tableSize, split]
    simp
  have filled : ¬(tableSize image.bytes = 0 ∧ (before.length : Int) = 0) := by omega
  have inside : (0 : Int) ≤ before.length ∧ (before.length : Int) < tableSize image.bytes := by
    omega
  have start :
      (tableStart image.bytes : Int) + before.length = ((76 + before.length : Nat) : Int) := by
    rw [described.tableStart]
    push_cast
    rfl
  rw [Container.tableText, stringTableSize_storedHeader, stringTableStart_storedHeader,
    if_neg filled, if_pos inside, start, Blob.textAt_of_drop place nonzero]

/-- A text of the string table of an image is read back up to its first null character. -/
theorem Image.Fits.tableText_eq_beforeNul
    {image : Image}
    (fits : image.Fits)
    {builder : Builder}
    (strings : image.strings = builder.strings)
    {text : String}
    {offset : Nat}
    (stored : builder.StoresText text offset) :
    Container.tableText (storedHeader image.bytes) (.of image.bytes .bytes) offset =
      .ok (Symbol.beforeNul text) := by
  obtain ⟨before, bytes, after, encoded, split, rfl⟩ := stored
  obtain ⟨front, rest, cut, nonzero, read⟩ := Utf8.exists_beforeNul encoded
  have parts : image.strings = before ++ (front ++ 0 :: (rest ++ after)) := by
    rw [strings, split, ← List.singleton_append, ← List.append_assoc bytes, cut]
    simp only [List.append_assoc, List.cons_append]
  rw [fits.tableText_of_split parts nonzero, read]

/-- A text of the string table of an image is read back. -/
theorem Image.Fits.tableText_eq
    {image : Image}
    (fits : image.Fits)
    {builder : Builder}
    (strings : image.strings = builder.strings)
    {text : String}
    {offset : Nat}
    (stored : builder.StoresText text offset)
    (nulFree : Symbol.NulFree text) :
    Container.tableText (storedHeader image.bytes) (.of image.bytes .bytes) offset =
      .ok text := by
  rw [fits.tableText_eq_beforeNul strings stored, nulFree.beforeNul_eq]

/-! ## Elements -/

/-- Bytes have the size of an element and are read as a value. -/
structure Element.Reads (element : Element) (bytes : List UInt8) (value : Value) : Prop where
  size : bytes.length = element.size
  value : element.read bytes = .ok value

/-- Values that were written are read back one by one. -/
theorem Element.reads_of_denotes
    {element : Element}
    {values typed : List Value}
    (denoted : List.Forall₂ element.Denotes values typed)
    {packed : List (List UInt8)}
    (written : List.Forall₂ (fun value bytes => element.pack value = .ok bytes) values packed) :
    List.Forall₂ element.Reads packed typed := by
  induction denoted generalizing packed with
  | nil =>
      cases written
      exact .nil
  | cons first rest inductionHypothesis =>
      cases written with
      | cons firstWritten restWritten =>
          obtain ⟨size, value⟩ := first.read_eq firstWritten
          exact .cons ⟨size, value⟩ (inductionHypothesis restWritten)

theorem Element.length_flatten_of_reads
    {element : Element}
    {packed : List (List UInt8)}
    {typed : List Value}
    (reads : List.Forall₂ element.Reads packed typed) :
    packed.flatten.length = packed.length * element.size := by
  induction reads with
  | nil => simp
  | cons first rest inductionHypothesis =>
      rw [List.flatten_cons, List.length_append, first.size, inductionHypothesis,
        List.length_cons, Nat.succ_mul, Nat.add_comm]

/-- Elements that stand in the bytes from a position of a view on are listed. -/
theorem View.readFrom_eq_ok
    {view : View}
    {data rest : List UInt8}
    {packed : List (List UInt8)}
    {typed : List Value}
    (reads : List.Forall₂ view.spec.element.Reads packed typed)
    (backing : Backing)
    {position : Nat}
    (within : view.offsetOf position ≤ data.length)
    (found : data.drop (view.offsetOf position) = packed.flatten ++ rest) :
    view.readFrom (.of data backing) packed.length position = .ok typed := by
  induction reads generalizing position with
  | nil => rfl
  | @cons bytes value others values first readsOthers inductionHypothesis =>
      have length := congrArg List.length found
      simp only [List.flatten_cons, List.append_assoc, List.length_drop, List.length_append,
        first.size] at length
      have next : view.offsetOf (position + 1) =
          view.offsetOf position + view.spec.element.size := by
        simp only [offsetOf, PartitionSpec.entrySize, Nat.succ_mul]
        omega
      have present : view.offsetOf position + view.spec.element.size ≤ data.toArray.size := by
        rw [List.size_toArray]
        omega
      have window : Bytes.window data.toArray (view.offsetOf position)
          view.spec.element.size = bytes := by
        rw [Bytes.window_eq]
        simp only [found, List.flatten_cons, List.append_assoc]
        exact List.take_left' first.size
      have read : view.read (.of data backing) position = .ok value := by
        change view.spec.element.readAt data.toArray (view.offsetOf position) = _
        rw [Element.readAt, if_pos present, window, first.value]
      have within : view.offsetOf (position + 1) ≤ data.length := by
        rw [next]
        omega
      have following : data.drop (view.offsetOf (position + 1)) = others.flatten ++ rest := by
        rw [next, ← List.drop_drop, found, List.flatten_cons, List.append_assoc,
          List.drop_left' first.size]
      have remaining := inductionHypothesis within following
      rw [List.length_cons, readFrom, read, Fallible.ok_bind, remaining]
      rfl

/-! ## Partitions -/

/-- What was added can be read back: its name has no zero, its values stand for typed
ones, and the entry of its partition has room for their number and size. -/
structure Addition.WellTyped (addition : Addition) : Prop where
  name : Symbol.NulFree addition.name
  values : ∃ typed, List.Forall₂ addition.spec.element.Denotes addition.values typed
  count : addition.values.length < 256 ^ 4
  size : addition.spec.element.size < 256 ^ 4

namespace Builder

/-- The target of what was added stands for its specification. -/
theorem resolve_of_mem_additions
    {builder : Builder}
    {steps : List BuilderStep}
    {addition : Addition}
    (member : addition ∈ builder.additions steps) :
    addition.target.resolve = .ok addition.spec := by
  induction steps generalizing builder with
  | nil => cases member
  | cons step rest inductionHypothesis =>
      rw [additions] at member
      split at member
      next next performed =>
        obtain own | later := List.mem_append.mp member
        · cases step with
          | addString text => cases own
          | addElements target values name =>
              rw [BuilderStep.additions] at own
              split at own
              next spec resolved =>
                rw [List.mem_singleton] at own
                subst own
                exact resolved
              next => cases own
        · exact inductionHypothesis later
      next => exact inductionHypothesis member

namespace Pends

variable {builder : Builder} {addition : Addition} {partition : PendingPartition}

theorem summary_eq
    (pends : builder.Pends addition partition)
    (place : Nat) :
    partition.summary place =
      ⟨partition.name, place, addition.values.length, addition.spec.element.size⟩ := by
  rw [PendingPartition.summary, pends.cardinality, pends.entrySize]
  rfl

theorem counts
    (pends : builder.Pends addition partition) :
    Counts partition := by
  refine ⟨?_, ?_⟩
  · rw [pends.entrySize]
    exact Int.natCast_nonneg _
  · rw [pends.cardinality]
    exact Int.natCast_nonneg _

/-- The bytes of a partition are those of its elements, which are read back. -/
theorem exists_reads
    (pends : builder.Pends addition partition)
    {typed : List Value}
    (denoted : List.Forall₂ addition.spec.element.Denotes addition.values typed) :
    ∃ packed, partition.data = packed.flatten ∧ packed.length = addition.values.length ∧
      List.Forall₂ addition.spec.element.Reads packed typed := by
  obtain ⟨packed, written, data⟩ := pends.data
  have paired := Fallible.forall₂_of_mapM_eq_ok written
  exact ⟨packed, data, paired.length_eq.symm, Element.reads_of_denotes denoted paired⟩

/-- A partition has the bytes that its entry declares. -/
theorem size_summary
    (pends : builder.Pends addition partition)
    (typed : addition.WellTyped)
    (place : Nat) :
    (partition.summary place).size = partition.data.length := by
  obtain ⟨_, denoted⟩ := typed.values
  obtain ⟨packed, data, count, reads⟩ := pends.exists_reads denoted
  rw [pends.summary_eq, Summary.size, data, Element.length_flatten_of_reads reads, count]

end Pends

/-- A partition is that of something that was added. -/
theorem Keeps.exists_addition
    {builder : Builder}
    {added : List Addition}
    (keeps : builder.Keeps added)
    {partition : PendingPartition}
    (member : partition ∈ builder.partitions) :
    ∃ addition ∈ added, builder.Pends addition partition :=
  exists_left_of_forall₂ keeps.partitions member

/-! ## The image that is written -/

section Written

variable {complete : Builder} {added : List Addition}
variable {major minor scope sourcePath : Nat} {unit : TaggedIndex} {options : BuildOptions}

/-- The numbers of a builder of well-typed additions fit the fields that they are written
to. -/
theorem Keeps.image_fits
    (keeps : complete.Keeps added)
    (typed : ∀ addition ∈ added, addition.WellTyped)
    (chosen : options.Chooses major minor scope unit)
    (pathFound : complete.offsets.find? options.sourcePath = some sourcePath)
    (total : 76 + complete.strings.length + complete.partitionData.length +
      16 * complete.partitions.length < 256 ^ 4) :
    (complete.image major minor unit.raw sourcePath scope).Fits := by
  refine Builder.image_fits chosen.numbers (keeps.texts _ _ pathFound).offset_lt ?_ ?_ total
  · intro partition present
    obtain ⟨addition, _, pends⟩ := keeps.exists_addition present
    exact (keeps.texts _ _ pends.name).offset_lt
  · intro partition present
    obtain ⟨addition, member, pends⟩ := keeps.exists_addition present
    refine ⟨pends.counts, ?_, ?_⟩
    · rw [pends.entrySize]
      exact_mod_cast (typed addition member).size
    · rw [pends.cardinality]
      exact_mod_cast (typed addition member).count

/-- The entries of a builder of well-typed additions describe its partitions. -/
theorem Keeps.image_consistent
    (keeps : complete.Keeps added)
    (typed : ∀ addition ∈ added, addition.WellTyped)
    (major minor unit sourcePath scope : Nat) :
    (complete.image major minor unit sourcePath scope).Consistent := by
  have filled : ∀ partition ∈ complete.partitions, ∀ place,
      (partition.summary place).size = partition.data.length := by
    intro partition member place
    obtain ⟨addition, found, pends⟩ := keeps.exists_addition member
    exact pends.size_summary (typed addition found) place
  refine ⟨totalSize_summariesFrom filled _, ?_, ?_⟩
  · intro summary member
    obtain ⟨partition, present, start, rfl, bound⟩ := exists_of_mem_summariesFrom member
    rw [← partitionData] at bound
    rw [Summary.stop, filled partition present]
    simp only [PendingPartition.summary, Image.contentsStart, image]
    omega
  · intro summary member
    obtain ⟨partition, present, start, rfl, _⟩ := exists_of_mem_summariesFrom member
    obtain ⟨addition, _, pends⟩ := keeps.exists_addition present
    exact (keeps.texts _ _ pends.name).offset_lt

end Written

/-- An image holds what a builder writes. -/
structure Writes (builder : Builder) (image : Image) : Prop where
  fits : image.Fits
  strings : image.strings = builder.strings
  data : image.data = builder.partitionData
  summaries : image.summaries =
    summariesFrom (76 + builder.strings.length) builder.partitions

/-- The entries of partitions bear the names that were added. -/
theorem named_summariesFrom
    {builder : Builder}
    {added : List Addition}
    {partitions : List PendingPartition}
    (paired : List.Forall₂ builder.Pends added partitions)
    {header : Header}
    {blob : Blob}
    (read : ∀ addition ∈ added, ∀ offset : Nat,
      builder.offsets.find? addition.name = some offset →
        Container.tableText header blob offset = .ok addition.name)
    (place : Nat) :
    List.Forall₂ (fun summary name => Container.tableText header blob summary.name = .ok name)
      (summariesFrom place partitions) (added.map Addition.name) := by
  induction paired generalizing place with
  | nil => exact .nil
  | cons pends rest inductionHypothesis =>
      rw [List.forall_mem_cons] at read
      exact .cons (read.1 _ pends.name) (inductionHypothesis read.2 _)

/-- The partition of one of the additions stands between those of the others. -/
theorem exists_partition_of_split
    {builder : Builder}
    {earlier later : List Addition}
    {addition : Addition}
    {partitions : List PendingPartition}
    (paired : List.Forall₂ builder.Pends (earlier ++ addition :: later) partitions) :
    ∃ before partition after, partitions = before ++ partition :: after ∧
      List.Forall₂ builder.Pends earlier before ∧ builder.Pends addition partition := by
  induction earlier generalizing partitions with
  | nil =>
      cases paired with
      | cons pends rest => exact ⟨[], _, _, rfl, .nil, pends⟩
  | cons first rest inductionHypothesis =>
      cases paired with
      | cons firstPends restPaired =>
          obtain ⟨before, partition, after, rfl, beforePaired, pends⟩ :=
            inductionHypothesis restPaired
          exact ⟨_ :: before, partition, after, rfl, .cons firstPends beforePaired, pends⟩

namespace Writes

variable {builder : Builder} {added : List Addition} {image : Image}

/-- The name of what was added is read at its offset. -/
theorem tableText_eq
    (writes : builder.Writes image)
    (keeps : builder.Keeps added)
    {text : String}
    (nulFree : Symbol.NulFree text)
    {offset : Nat}
    (found : builder.offsets.find? text = some offset) :
    Container.tableText (storedHeader image.bytes) (.of image.bytes .bytes) offset =
      .ok text :=
  writes.fits.tableText_eq writes.strings (keeps.texts text offset found) nulFree

/-- The entry of a name that was added is that of its first partition, which starts at
the place that the entry gives. -/
theorem exists_summary?
    (writes : builder.Writes image)
    (keeps : builder.Keeps added)
    (nulFree : ∀ addition ∈ added, Symbol.NulFree addition.name)
    {opened : Container}
    (stores : opened.Stores image.bytes .bytes)
    {earlier later : List Addition}
    {addition : Addition}
    (split : added = earlier ++ addition :: later)
    (fresh : addition.name ∉ earlier.map Addition.name) :
    ∃ partition place rest, builder.Pends addition partition ∧
      opened.summary? addition.name = some (partition.summary place) ∧
      place ≤ image.bytes.length ∧ image.bytes.drop place = partition.data ++ rest := by
  have paired := keeps.partitions
  rw [split] at paired nulFree
  obtain ⟨before, partition, after, partitions, beforePaired, pends⟩ :=
    exists_partition_of_split paired
  have named := named_summariesFrom beforePaired (fun other member offset found =>
    writes.tableText_eq keeps (nulFree other (List.mem_append_left _ member)) found)
    (76 + builder.strings.length)
  have read := writes.tableText_eq keeps
    (nulFree addition (List.mem_append_right _ List.mem_cons_self)) pends.name
  have data : image.data = before.flatMap PendingPartition.data ++
      (partition.data ++ after.flatMap PendingPartition.data) := by
    rw [writes.data, partitionData, partitions, List.flatMap_append, List.flatMap_cons]
  refine ⟨partition, 76 + builder.strings.length +
    (before.flatMap PendingPartition.data).length, after.flatMap PendingPartition.data ++
      image.summaries.flatMap Summary.encode, pends, ?_, ?_, ?_⟩
  · rw [stores.summary?_eq, writes.fits.storedSummaries_eq, writes.summaries, partitions,
      summariesFrom_append, summariesFrom]
    exact Container.find?_bears_of_named named fresh read
  · rw [writes.fits.length_bytes, Image.contentsStart, data, writes.strings,
      List.length_append]
    omega
  · rw [← List.drop_drop, ← writes.strings, writes.fits.drop_strings, data,
      List.append_assoc, List.drop_left, List.append_assoc]

/-- The first elements that were added under a name are found under it and listed. -/
theorem exists_list_eq
    (writes : builder.Writes image)
    (keeps : builder.Keeps added)
    (nulFree : ∀ addition ∈ added, Symbol.NulFree addition.name)
    {opened : Container}
    (stores : opened.Stores image.bytes .bytes)
    {earlier later : List Addition}
    {addition : Addition}
    (split : added = earlier ++ addition :: later)
    (fresh : addition.name ∉ earlier.map Addition.name)
    {typed : List Value}
    (denoted : List.Forall₂ addition.spec.element.Denotes addition.values typed) :
    ∃ view, opened.requirePartition addition.spec addition.name = .ok view ∧
      view.list opened.blob = .ok typed := by
  obtain ⟨partition, place, rest, pends, found, within, drop⟩ :=
    writes.exists_summary? keeps nulFree stores split fresh
  obtain ⟨packed, data, count, reads⟩ := pends.exists_reads denoted
  rw [pends.summary_eq] at found
  refine ⟨⟨addition.spec, addition.name, place, addition.values.length⟩, ?_, ?_⟩
  · rw [Container.requirePartition, Container.findPartition_of_summary? _ found, if_pos rfl]
  · rw [stores.blob, View.list, ← count]
    have start : View.offsetOf ⟨addition.spec, addition.name, place, packed.length⟩ 0 =
        place := by
      simp [View.offsetOf]
    rw [data, ← start] at drop
    rw [← start] at within
    exact View.readFrom_eq_ok reads .bytes within drop

/-- The table of contents lists the names that were added, each where it was first
used. -/
theorem keys_eq
    (writes : builder.Writes image)
    (keeps : builder.Keeps added)
    (nulFree : ∀ addition ∈ added, Symbol.NulFree addition.name)
    {opened : Container}
    (stores : opened.Stores image.bytes .bytes) :
    opened.contents.keys = (added.map Addition.name).eraseDups := by
  have named := named_summariesFrom keeps.partitions (fun addition member offset found =>
    writes.tableText_eq keeps (nulFree addition member) found)
    (76 + builder.strings.length)
  rw [← writes.summaries, ← writes.fits.storedSummaries_eq] at named
  exact stores.keys_eq named

end Writes

/-- A builder of well-typed additions writes an image, under the number of bytes that it
has in total. -/
theorem Keeps.exists_image
    {builder : Builder}
    {added : List Addition}
    (keeps : builder.Keeps added)
    (typed : ∀ addition ∈ added, addition.WellTyped)
    {options : BuildOptions}
    {major minor scope : Nat}
    {unit : TaggedIndex}
    (chosen : options.Chooses major minor scope unit)
    {pathBytes : List UInt8}
    (pathEncoded : Utf8.encode? options.sourcePath = some pathBytes)
    (total : builder.totalSize options.sourcePath < 256 ^ 4) :
    ∃ (complete : Builder) (sourcePath : Nat) (image : Image),
      builder.build options = .ok image.bytes ∧
      complete.Writes image ∧ complete.Keeps added ∧
      complete.offsets.find? options.sourcePath = some sourcePath ∧
      image.bytes.length = builder.totalSize options.sourcePath ∧
      image.Consistent ∧
      image.majorVersion = major ∧ image.minorVersion = minor ∧ image.unit = unit.raw ∧
      image.sourcePath = sourcePath ∧ image.globalScope = scope := by
  obtain ⟨sourcePath, complete, pathAdded, strings⟩ := builder.exists_addString pathEncoded
  obtain ⟨keepsComplete, pathFound, partitions⟩ := keeps.addString pathAdded
  have data : complete.partitionData = builder.partitionData := by
    rw [partitionData, partitions, partitionData]
  have fits := keepsComplete.image_fits typed chosen pathFound (by
      rw [strings, data, partitions]
      exact total)
  have counts : ∀ partition ∈ complete.partitions, Counts partition := by
    intro partition member
    obtain ⟨addition, _, pends⟩ := keepsComplete.exists_addition member
    exact pends.counts
  have sealedFits := fits.sealed options.checksum
  refine ⟨complete, sourcePath, _, build_eq pathAdded chosen counts fits,
    ⟨sealedFits, rfl, rfl, rfl⟩, keepsComplete, pathFound, ?_, ?_, rfl, rfl, rfl, rfl, rfl⟩
  · rw [sealedFits.length_bytes, totalSize, ← strings, ← data, ← partitions]
    simp only [Image.sealed, Image.contentsStart, image, length_summariesFrom]
  · obtain ⟨total, inside, names⟩ := keepsComplete.image_consistent typed major minor
      unit.raw sourcePath scope
    exact ⟨total, inside, names⟩

/-- What was added to a builder comes back from the container that it writes: the names,
each where it was first used; under each name the values that were first added under it,
as typed values; and what was chosen for the header. -/
theorem build_round_trip
    (steps : List BuilderStep)
    (typed : ∀ addition ∈ empty.additions steps, addition.WellTyped)
    {options : BuildOptions}
    {major minor scope : Nat}
    {unit : TaggedIndex}
    (chosen : options.Chooses major minor scope unit)
    {pathBytes : List UInt8}
    (pathEncoded : Utf8.encode? options.sourcePath = some pathBytes)
    (pathNulFree : Symbol.NulFree options.sourcePath)
    (total : (empty.run steps).totalSize options.sourcePath < 256 ^ 4)
    (environment : Option Nat) :
    ∃ bytes opened,
      (empty.run steps).build options = .ok bytes ∧
      bytes.length = (empty.run steps).totalSize options.sourcePath ∧
      (Container.load (.of bytes .bytes) environment).1 = .ok opened ∧
      opened.contents.keys = ((empty.additions steps).map Addition.name).eraseDups ∧
      (∀ earlier addition later, empty.additions steps = earlier ++ addition :: later →
        addition.name ∉ earlier.map Addition.name →
          ∀ values, List.Forall₂ addition.spec.element.Denotes addition.values values →
            ∃ view,
              ((Query.requirePartition addition.target (some addition.name)).on opened).1 =
                .ok view ∧
              ((Query.elements view).on opened).1 = .ok values) ∧
      opened.header.majorVersion = major ∧
      opened.header.minorVersion = minor ∧
      opened.header.globalScope = scope ∧
      opened.header.unit.designation = unit.designation ∧
      ((Query.stringAt opened.header.sourcePath).on opened).1 = .ok options.sourcePath := by
  have keeps : (empty.run steps).Keeps (empty.additions steps) := keeps_empty.run steps
  obtain ⟨complete, sourcePath, image, built, writes, keepsComplete, pathFound, length,
    consistent, major, minor, unitStored, pathStored, scope⟩ :=
      keeps.exists_image typed chosen pathEncoded total
  obtain ⟨opened, loaded⟩ := writes.fits.exists_load consistent .bytes environment
  have stores := Container.stores_of_load loaded
  have described := writes.fits.describes
  have nulFree : ∀ addition ∈ empty.additions steps, Symbol.NulFree addition.name :=
    fun addition member => (typed addition member).name
  refine ⟨image.bytes, opened, built, length, loaded,
    writes.keys_eq keepsComplete nulFree stores, ?_, ?_, ?_, ?_, ?_, ?_⟩
  · intro earlier addition later split fresh values denoted
    obtain ⟨view, found, listed⟩ :=
      writes.exists_list_eq keepsComplete nulFree stores split fresh denoted
    have member : addition ∈ empty.additions steps := by
      rw [split]
      exact List.mem_append_right _ List.mem_cons_self
    refine ⟨view, ?_, ?_⟩
    · rw [Query.on_requirePartition (resolve_of_mem_additions member)]
      exact found
    · rw [Query.elements, Query.on_get_bind, Query.on_ofExcept]
      exact listed
  · rw [stores.header]
    exact described.majorVersion.trans major
  · rw [stores.header]
    exact described.minorVersion.trans minor
  · rw [stores.header]
    exact described.globalScope.trans scope
  · rw [stores.header]
    change (TaggedIndex.ofWord .unit (quadAt image.bytes 52)).designation = _
    rw [described.unit, unitStored, ← chosen.unitKind]
    exact TaggedIndex.designation_ofWord_raw unit
  · have place : opened.header.sourcePath = sourcePath := by
      rw [stores.header]
      exact described.sourcePath.trans pathStored
    rw [Query.stringAt, Query.on_get_bind, Query.on_ofExcept, stores.header, stores.blob]
    rw [stores.header] at place
    rw [place]
    exact writes.tableText_eq keepsComplete pathNulFree pathFound

/-- The specification of ranges of a partition `r`. -/
def ranges : PartitionSpec :=
  ⟨"r", .sequence, .plain .index, none, 104⟩

/-- Two additions under one name, after one that fails. -/
def repeatedName : List BuilderStep := [
  .addElements (.loose "R") [] none,
  .addElements (.spec (Container.oneField (.unsigned 1))) [.list [.integer 7]] none,
  .addElements (.spec ranges) [] none]

theorem build_round_trip_repeatedName :
    ∃ bytes opened,
      (empty.run repeatedName).build .default = .ok bytes ∧
      (Container.load (.of bytes .bytes) none).1 = .ok opened ∧
      opened.contents.keys = ["r"] ∧
      opened.header.minorVersion = 43 ∧
      ∃ view,
        ((Query.requirePartition (.spec (Container.oneField (.unsigned 1))) (some "r")).on
          opened).1 = .ok view ∧
        ((Query.elements view).on opened).1 = .ok [.record "R" [("a", .integer 7)]] := by
  have additions : empty.additions repeatedName = [
      ⟨.spec (Container.oneField (.unsigned 1)), Container.oneField (.unsigned 1), "r",
        [.list [.integer 7]]⟩,
      ⟨.spec ranges, ranges, "r", []⟩] := rfl
  have denoted : List.Forall₂ (Container.oneField (.unsigned 1)).element.Denotes
      [.list [.integer 7]] [.record "R" [("a", .integer 7)]] := by
    refine .cons ⟨?_, [.integer 7], rfl, ?_⟩ .nil
    · have held : (Codec.unsigned 1).Holds (.integer 7) := ⟨7, by decide, rfl⟩
      exact ⟨rfl, [.integer 7], ⟨_, _, rfl, held, rfl⟩, rfl, rfl⟩
    · exact .cons ⟨rfl, rfl⟩ .nil
  have typed : ∀ addition ∈ empty.additions repeatedName, addition.WellTyped := by
    rw [additions]
    intro addition member
    rw [List.mem_cons, List.mem_singleton] at member
    obtain rfl | rfl := member
    · exact ⟨by decide, ⟨_, denoted⟩, by decide, by decide⟩
    · exact ⟨by decide, ⟨[], .nil⟩, by decide, by decide⟩
  have chosen : BuildOptions.default.Chooses 0 43 0 (.null .unit) :=
    ⟨rfl, ⟨_, _, rfl, rfl, rfl⟩, rfl, .inr ⟨rfl, rfl⟩, rfl, by decide, by decide, by decide⟩
  obtain ⟨bytes, opened, built, _, loaded, keys, listed, _, minor, _⟩ :=
    build_round_trip repeatedName typed chosen rfl (by decide) (by decide) none
  obtain ⟨view, found, elements⟩ := listed [] _ _ additions (by simp) _ denoted
  rw [additions] at keys
  exact ⟨bytes, opened, built, loaded, keys, minor, view, found, elements⟩

/-- Options without a checksum. -/
def unchecked : BuildOptions :=
  { BuildOptions.default with checksum := false }

/-- The specification of a partition `r` of records of a schema. -/
def recordsOf (schema : Schema) : PartitionSpec :=
  ⟨"r", .record schema, .plain .index, none, 104⟩

/-- Records with a field that stands for their class. -/
def classRecords : PartitionSpec :=
  recordsOf ⟨"R", ["__class__"], [.unsigned 1]⟩

/-- The bytes of a container of one of these records. -/
def classRecordData : List UInt8 :=
  Dimensions.signature ++ List.replicate 32 0 ++
    [0, 43, 0, 0, 18, 21, 3, 0, 76, 0, 0, 0, 3, 0, 0, 0] ++ List.replicate 12 0 ++
    [80, 0, 0, 0, 1, 0, 0, 0, 0, 0, 0, 0] ++ [0, 114, 0] ++ [7] ++
    [1, 0, 0, 0, 79, 0, 0, 0, 1, 0, 0, 0, 1, 0, 0, 0]

/-- The container of one of these records. -/
def classRecord : Container where
  blob := .of classRecordData .bytes
  header := storedHeader classRecordData
  contents := [("r", ⟨1, 79, 1, 1⟩)]
  environment := none
  locations := []
  attributes := none
  traits := []
  journal := [.opened 96 1]

/-- What is not written or not read back: a source path with half of a surrogate pair,
elements of a size that no entry has room for, and records with a field that stands for
their class. -/
theorem build_round_trip_exceptions :
    Symbol.NulFree (Symbol.toText [.half 0]) ∧
      empty.build { unchecked with sourcePath := Symbol.toText [.half 0] } =
        .error .textUnencodable ∧
      (empty.run [.addElements (.spec (recordsOf ⟨"R", [], [.padding 4294967296]⟩)) []
        none]).build unchecked = .error .layoutViolated ∧
      (empty.run [.addElements (.spec classRecords) [.list [.integer 7]] none]).build
        unchecked = .ok classRecordData ∧
      (Container.load (.of classRecordData .bytes) none).1 = .ok classRecord ∧
      ((Query.requirePartition (.spec classRecords) (some "r")).on classRecord).1 =
        .ok ⟨classRecords, "r", 79, 1⟩ ∧
      ((Query.elements ⟨classRecords, "r", 79, 1⟩).on classRecord).1 =
        .error (.shapeReplaced "int") :=
  ⟨by decide, rfl, rfl, rfl, rfl, rfl, rfl⟩

end Builder
end ModuleInterface

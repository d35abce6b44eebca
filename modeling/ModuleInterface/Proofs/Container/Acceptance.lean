import Mathlib
import ModuleInterface.Container.State
import ModuleInterface.Proofs.Bytes.Field
import ModuleInterface.Proofs.Bytes.Search
import ModuleInterface.Proofs.Fallible

/-!
# Which byte strings are containers

A byte string is a container when it is signed, when the sizes that it declares are
those that it has, and when the names of its partitions start inside the string
table. These conditions speak of the bytes alone. `checks` lists them test by test,
each with the fault that it is refused with, and `load_map_unit` states that opening
carries out these tests in this order and nothing else: no read that follows a test
can fail.
-/

namespace ModuleInterface
namespace Acceptance

section Declared

variable (data : List UInt8)

/-- The start of the string table. -/
def tableStart : Nat := quadAt data 44

/-- The number of bytes of the string table. -/
def tableSize : Nat := quadAt data 48

/-- The start of the table of contents. -/
def contentsStart : Nat := quadAt data 64

/-- The number of entries of the table of contents. -/
def entryCount : Nat := quadAt data 68

/-- The end of the table of contents. -/
def contentsStop : Nat := contentsStart data + 16 * entryCount data

/-- The place where the name of a partition starts in the string table. -/
def nameOf (index : Nat) : Nat := quadAt data (contentsStart data + 16 * index)

/-- The start of a partition. -/
def offsetOf (index : Nat) : Nat := quadAt data (contentsStart data + 16 * index + 4)

/-- The number of elements of a partition. -/
def cardinalityOf (index : Nat) : Nat := quadAt data (contentsStart data + 16 * index + 8)

/-- The number of bytes of an element of a partition. -/
def entrySizeOf (index : Nat) : Nat := quadAt data (contentsStart data + 16 * index + 12)

/-- The number of bytes of a partition. -/
def sizeOf (index : Nat) : Nat := cardinalityOf data index * entrySizeOf data index

/-- The number of bytes that header and table of contents declare. -/
def declaredTotal : Nat :=
  76 + tableSize data + 16 * entryCount data +
    ∑ index ∈ Finset.range (entryCount data), sizeOf data index

/-- The bytes start with the signature. -/
def Signed : Prop :=
  4 ≤ data.length ∧ data.take 4 = [0x54, 0x51, 0x45, 0x1A]

/-- The declared sizes are those of the bytes, and every region lies inside them. -/
structure Sized : Prop where
  header : 76 ≤ data.length
  contents : contentsStop data ≤ data.length
  total : declaredTotal data = data.length
  table : tableStart data + tableSize data ≤ data.length
  partitions : ∀ index < entryCount data, offsetOf data index + sizeOf data index ≤ data.length

/-- The names of the partitions start inside the string table. -/
def Named : Prop :=
  ∀ index < entryCount data, nameOf data index < tableSize data

instance : Decidable (Signed data) := inferInstanceAs (Decidable (_ ∧ _))

instance : Decidable (Named data) := inferInstanceAs (Decidable (∀ _ < _, _))

instance : Decidable (Sized data) :=
  decidable_of_iff
    (76 ≤ data.length ∧ contentsStop data ≤ data.length ∧
      declaredTotal data = data.length ∧ tableStart data + tableSize data ≤ data.length ∧
      ∀ index < entryCount data, offsetOf data index + sizeOf data index ≤ data.length)
    ⟨fun ⟨header, contents, total, table, partitions⟩ =>
      ⟨header, contents, total, table, partitions⟩,
    fun sized => ⟨sized.header, sized.contents, sized.total, sized.table, sized.partitions⟩⟩

end Declared

/-! ## Tests in order -/

/-- A test, passed or not, with the fault of what does not pass it. -/
abbrev Check := Bool × Fault

/-- Carry out some tests, up to the first that is not passed. -/
def passAll : List Check → Except Fault Unit
  | [] => .ok ()
  | (passed, fault) :: rest => if passed then passAll rest else .error fault

@[simp] theorem passAll_nil : passAll [] = .ok () := rfl

@[simp] theorem passAll_cons (passed : Bool) (fault : Fault) (rest : List Check) :
    passAll ((passed, fault) :: rest) = if passed then passAll rest else .error fault := rfl

theorem passAll_append (earlier later : List Check) :
    passAll (earlier ++ later) = (passAll earlier >>= fun _ => passAll later) := by
  induction earlier with
  | nil => rfl
  | cons check rest inductionHypothesis =>
      obtain ⟨passed, fault⟩ := check
      cases passed with
      | false => rfl
      | true => simpa using inductionHypothesis

/-- All tests are passed together. -/
theorem passAll_eq_ok {checks : List Check} :
    passAll checks = .ok () ↔ ∀ check ∈ checks, check.1 = true := by
  induction checks with
  | nil => simp
  | cons check rest inductionHypothesis =>
      obtain ⟨passed, fault⟩ := check
      cases passed with
      | false => simp
      | true => simpa using inductionHypothesis

/-- Tests whose faults are of one kind are passed together or end in that kind. -/
theorem passAll_mapError_kind {checks : List Check} {kind : FaultKind}
    (uniform : ∀ check ∈ checks, check.2.kind = kind) :
    (passAll checks).mapError Fault.kind =
      if ∀ check ∈ checks, check.1 = true then .ok () else .error kind := by
  induction checks with
  | nil => rfl
  | cons check rest inductionHypothesis =>
      obtain ⟨passed, fault⟩ := check
      simp only [List.forall_mem_cons] at uniform
      cases passed with
      | false => simp [Except.mapError, uniform.1]
      | true =>
          rw [passAll_cons, if_pos rfl, inductionHypothesis uniform.2]
          simp only [List.forall_mem_cons, true_and]

theorem mapError_bind {earlier later : Except Fault Unit} :
    (earlier >>= fun _ => later).mapError Fault.kind =
      (earlier.mapError Fault.kind >>= fun _ => later.mapError Fault.kind) := by
  cases earlier <;> rfl

/-- The tests of the signature. -/
def signatureChecks (data : List UInt8) : List Check := [
  (decide (4 ≤ data.length), .signatureCut data.length),
  (decide (data.take 4 = [0x54, 0x51, 0x45, 0x1A]), .wrongSignature (data.take 4))]

/-- The test of the region of a partition. -/
def partitionCheck (data : List UInt8) (index : Nat) : Check :=
  (decide (offsetOf data index + sizeOf data index ≤ data.length),
    .partitionOutside (offsetOf data index + sizeOf data index) data.length)

/-- The tests of the regions of string table and partitions. -/
def regionChecks (data : List UInt8) : List Check :=
  (decide (tableStart data + tableSize data ≤ data.length),
    .stringTableOutside (tableStart data + tableSize data) data.length) ::
  (List.range (entryCount data)).map (partitionCheck data)

/-- The tests of the declared sizes and regions. -/
def sizeChecks (data : List UInt8) : List Check := [
  (decide (76 ≤ data.length), .headerCut data.length),
  (decide (contentsStop data ≤ data.length),
    .contentsOutside (contentsStart data) (contentsStop data) data.length),
  (decide (declaredTotal data = data.length),
    .totalDisagrees (declaredTotal data) data.length)] ++
  regionChecks data

/-- The test of the name of a partition. -/
def nameCheck (data : List UInt8) (index : Nat) : Check :=
  (decide (nameOf data index < tableSize data),
    .nameOutside (tableSize data) (nameOf data index))

/-- The tests of the names of the partitions. -/
def nameChecks (data : List UInt8) : List Check :=
  (List.range (entryCount data)).map (nameCheck data)

/-- Every test that a byte string has to pass, in order. -/
def checks (data : List UInt8) : List Check :=
  signatureChecks data ++ sizeChecks data ++ nameChecks data

theorem signatureChecks_passed_iff (data : List UInt8) :
    (∀ check ∈ signatureChecks data, check.1 = true) ↔ Signed data := by
  simp [signatureChecks, Signed]

theorem sizeChecks_passed_iff (data : List UInt8) :
    (∀ check ∈ sizeChecks data, check.1 = true) ↔ Sized data := by
  simp only [sizeChecks, regionChecks, List.forall_mem_append, List.forall_mem_cons,
    List.forall_mem_map, List.mem_range, partitionCheck, decide_eq_true_eq]
  constructor
  · rintro ⟨⟨header, contents, total, -⟩, table, partitions⟩
    exact ⟨header, contents, total, table, partitions⟩
  · intro sized
    exact ⟨⟨sized.header, sized.contents, sized.total, by simp⟩, sized.table, sized.partitions⟩

theorem nameChecks_passed_iff (data : List UInt8) :
    (∀ check ∈ nameChecks data, check.1 = true) ↔ Named data := by
  simp [nameChecks, nameCheck, Named]

theorem signatureChecks_kind {data : List UInt8} :
    ∀ check ∈ signatureChecks data, check.2.kind = .reader .invalidSignature := by
  simp [signatureChecks, Fault.kind]

theorem sizeChecks_kind {data : List UInt8} :
    ∀ check ∈ sizeChecks data, check.2.kind = .reader .sizeMismatch := by
  simp [sizeChecks, regionChecks, partitionCheck, Fault.kind]

theorem nameChecks_kind {data : List UInt8} :
    ∀ check ∈ nameChecks data, check.2.kind = .reader .corruptFormat := by
  simp [nameChecks, nameCheck, Fault.kind]

/-! ## What the tests protect -/

/-- The header that the bytes store. -/
def storedHeader (data : List UInt8) : Header :=
  .decode data.toArray (.ofWord .unit (quadAt data 52))

/-- The entries of the table of contents that the bytes store. -/
def storedSummaries (data : List UInt8) : List Summary :=
  (List.range (entryCount data)).map fun index =>
    .decode data.toArray (contentsStart data + 16 * index)

@[simp] theorem stringTableStart_storedHeader (data : List UInt8) :
    (storedHeader data).stringTableStart = tableStart data :=
  Bytes.number_four data.toArray 44

@[simp] theorem stringTableSize_storedHeader (data : List UInt8) :
    (storedHeader data).stringTableSize = tableSize data :=
  Bytes.number_four data.toArray 48

@[simp] theorem globalScope_storedHeader (data : List UInt8) :
    (storedHeader data).globalScope = quadAt data 60 :=
  Bytes.number_four data.toArray 60

@[simp] theorem contentsStart_storedHeader (data : List UInt8) :
    (storedHeader data).contentsStart = contentsStart data :=
  Bytes.number_four data.toArray 64

@[simp] theorem partitionCount_storedHeader (data : List UInt8) :
    (storedHeader data).partitionCount = entryCount data :=
  Bytes.number_four data.toArray 68

@[simp] theorem contentsStop_storedHeader (data : List UInt8) :
    (storedHeader data).contentsStop = contentsStop data := by
  simp [Header.contentsStop, Header.contentsSize, Dimensions.summarySize, contentsStop,
    Nat.mul_comm]

/-- The entry of the table of contents that is stored at an index. -/
theorem decode_entry (data : List UInt8) (index : Nat) :
    Summary.decode data.toArray (contentsStart data + 16 * index) =
      ⟨nameOf data index, offsetOf data index, cardinalityOf data index,
        entrySizeOf data index⟩ := by
  simp only [Summary.decode, Bytes.number_four, nameOf, offsetOf, cardinalityOf, entrySizeOf]

theorem totalSize_storedSummaries (data : List UInt8) :
    Summary.totalSize (storedSummaries data) =
      ∑ index ∈ Finset.range (entryCount data), sizeOf data index := by
  unfold storedSummaries
  induction entryCount data with
  | zero => rfl
  | succ count inductionHypothesis =>
      rw [List.range_succ, List.map_append, Summary.totalSize_append, inductionHypothesis,
        Finset.sum_range_succ, List.map_singleton, decode_entry]
      rfl

theorem readSignature_eq (data : List UInt8) :
    Header.readSignature data.toArray =
      (passAll (signatureChecks data)).map fun _ => Dimensions.signature := by
  by_cases long : 4 ≤ data.length
  · have present : ¬data.length < Dimensions.signatureSize := by
      simp only [Dimensions.signatureSize]
      omega
    have placed : Bytes.place data.toArray 0 Dimensions.signatureSize = .ok 0 :=
      Bytes.place_natCast (by decide) (by simpa [Dimensions.signatureSize] using long)
    have found : Bytes.window data.toArray 0 Dimensions.signatureSize = data.take 4 := by
      simp [Bytes.window_eq, Dimensions.signatureSize]
    by_cases signed : data.take 4 = Dimensions.signature
    · have alike : data.take 4 = [0x54, 0x51, 0x45, 0x1A] := signed
      simp [Header.readSignature, present, placed, found, signatureChecks, long, alike,
        Except.map, Dimensions.signature]
    · have unlike : ¬data.take 4 = [0x54, 0x51, 0x45, 0x1A] := signed
      simp [Header.readSignature, present, placed, found, signatureChecks, long, unlike,
        Except.map, Dimensions.signature]
  · have short : data.length < Dimensions.signatureSize := by
      simp only [Dimensions.signatureSize]
      omega
    simp [Header.readSignature, short, signatureChecks, long, Except.map]

theorem readUnit_eq (data : List UInt8) :
    Header.readUnit data.toArray = .ok (.ofWord .unit (quadAt data 52)) := by
  have bounded : quadAt data 52 < 4294967296 := quadAt_lt data 52
  rw [Header.readUnit, Bytes.number_four, TaggedIndex.ofRaw?_natCast .unit _ bounded]
  rfl

theorem readHeader_eq (data : List UInt8) :
    Header.read data.toArray =
      (passAll [(decide (76 ≤ data.length), .headerCut data.length)]).map
        fun _ => storedHeader data := by
  by_cases long : 76 ≤ data.length
  · have present : ¬data.length < Dimensions.structureSize := by
      simp only [Dimensions.structureSize, Dimensions.signatureSize, Dimensions.headerSize]
      omega
    have placed :
        Bytes.place data.toArray Dimensions.signatureSize Dimensions.headerSize = .ok 4 :=
      Bytes.place_natCast (by decide)
        (by simpa [Dimensions.signatureSize, Dimensions.headerSize] using long)
    simp [Header.read, present, placed, readUnit_eq, long, Except.map, storedHeader]
  · have short : data.length < Dimensions.structureSize := by
      simp only [Dimensions.structureSize, Dimensions.signatureSize, Dimensions.headerSize]
      omega
    simp [Header.read, short, long, Except.map]

/-- An entry whose bytes are there is read. -/
theorem readSummary_eq {data : List UInt8} (fits : contentsStop data ≤ data.length)
    {index : Nat} (listed : index < entryCount data) :
    Summary.read data.toArray (contentsStart data + index * Dimensions.summarySize) =
      .ok (.decode data.toArray (contentsStart data + 16 * index)) := by
  have start : contentsStart data < 4294967296 := quadAt_lt data 64
  have count : entryCount data < 4294967296 := quadAt_lt data 68
  have placed :
      Bytes.place data.toArray ((contentsStart data + 16 * index : Nat) : Int)
        Dimensions.summarySize = .ok (contentsStart data + 16 * index) := by
    apply Bytes.place_natCast
    · simp only [MachineWord.limit]
      omega
    · simp only [List.size_toArray, Dimensions.summarySize]
      unfold contentsStop at fits
      omega
  have scaled : index * Dimensions.summarySize = 16 * index := Nat.mul_comm _ _
  rw [Summary.read, scaled, placed]
  rfl

theorem readSummaries_eq (data : List UInt8) :
    (storedHeader data).readSummaries data.toArray =
      (passAll [(decide (contentsStop data ≤ data.length),
        .contentsOutside (contentsStart data) (contentsStop data) data.length)]).map
          fun _ => storedSummaries data := by
  by_cases fits : contentsStop data ≤ data.length
  · have present : ¬data.length < contentsStop data := by omega
    have entries := Fallible.mapM_eq_ok_map fun index (member : index ∈ List.range _) =>
      readSummary_eq fits (List.mem_range.mp member)
    simp [Header.readSummaries, present, fits, entries, storedSummaries, Except.map]
  · have absent : data.length < contentsStop data := by omega
    simp [Header.readSummaries, absent, fits, Except.map]

theorem checkTotal_eq (data : List UInt8) :
    (storedHeader data).checkTotal data.toArray (storedSummaries data) =
      passAll [(decide (declaredTotal data = data.length),
        .totalDisagrees (declaredTotal data) data.length)] := by
  have declared : (storedHeader data).declaredSize (storedSummaries data) =
      declaredTotal data := by
    simp [Header.declaredSize, Header.contentsSize, totalSize_storedSummaries, declaredTotal,
      Dimensions.structureSize, Dimensions.signatureSize, Dimensions.headerSize,
      Dimensions.summarySize, Nat.mul_comm]
  simp [Header.checkTotal, declared]

theorem checkPartitions_eq (data : List UInt8) :
    Header.checkPartitions data.toArray (storedSummaries data) =
      passAll ((List.range (entryCount data)).map (partitionCheck data)) := by
  unfold storedSummaries
  induction List.range (entryCount data) with
  | nil => rfl
  | cons index rest inductionHypothesis =>
      have stop : (Summary.decode data.toArray (contentsStart data + 16 * index)).stop =
          offsetOf data index + sizeOf data index := by
        rw [decode_entry]
        rfl
      rw [List.map_cons, List.map_cons, Header.checkPartitions, stop, inductionHypothesis,
        partitionCheck, passAll_cons]
      by_cases inside : offsetOf data index + sizeOf data index ≤ data.length
      · simp [inside, Nat.not_lt.mpr inside]
      · simp [inside, Nat.lt_of_not_le inside]

theorem checkRegions_eq (data : List UInt8) :
    (storedHeader data).checkRegions data.toArray (storedSummaries data) =
      passAll (regionChecks data) := by
  have stop : (storedHeader data).stringTableStop = tableStart data + tableSize data := by
    simp [Header.stringTableStop]
  rw [Header.checkRegions, stop, checkPartitions_eq, regionChecks, passAll_cons]
  by_cases inside : tableStart data + tableSize data ≤ data.length
  · simp [inside, Nat.not_lt.mpr inside]
  · simp [inside, Nat.lt_of_not_le inside]

/-- Everything but the names of the partitions is judged by the tests of signature and
sizes, and what these protect is the header and the entries that the bytes store. -/
theorem validate_eq (data : List UInt8) :
    Container.validate data.toArray =
      (passAll (signatureChecks data ++ sizeChecks data)).map
        fun _ => (storedHeader data, storedSummaries data) := by
  rw [Container.validate, readSignature_eq, passAll_append, Fallible.bind_map,
    Fallible.map_bind]
  congr 1
  funext
  rw [readHeader_eq, Fallible.map_bind, readSummaries_eq, Fallible.map_bind, checkTotal_eq,
    checkRegions_eq]
  unfold sizeChecks
  by_cases long : 76 ≤ data.length
  · by_cases contents : contentsStop data ≤ data.length
    · by_cases total : declaredTotal data = data.length
      · cases regions : passAll (regionChecks data) <;>
          simp [long, contents, total, regions, Except.map]
      · simp [long, contents, total, Except.map]
    · simp [long, contents, Except.map]
  · simp [long, Except.map]

/-- A text that starts inside the string table is the one that its bytes spell: the search
for its end starts inside the bytes. -/
theorem tableText_eq {data : List UInt8} (backing : Backing)
    (table : tableStart data + tableSize data ≤ data.length)
    {offset : Nat} (inside : offset < tableSize data) :
    Container.tableText (storedHeader data) (.of data backing) offset =
      .ok (Utf8.decode (textBytes data (tableStart data + offset))) := by
  have filled : ¬(tableSize data = 0 ∧ (offset : Int) = 0) := by omega
  have listed : (0 : Int) ≤ offset ∧ (offset : Int) < tableSize data := by omega
  have start : (tableStart data : Int) + offset = ((tableStart data + offset : Nat) : Int) := by
    push_cast
    rfl
  rw [Container.tableText, stringTableSize_storedHeader, stringTableStart_storedHeader,
    if_neg filled, if_pos listed, start, Blob.textAt_eq backing (by omega)]

/-- Names are judged one by one, whatever they are the names of. -/
theorem addEntries_map_unit {data : List UInt8} (backing : Backing)
    (table : tableStart data + tableSize data ≤ data.length)
    (contents : Contents) (events : List Event) (summaries : List Summary) :
    (Container.addEntries (storedHeader data) (.of data backing) contents events
        summaries).1.map (fun _ => ()) =
      passAll (summaries.map fun summary =>
        (decide (summary.name < tableSize data),
          .nameOutside (tableSize data) summary.name)) := by
  induction summaries generalizing contents events with
  | nil => rfl
  | cons summary rest inductionHypothesis =>
      rw [Container.addEntries, stringTableSize_storedHeader, List.map_cons, passAll_cons]
      by_cases inside : summary.name < tableSize data
      · rw [if_neg (Nat.not_le.mpr inside), tableText_eq backing table inside]
        simp only [inside, decide_true, if_true]
        split
        · exact inductionHypothesis _ _
        · exact inductionHypothesis _ _
      · simp [inside, Nat.not_lt.mp inside, Except.map]

/-- Opening carries out the tests in order and nothing else. -/
theorem load_map_unit (data : List UInt8) (backing : Backing) (environment : Option Nat) :
    (Container.load (.of data backing) environment).1.map (fun _ => ()) =
      passAll (checks data) := by
  have shape : ((Blob.of data backing).access >>= Container.validate) =
      (passAll (signatureChecks data ++ sizeChecks data)).map
        fun _ => (storedHeader data, storedSummaries data) :=
    validate_eq data
  rw [Container.load, shape, checks,
    passAll_append (signatureChecks data ++ sizeChecks data) (nameChecks data)]
  cases judged : passAll (signatureChecks data ++ sizeChecks data) with
  | error fault => rfl
  | ok _ =>
      have passed := passAll_eq_ok.mp judged
      have sized : Sized data := (sizeChecks_passed_iff data).mp fun check member =>
        passed check (List.mem_append_right _ member)
      have names := addEntries_map_unit backing sized.table [] [] (storedSummaries data)
      have same : ((storedSummaries data).map fun summary =>
          ((decide (summary.name < tableSize data),
            .nameOutside (tableSize data) summary.name) : Check)) = nameChecks data := by
        simp [storedSummaries, nameChecks, nameCheck, decode_entry, Function.comp_def]
      rw [same] at names
      rw [Fallible.ok_bind, ← names]
      simp only [Except.map]
      cases added : Container.addEntries (storedHeader data) (.of data backing) [] []
          (storedSummaries data) with
      | mk outcome events => cases outcome <;> rfl

/-- Every byte string is accepted or refused in exactly one of four ways. The outcome of
opening is that of the listed tests, taken in order, and its kind is decided by signature,
then sizes, then names. -/
theorem load_outcome (data : List UInt8) (backing : Backing) (environment : Option Nat) :
    (Container.load (.of data backing) environment).1.map (fun _ => ()) =
        passAll (checks data) ∧
      ((Container.load (.of data backing) environment).1.map (fun _ => ())).mapError
          Fault.kind =
        if ¬Signed data then .error (.reader .invalidSignature)
        else if ¬Sized data then .error (.reader .sizeMismatch)
        else if ¬Named data then .error (.reader .corruptFormat)
        else .ok () := by
  refine ⟨load_map_unit data backing environment, ?_⟩
  rw [load_map_unit, checks, passAll_append (_ ++ _), passAll_append, mapError_bind,
    mapError_bind, passAll_mapError_kind signatureChecks_kind,
    passAll_mapError_kind sizeChecks_kind, passAll_mapError_kind nameChecks_kind]
  simp only [signatureChecks_passed_iff, sizeChecks_passed_iff, nameChecks_passed_iff]
  by_cases signed : Signed data
  · by_cases sized : Sized data
    · by_cases named : Named data
      · simp [signed, sized, named]
      · simp [signed, sized, named]
    · simp [signed, sized]
  · simp [signed]

/-- What is opened is signed, and its sizes and names are in order. -/
theorem accepted_of_load {data : List UInt8} {backing : Backing} {environment : Option Nat}
    {opened : Container}
    (loaded : (Container.load (.of data backing) environment).1 = .ok opened) :
    Signed data ∧ Sized data ∧ Named data := by
  have passed := load_map_unit data backing environment
  rw [loaded] at passed
  have all := passAll_eq_ok.mp passed.symm
  rw [checks, List.forall_mem_append, List.forall_mem_append, signatureChecks_passed_iff,
    sizeChecks_passed_iff, nameChecks_passed_iff] at all
  exact ⟨all.1.1, all.1.2, all.2⟩

/-- What is signed, and whose sizes and names are in order, is opened. -/
theorem exists_load {data : List UInt8} (signed : Signed data) (sized : Sized data)
    (named : Named data) (backing : Backing) (environment : Option Nat) :
    ∃ opened, (Container.load (.of data backing) environment).1 = .ok opened := by
  have passed : passAll (checks data) = .ok () := by
    rw [passAll_eq_ok, checks, List.forall_mem_append, List.forall_mem_append,
      signatureChecks_passed_iff, sizeChecks_passed_iff, nameChecks_passed_iff]
    exact ⟨⟨signed, sized⟩, named⟩
  have loaded := load_map_unit data backing environment
  rw [passed] at loaded
  cases outcome : (Container.load (.of data backing) environment).1 with
  | error fault =>
      rw [outcome] at loaded
      contradiction
  | ok opened => exact ⟨opened, rfl⟩

end Acceptance
end ModuleInterface

import Mathlib
import ModuleInterface.Proofs.Container.Bounds

/-!
# Altered bytes are refused

The sizes that a container declares add up to the number of its bytes. Cutting bytes off
or adding some changes that number and leaves what is declared as it was; changing a byte
of a declared size changes what is declared and leaves the number of bytes. Either way
the two no longer agree, whichever test notices it first.
-/

namespace ModuleInterface
namespace Acceptance

/-! ## Which faults come first -/

/-- Tests that are passed do not matter to those that follow. -/
theorem passAll_append_of_passed {earlier : List Check}
    (passed : ∀ check ∈ earlier, check.1 = true) (later : List Check) :
    passAll (earlier ++ later) = passAll later := by
  rw [passAll_append, passAll_eq_ok.mpr passed, Fallible.ok_bind]

/-- Tests whose faults are of one kind end in that kind when one is not passed, whatever
follows. -/
theorem exists_fault_of_not_passed {checks : List Check} {kind : FaultKind}
    (uniform : ∀ check ∈ checks, check.2.kind = kind)
    (failed : ¬∀ check ∈ checks, check.1 = true) (later : List Check) :
    ∃ fault, passAll (checks ++ later) = .error fault ∧ fault.kind = kind := by
  have judged := passAll_mapError_kind uniform
  rw [if_neg failed] at judged
  rw [passAll_append]
  cases outcome : passAll checks with
  | ok _ =>
      rw [outcome] at judged
      contradiction
  | error fault =>
      rw [outcome] at judged
      exact ⟨fault, rfl, Except.error.inj judged⟩

variable {data : List UInt8} (backing : Backing) (environment : Option Nat)

/-- Opening ends in the fault that the tests end in. -/
theorem load_eq_error {fault : Fault} (failed : passAll (checks data) = .error fault) :
    (Container.load (.of data backing) environment).1 = .error fault := by
  rw [← load_map_unit data backing environment] at failed
  cases outcome : (Container.load (.of data backing) environment).1 with
  | ok opened =>
      rw [outcome] at failed
      contradiction
  | error other =>
      rw [outcome] at failed
      exact congrArg Except.error (Except.error.inj failed)

theorem load_of_not_signed (unsigned : ¬Signed data) :
    ∃ fault, (Container.load (.of data backing) environment).1 = .error fault ∧
      fault.kind = .reader .invalidSignature := by
  rw [← signatureChecks_passed_iff] at unsigned
  obtain ⟨fault, failed, kind⟩ := exists_fault_of_not_passed signatureChecks_kind unsigned
    (sizeChecks data ++ nameChecks data)
  rw [← List.append_assoc] at failed
  exact ⟨fault, load_eq_error backing environment failed, kind⟩

theorem load_of_not_sized (signed : Signed data) (missized : ¬Sized data) :
    ∃ fault, (Container.load (.of data backing) environment).1 = .error fault ∧
      fault.kind = .reader .sizeMismatch := by
  rw [← sizeChecks_passed_iff] at missized
  obtain ⟨fault, failed, kind⟩ := exists_fault_of_not_passed sizeChecks_kind missized
    (nameChecks data)
  rw [← passAll_append_of_passed ((signatureChecks_passed_iff data).mpr signed),
    ← List.append_assoc] at failed
  exact ⟨fault, load_eq_error backing environment failed, kind⟩

/-- Bytes that declare a header and entries that they hold, and another number of bytes
than they have, are refused with the two numbers. -/
theorem load_of_total_disagrees (signed : Signed data) (header : 76 ≤ data.length)
    (contents : contentsStop data ≤ data.length) (disagrees : declaredTotal data ≠ data.length) :
    (Container.load (.of data backing) environment).1 =
      .error (.totalDisagrees (declaredTotal data) data.length) := by
  refine load_eq_error backing environment ?_
  rw [checks, List.append_assoc,
    passAll_append_of_passed ((signatureChecks_passed_iff data).mpr signed)]
  simp [sizeChecks, header, contents, disagrees]

/-! ## What is declared -/

/-- Bytes that agree on the header and on the table of contents declare the same. -/
theorem declared_eq {altered : List UInt8}
    (header : ∀ place < 76, byteAt altered place = byteAt data place)
    (contents : ∀ place, contentsStart data ≤ place → place < contentsStop data →
      byteAt altered place = byteAt data place) :
    contentsStop altered = contentsStop data ∧ declaredTotal altered = declaredTotal data := by
  have field : ∀ place ≤ 72, quadAt altered place = quadAt data place :=
    fun place bound => quadAt_congr fun index small => header _ (by omega)
  have start : contentsStart altered = contentsStart data := field 64 (by omega)
  have count : entryCount altered = entryCount data := field 68 (by omega)
  have table : tableSize altered = tableSize data := field 48 (by omega)
  have sizes : ∀ index < entryCount data, sizeOf altered index = sizeOf data index := by
    intro index listed
    have entry : ∀ place ≤ 12, quadAt altered (contentsStart data + 16 * index + place) =
        quadAt data (contentsStart data + 16 * index + place) := by
      intro place bound
      refine quadAt_congr fun offset small => contents _ (by omega) ?_
      unfold contentsStop
      omega
    simp only [sizeOf, cardinalityOf, entrySizeOf, start, entry 8 (by omega),
      entry 12 (by omega)]
  refine ⟨by simp only [contentsStop, start, count], ?_⟩
  rw [declaredTotal, declaredTotal, table, count,
    Finset.sum_congr rfl fun index member => sizes index (Finset.mem_range.mp member)]

/-- Declaring more entries declares more bytes. -/
theorem total_strictMono (size : Nat → Nat) :
    StrictMono fun count => 16 * count + ∑ index ∈ Finset.range count, size index := by
  refine strictMono_nat_of_lt_succ fun count => ?_
  rw [Finset.sum_range_succ]
  omega

/-- Sizes of which one alone is another have another sum. -/
theorem sum_ne_of_one_ne {count changed : Nat} (listed : changed < count)
    {size other : Nat → Nat} (different : other changed ≠ size changed)
    (same : ∀ index < count, index ≠ changed → other index = size index) :
    ∑ index ∈ Finset.range count, other index ≠ ∑ index ∈ Finset.range count, size index := by
  have member : changed ∈ Finset.range count := Finset.mem_range.mpr listed
  have rest : ∑ index ∈ (Finset.range count).erase changed, other index =
      ∑ index ∈ (Finset.range count).erase changed, size index := by
    refine Finset.sum_congr rfl fun index inside => ?_
    rw [Finset.mem_erase, Finset.mem_range] at inside
    exact same index inside.2 inside.1
  rw [← Finset.add_sum_erase _ _ member, ← Finset.add_sum_erase _ _ member, rest]
  omega

/-- A place of the bytes where a size is declared that counts towards the declared number
of bytes: the number of elements of a partition does so unless the elements have no bytes,
and the size of the elements unless there are none. -/
inductive Declares (data : List UInt8) (place : Nat) : Prop
  | tableSize (lower : 48 ≤ place) (upper : place < 52)
  | entryCount (lower : 68 ≤ place) (upper : place < 72)
  | cardinality
      (index : Nat)
      (listed : index < entryCount data)
      (lower : contentsStart data + 16 * index + 8 ≤ place)
      (upper : place < contentsStart data + 16 * index + 12)
      (sized : entrySizeOf data index ≠ 0)
  | entrySize
      (index : Nat)
      (listed : index < entryCount data)
      (lower : contentsStart data + 16 * index + 12 ≤ place)
      (upper : place < contentsStart data + 16 * index + 16)
      (filled : cardinalityOf data index ≠ 0)

/-- A place where a size is declared is one of the bytes. -/
theorem Declares.inside (sized : Sized data) {place : Nat} (declares : Declares data place) :
    place < data.length := by
  have header := sized.header
  have contents := sized.contents
  unfold contentsStop at contents
  cases declares with
  | tableSize _ upper => omega
  | entryCount _ upper => omega
  | cardinality index listed _ upper _ => omega
  | entrySize index listed _ upper _ => omega

/-- A changed byte matters to no size that it is not declared by. -/
theorem sizeOf_set_of_apart {place index : Nat} {byte : UInt8}
    (start : contentsStart (data.set place byte) = contentsStart data)
    (apart : place < contentsStart data + 16 * index + 8 ∨
      contentsStart data + 16 * index + 16 ≤ place) :
    sizeOf (data.set place byte) index = sizeOf data index := by
  simp only [sizeOf, cardinalityOf, entrySizeOf, start]
  rw [quadAt_set_of_apart (by omega), quadAt_set_of_apart (by omega)]

/-- When a byte of an entry is changed and the size of its partition with it, the declared
number of bytes changes. -/
theorem declaredTotal_set_ne_of_sizeOf_ne (apart : 76 ≤ contentsStart data)
    {place index : Nat} {byte : UInt8} (listed : index < entryCount data)
    (lower : contentsStart data + 16 * index ≤ place)
    (upper : place < contentsStart data + 16 * index + 16)
    (start : contentsStart (data.set place byte) = contentsStart data)
    (different : sizeOf (data.set place byte) index ≠ sizeOf data index) :
    declaredTotal (data.set place byte) ≠ declaredTotal data := by
  have table : tableSize (data.set place byte) = tableSize data :=
    quadAt_set_of_apart (by omega) byte
  have count : entryCount (data.set place byte) = entryCount data :=
    quadAt_set_of_apart (by omega) byte
  have sums := sum_ne_of_one_ne listed different fun other _ apart =>
    sizeOf_set_of_apart start (by omega)
  simp only [declaredTotal, table, count]
  omega

/-- Another byte where a size is declared declares another number of bytes, provided that
the table of contents does not overlap the header. -/
theorem declaredTotal_set_ne (sized : Sized data) (apart : 76 ≤ contentsStart data)
    {place : Nat} (declares : Declares data place) {byte : UInt8}
    (different : data[place]? ≠ some byte) :
    declaredTotal (data.set place byte) ≠ declaredTotal data := by
  have inside : place < data.length := declares.inside sized
  have start : contentsStart (data.set place byte) = contentsStart data := by
    apply quadAt_set_of_apart
    cases declares <;> omega
  cases declares with
  | tableSize lower upper =>
      have changed : tableSize (data.set place byte) ≠ tableSize data :=
        quadAt_set_ne lower upper inside different
      have count : entryCount (data.set place byte) = entryCount data :=
        quadAt_set_of_apart (by omega) byte
      have sizes : sizeOf (data.set place byte) = sizeOf data := by
        funext index
        exact sizeOf_set_of_apart start (by omega)
      simp only [declaredTotal, count, sizes]
      omega
  | entryCount lower upper =>
      have changed : entryCount (data.set place byte) ≠ entryCount data :=
        quadAt_set_ne lower upper inside different
      have table : tableSize (data.set place byte) = tableSize data :=
        quadAt_set_of_apart (by omega) byte
      have sizes : sizeOf (data.set place byte) = sizeOf data := by
        funext index
        exact sizeOf_set_of_apart start (by omega)
      -- What was not an entry before has a size too, which can only add to the sum.
      have grows := (total_strictMono (sizeOf data)).injective.ne changed
      simp only [declaredTotal, table, sizes]
      omega
  | cardinality index listed lower upper sized =>
      have changed : cardinalityOf (data.set place byte) index ≠ cardinalityOf data index := by
        unfold cardinalityOf
        rw [start]
        exact quadAt_set_ne lower (by omega) inside different
      have kept : entrySizeOf (data.set place byte) index = entrySizeOf data index := by
        unfold entrySizeOf
        rw [start]
        exact quadAt_set_of_apart (by omega) byte
      refine declaredTotal_set_ne_of_sizeOf_ne apart listed (by omega) (by omega) start ?_
      rw [sizeOf, sizeOf, kept]
      exact (mul_left_injective₀ sized).ne changed
  | entrySize index listed lower upper filled =>
      have changed : entrySizeOf (data.set place byte) index ≠ entrySizeOf data index := by
        unfold entrySizeOf
        rw [start]
        exact quadAt_set_ne lower (by omega) inside different
      have kept : cardinalityOf (data.set place byte) index = cardinalityOf data index := by
        unfold cardinalityOf
        rw [start]
        exact quadAt_set_of_apart (by omega) byte
      refine declaredTotal_set_ne_of_sizeOf_ne apart listed (by omega) (by omega) start ?_
      rw [sizeOf, sizeOf, kept]
      exact (mul_right_injective₀ filled).ne changed

/-! ## What opening says of altered bytes -/

/-- The signature of the bytes that are left is there when the four bytes are. -/
theorem signed_of_isPrefix {cut : List UInt8} (signed : Signed data) (kept : cut <+: data)
    (long : 4 ≤ cut.length) : Signed cut := by
  refine ⟨long, ?_⟩
  rw [List.prefix_iff_eq_take.mp kept, List.take_take, Nat.min_eq_left long]
  exact signed.2

theorem byteAt_of_isPrefix {cut : List UInt8} (kept : cut <+: data) {place : Nat}
    (inside : place < cut.length) : byteAt data place = byteAt cut place := by
  obtain ⟨rest, rfl⟩ := kept
  exact byteAt_append inside

/-- The sizes that some bytes declare are not those of their beginning. -/
theorem not_sized_of_isPrefix {cut : List UInt8} (sized : Sized data) (kept : cut <+: data)
    (shorter : cut.length < data.length) : ¬Sized cut := by
  intro cutSized
  have header := cutSized.header
  have contents := cutSized.contents
  have declared : declaredTotal data = declaredTotal cut :=
    (declared_eq (fun place bound => byteAt_of_isPrefix kept (by omega))
      fun place _ bound => byteAt_of_isPrefix kept (by omega)).2
  have total := sized.total
  rw [declared, cutSized.total] at total
  omega

/-- Bytes that are opened are refused when bytes are cut off or added, or when a byte is
changed where a size is declared: the sizes that are declared and the number of bytes no
longer agree. -/
theorem load_altered
    {environment : Option Nat}
    {backing : Backing}
    {opened : Container}
    (loaded : (Container.load (.of data backing) environment).1 = .ok opened)
    (otherBacking : Backing)
    (otherEnvironment : Option Nat) :
    (∀ cut, cut <+: data → cut ≠ data →
      ∃ fault, (Container.load (.of cut otherBacking) otherEnvironment).1 = .error fault ∧
        fault.kind = if cut.length < 4 then .reader .invalidSignature
          else .reader .sizeMismatch) ∧
    (∀ added, added ≠ [] →
      ∃ fault report,
        (Container.load (.of (data ++ added) otherBacking) otherEnvironment).1 =
          .error fault ∧
        fault.kind = .reader .sizeMismatch ∧
        fault.report? = some report ∧ report.family = .sizeMismatch ∧
        ∃ expected : Nat, report.expected = .integer expected ∧
          report.got = .integer (expected + added.length : Nat)) ∧
    (76 ≤ contentsStart data → ∀ place, Declares data place →
      ∀ byte, data[place]? ≠ some byte →
        ∃ fault,
          (Container.load (.of (data.set place byte) otherBacking) otherEnvironment).1 =
            .error fault ∧
          fault.kind = .reader .sizeMismatch) := by
  obtain ⟨signed, sized, _⟩ := accepted_of_load loaded
  refine ⟨?cutOff, ?extended, ?changed⟩
  case cutOff =>
    intro cut kept different
    have shorter : cut.length < data.length :=
      lt_of_le_of_ne kept.length_le fun same => different (kept.eq_of_length same)
    by_cases short : cut.length < 4
    · rw [if_pos short]
      exact load_of_not_signed otherBacking otherEnvironment fun cutSigned =>
        Nat.not_le.mpr short cutSigned.1
    · rw [if_neg short]
      exact load_of_not_sized otherBacking otherEnvironment
        (signed_of_isPrefix signed kept (Nat.not_lt.mp short))
        (not_sized_of_isPrefix sized kept shorter)
  case extended =>
    intro added filled
    have more : 0 < added.length := List.length_pos_iff.mpr filled
    have header := sized.header
    have contents := sized.contents
    have same : ∀ place < data.length, byteAt (data ++ added) place = byteAt data place :=
      fun place bound => byteAt_append bound
    obtain ⟨stop, declared⟩ := declared_eq (fun place bound => same place (by omega))
      fun place _ bound => same place (by omega)
    have extendedSigned : Signed (data ++ added) := by
      refine ⟨by rw [List.length_append]; omega, ?_⟩
      rw [List.take_append_of_le_length signed.1]
      exact signed.2
    have refused := load_of_total_disagrees otherBacking otherEnvironment extendedSigned
      (by rw [List.length_append]; omega) (by rw [stop, List.length_append]; omega)
      (by rw [declared, sized.total, List.length_append]; omega)
    rw [declared, sized.total, List.length_append] at refused
    exact ⟨_, _, refused, rfl, rfl, rfl, data.length, rfl, rfl⟩
  case changed =>
    intro apart place declares byte different
    have start : 4 ≤ place := by cases declares <;> omega
    have changedSigned : Signed (data.set place byte) := by
      refine ⟨by rw [List.length_set]; exact signed.1, ?_⟩
      rw [List.take_set_of_le start]
      exact signed.2
    refine load_of_not_sized otherBacking otherEnvironment changedSigned fun changedSized => ?_
    have total := changedSized.total
    rw [List.length_set, ← sized.total] at total
    exact declaredTotal_set_ne sized apart declares different total

/-- The container of one byte is refused without its last byte, with one more, and with
another cardinality. -/
theorem load_altered_oneByte :
    (Container.load (.of Container.oneByteData .bytes) none).1 = .ok Container.oneByte ∧
      76 ≤ contentsStart Container.oneByteData ∧
      Declares Container.oneByteData 88 ∧
      (∃ fault, (Container.load (.of Container.oneByteData.dropLast .bytes) none).1 =
        .error fault ∧ fault.kind = .reader .sizeMismatch) ∧
      (∃ fault, (Container.load (.of (Container.oneByteData ++ [0]) .bytes) none).1 =
        .error fault ∧ fault.kind = .reader .sizeMismatch) ∧
      (∃ fault, (Container.load (.of (Container.oneByteData.set 88 2) .bytes) none).1 =
        .error fault ∧ fault.kind = .reader .sizeMismatch) := by
  have loaded : (Container.load (.of Container.oneByteData .bytes) none).1 =
      .ok Container.oneByte := rfl
  have apart : 76 ≤ contentsStart Container.oneByteData := by decide
  have declares : Declares Container.oneByteData 88 :=
    .cardinality 0 (by decide) (by decide) (by decide) (by decide)
  obtain ⟨cutOff, extended, changed⟩ := load_altered loaded .bytes none
  obtain ⟨fault, _, refused, kind, _⟩ := extended [0] (by decide)
  exact ⟨loaded, apart, declares, cutOff _ (List.dropLast_prefix _) (by decide),
    ⟨fault, refused, kind⟩, changed apart 88 declares 2 (by decide)⟩

end Acceptance
end ModuleInterface

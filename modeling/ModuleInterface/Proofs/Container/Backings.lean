import Mathlib
import ModuleInterface.Proofs.Bytes.Search
import ModuleInterface.Proofs.Container.Contents
import ModuleInterface.Proofs.Container.Reading
import ModuleInterface.Proofs.Fault

/-!
# Owners of the same bytes

A container can be opened over bytes of any owner. The owner decides only how the end of a
text is searched, and every search from an integer ends at the same place (`SearchEnds`). So
opening the same bytes of another owner comes to the same end (`Container.load_backing`):
the same error, or the same header, table of contents and texts.
-/

namespace ModuleInterface

/-! ## Searches -/

/-- A start outside the bytes is reported as out of range, unless it has too many digits to
be shown. -/
theorem Value.kind_shown_startFault
    {start : Value}
    {place : Int}
    (stands : start.integer? = some place)
    (length : Nat) :
    (start.startFault place length).shown.kind =
      if Numeral.isPrintable place then .outOfRange else .badValue := by
  cases start with
  | boolean flag =>
      have printable : Numeral.isPrintable place := by
        cases flag <;> cases stands <;> exact Numeral.isPrintable_of_lt_ten_pow (by decide)
      rw [if_pos printable]
      rfl
  | plain index =>
      rw [startFault]
      split
      next => rfl
      next unprintable =>
        rw [Fault.kind_shown_of_number rfl rfl, if_neg unprintable]
  | _ => exact Fault.kind_shown_of_number rfl rfl

/-- No floating-point number stands for an integer. -/
theorem Value.integer?_of_float64?
    {value : Value}
    {bits : UInt64}
    (stands : value.float64? = some bits) :
    value.integer? = none := by
  cases value with
  | float64 => rfl
  | nan => rfl
  | _ => contradiction

/-- How a search for a zero byte ends, by what is given for its start. -/
structure SearchEnds (data : List UInt8) (backing : Backing) (start : Value)
    (outcome : Except Fault Nat) : Prop where
  /-- An integer outside the bytes is refused, as out of range if it can be shown. -/
  outside : ∀ place : Int, start.integer? = some place →
    ¬(0 ≤ place ∧ place ≤ data.length) →
      FailsAs outcome (if Numeral.isPrintable place then .outOfRange else .badValue)
  /-- From an integer inside the bytes the first zero byte is found, or their end. -/
  inside : ∀ place : Int, start.integer? = some place → 0 ≤ place ∧ place ≤ data.length →
    ∃ stop, outcome = .ok stop ∧ EndsAt data place.toNat stop
  /-- A floating-point number outside the bytes is out of range. -/
  float64Outside : ∀ bits, start.float64? = some bits →
    Binary64.isOutside bits data.length → FailsAs outcome .outOfRange
  /-- No byte is looked at from any other floating-point number on: it is refused, unless
  the bytes are scanned and there is no byte left to look at. -/
  float64Inside : ∀ bits, start.float64? = some bits →
    ¬Binary64.isOutside bits data.length →
      if backing.searches ∨ Binary64.isBelow bits data.length then FailsAs outcome .wrongType
      else outcome = .ok data.length
  /-- What is no number is refused. -/
  other : start.integer? = none → start.float64? = none → FailsAs outcome .wrongType

/-- What is given for the start decides how a search ends, and the owner of the bytes only
whether a floating-point number is refused. -/
theorem searchEnds_findNul
    (data : List UInt8)
    (backing : Backing)
    (start : Value) :
    SearchEnds data backing start ((Blob.of data backing).findNul start) := by
  constructor
  case outside =>
    intro place stands outside
    exact ⟨_, Blob.findNul_of_outside backing stands outside,
      Value.kind_shown_startFault stands _⟩
  case inside =>
    rintro place stands ⟨nonnegative, bounded⟩
    obtain ⟨place, rfl⟩ := Int.eq_ofNat_of_zero_le nonnegative
    have inside : place ≤ data.length := by omega
    exact ⟨_, Blob.findNul_eq backing stands inside,
      Bytes.endsAt_firstNul data.toArray inside⟩
  case float64Outside =>
    intro bits stands outside
    rw [Blob.findNul_of_float64? backing (Value.integer?_of_float64? stands) stands,
      Blob.searchFromFloat]
    exact ⟨_, if_pos outside, rfl⟩
  case float64Inside =>
    intro bits stands inside
    rw [Blob.findNul_of_float64? backing (Value.integer?_of_float64? stands) stands,
      Blob.searchFromFloat]
    have compared : ¬Binary64.isOutside bits data.toArray.size := inside
    rw [if_neg compared]
    split
    next refused => exact ⟨_, if_pos refused, rfl⟩
    next ended => exact if_neg ended
  case other =>
    intro noInteger noFloat
    exact ⟨_, Blob.findNul_of_no_number backing noInteger noFloat, rfl⟩

/-- From an integer a search ends in the same way, whatever owns the bytes. -/
theorem Blob.findNul_backing
    {start : Value}
    {place : Int}
    (stands : start.integer? = some place)
    (data : List UInt8)
    (backing other : Backing) :
    (Blob.of data other).findNul start = (Blob.of data backing).findNul start := by
  by_cases inside : 0 ≤ place ∧ place ≤ data.length
  · obtain ⟨place, rfl⟩ := Int.eq_ofNat_of_zero_le inside.1
    have within : place ≤ data.length := by omega
    rw [findNul_eq other stands within, findNul_eq backing stands within]
  · rw [findNul_of_outside other stands inside, findNul_of_outside backing stands inside]

/-! ## Containers -/

namespace Container

/-- The same text is at an offset of the string table, whatever owns the bytes. -/
theorem tableText_backing
    (header : Header)
    (data : List UInt8)
    (backing other : Backing)
    (offset : Int) :
    tableText header (.of data backing) offset = tableText header (.of data other) offset := by
  unfold tableText
  rw [Blob.textAt_backing data backing other]

/-- Entries are added under the same names, whatever owns the bytes. -/
theorem addEntries_backing
    (header : Header)
    (data : List UInt8)
    (backing other : Backing)
    (contents : Contents)
    (events : List Event)
    (summaries : List Summary) :
    addEntries header (.of data backing) contents events summaries =
      addEntries header (.of data other) contents events summaries := by
  induction summaries generalizing contents events with
  | nil => rfl
  | cons summary rest inductionHypothesis =>
      rw [addEntries, addEntries, tableText_backing header data backing other]
      simp only [inductionHypothesis]

/-- Opening the bytes of another owner comes to the same end and makes the same reports; a
container that is opened differs in the owner alone. -/
theorem load_backing
    (data : List UInt8)
    (backing other : Backing)
    (environment : Option Nat) :
    load (.of data other) environment =
      ((load (.of data backing) environment).1.map fun opened =>
          { opened with blob := .of data other },
        (load (.of data backing) environment).2) := by
  have judged : ((Blob.of data other).access >>= validate) =
      ((Blob.of data backing).access >>= validate) := rfl
  rw [load, load, judged]
  cases (Blob.of data backing).access >>= validate with
  | error fault => rfl
  | ok found =>
      obtain ⟨header, summaries⟩ := found
      simp only [addEntries_backing header data other backing]
      cases addEntries header (.of data backing) [] [] summaries with
      | mk outcome events => cases outcome <;> rfl

/-- Two opened containers have the same header and table of contents, and answer with the
same texts. -/
structure ReadsAlike (left right : Container) : Prop where
  header : left.header = right.header
  contents : left.contents = right.contents
  texts : SharesTexts left right

/-- A container over the bytes of another owner is read alike. -/
theorem readsAlike_withBacking
    {opened : Container}
    {data : List UInt8}
    {backing : Backing}
    (blob : opened.blob = .of data backing)
    (other : Backing) :
    ReadsAlike { opened with blob := .of data other } opened := by
  constructor
  case header => rfl
  case contents => rfl
  case texts =>
    apply sharesTexts_of_strings
    intro offset
    rw [Query.outcome_stringAt, Query.outcome_stringAt, blob]
    exact tableText_backing opened.header data other backing offset

/-- Every search for a zero byte ends as `SearchEnds` says, and from an integer in the same
way whatever owns the bytes; both ways to search agree. A container that is opened over the
bytes is read alike whatever owns them, and where one is refused, so is the other. -/
theorem backing_immaterial
    (data : List UInt8)
    (backing : Backing) :
    (∀ start, SearchEnds data backing start ((Blob.of data backing).findNul start)) ∧
    (∀ start ≤ data.length,
      Bytes.firstNul data.toArray start = Bytes.firstNulByChunks data.toArray start) ∧
    ∀ other,
      (∀ start place, Value.integer? start = some place →
        (Blob.of data other).findNul start = (Blob.of data backing).findNul start) ∧
      ∀ environment,
        (∀ fault, (load (.of data backing) environment).1 = .error fault →
          (load (.of data other) environment).1 = .error fault) ∧
        ∀ opened, (load (.of data backing) environment).1 = .ok opened →
          ∃ reopened, (load (.of data other) environment).1 = .ok reopened ∧
            ReadsAlike reopened opened := by
  refine ⟨searchEnds_findNul data backing, ?_, fun other => ⟨?_, fun environment => ⟨?_, ?_⟩⟩⟩
  · intro start inside
    have bounded : start ≤ data.toArray.size := by simpa using inside
    exact (Blob.search_eq (Blob.of data .view) bounded).symm
  · intro start place stands
    exact Blob.findNul_backing stands data backing other
  · intro fault refused
    rw [load_backing data backing other, refused]
    rfl
  · intro opened loaded
    refine ⟨{ opened with blob := .of data other }, ?_, ?_⟩
    · rw [load_backing data backing other, loaded]
      rfl
    · exact readsAlike_withBacking (stores_of_load loaded).blob other

/-- The floating-point number 1.0 is the end of one byte: bytes that are searched refuse it
as a start, and a scan ends there. An integer with too many digits to be shown is outside the
bytes, and is refused with another kind of fault than that. -/
theorem findNul_by_start :
    (Binary64.equalsInt 0x3FF0000000000000 [0].length ∧
      FailsAs ((Blob.of [0] .bytes).findNul (.float64 0x3FF0000000000000)) .wrongType ∧
      (Blob.of [0] .view).findNul (.float64 0x3FF0000000000000) = .ok 1) ∧
    ¬((10 : Int) ^ Numeral.digitLimit ≤ [0].length) ∧
      FailsAs ((Blob.of [0] .bytes).findNul (.integer (10 ^ Numeral.digitLimit))) .badValue ∧
      ¬FailsAs ((Blob.of [0] .bytes).findNul (.integer (10 ^ Numeral.digitLimit)))
        .outOfRange := by
  refine ⟨⟨by decide +kernel, ⟨.notBound, by decide +kernel, rfl⟩, by decide +kernel⟩, ?_⟩
  have outside : ¬((10 : Int) ^ Numeral.digitLimit ≤ [0].length) := by
    have large : (10 : Int) ^ 1 ≤ 10 ^ Numeral.digitLimit :=
      pow_le_pow_right₀ (by decide) (by decide)
    simp only [List.length_singleton]
    omega
  have fails := (searchEnds_findNul [0] .bytes (.integer (10 ^ Numeral.digitLimit))).outside
    _ rfl fun inside => outside inside.2
  rw [Numeral.isPrintable_limit, if_neg Bool.false_ne_true] at fails
  refine ⟨outside, fails, ?_⟩
  rw [fails.iff_eq]
  decide

end Container
end ModuleInterface

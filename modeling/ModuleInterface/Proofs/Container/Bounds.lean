import Mathlib
import ModuleInterface.Container.Locate
import ModuleInterface.Proofs.Codec.Total
import ModuleInterface.Proofs.Container.Contents

/-!
# Views stay inside their partitions

Elements are read at computed offsets without a check of their own. What keeps the reads
inside the bytes is `View.Inside`: the bytes of a view are among those of the entry that
it was found by. Opening establishes it for every entry whose element size agrees with
the specification, and slicing preserves it.
-/

namespace ModuleInterface

open Acceptance

namespace Container

/-- The partition of a stored entry lies inside the bytes. -/
theorem stop_le_of_mem_storedSummaries
    {data : List UInt8}
    (sized : Sized data)
    {summary : Summary}
    (stored : summary ∈ storedSummaries data) :
    summary.stop ≤ data.length := by
  obtain ⟨index, bound, rfl⟩ := List.mem_map.mp stored
  rw [decode_entry]
  exact sized.partitions index (List.mem_range.mp bound)

end Container

namespace View

/-- The bytes of a view are among those of an entry of the table of contents. -/
structure Inside (view : View) (summary : Summary) : Prop where
  lower : summary.offset ≤ view.base
  upper : view.base + view.size ≤ summary.stop

/-- The views that slicing leads to, any number of times. -/
inductive Reaches (start : View) : View → Prop
  /-- Every view is reached without slicing. -/
  | refl : Reaches start start
  /-- What is sliced from a view that is reached is reached. -/
  | slice
      {view sliced : View}
      {range : Value}
      (reached : Reaches start view)
      (cut : view.sliceOf range = .ok sliced) :
      Reaches start sliced

/-- Slicing keeps the specification and stays inside. -/
theorem Inside.slice
    {view sliced : View}
    {summary : Summary}
    (inside : view.Inside summary)
    {range : Sequence}
    (cut : view.slice range = .ok sliced) :
    sliced.spec = view.spec ∧ sliced.Inside summary := by
  unfold View.slice at cut
  simp only at cut
  split at cut
  · contradiction
  next accepted =>
    cases cut
    obtain ⟨lower, upper⟩ := inside
    have fits : range.start.toNat + range.cardinality.toNat ≤ view.count := by omega
    have bytes := Nat.mul_le_mul_right view.spec.entrySize fits
    rw [Nat.add_mul] at bytes
    refine ⟨rfl, ?_, ?_⟩
    · simp only [offsetOf]
      omega
    · simp only [offsetOf, size] at upper ⊢
      omega

theorem Inside.sliceOf
    {view sliced : View}
    {summary : Summary}
    (inside : view.Inside summary)
    {range : Value}
    (cut : view.sliceOf range = .ok sliced) :
    sliced.spec = view.spec ∧ sliced.Inside summary := by
  obtain ⟨start, _, rest⟩ := Fallible.bind_eq_ok.mp cut
  obtain ⟨cardinality, _, final⟩ := Fallible.bind_eq_ok.mp rest
  exact inside.slice final

theorem Inside.reaches
    {start view : View}
    {summary : Summary}
    (inside : start.Inside summary)
    (reached : start.Reaches view) :
    view.spec = start.spec ∧ view.Inside summary := by
  induction reached with
  | refl => exact ⟨rfl, inside⟩
  | slice _ cut inductionHypothesis =>
      obtain ⟨spec, stays⟩ := inductionHypothesis.2.sliceOf cut
      exact ⟨spec.trans inductionHypothesis.1, stays⟩

/-- The bytes of an element of a view are among those of the entry. -/
theorem Inside.offsetOf
    {view : View}
    {summary : Summary}
    (inside : view.Inside summary)
    {position : Nat}
    (bound : position < view.count) :
    summary.offset ≤ view.offsetOf position ∧
      view.offsetOf position + view.spec.entrySize ≤ summary.stop := by
  obtain ⟨lower, upper⟩ := inside
  have bytes := Nat.mul_le_mul_right view.spec.entrySize (Nat.succ_le_of_lt bound)
  rw [Nat.succ_mul] at bytes
  simp only [size] at upper
  simp only [View.offsetOf]
  omega

/-- An element of a view is read from its own bytes and no others. -/
theorem Inside.read
    {view : View}
    {summary : Summary}
    (inside : view.Inside summary)
    {data : List UInt8}
    (fits : summary.stop ≤ data.length)
    (backing : Backing)
    {position : Nat}
    (bound : position < view.count) :
    view.read (.of data backing) position =
      view.spec.element.read
        ((data.drop (view.offsetOf position)).take view.spec.entrySize) := by
  have within := (inside.offsetOf bound).2
  have present : view.offsetOf position + view.spec.element.size ≤ data.toArray.size := by
    simp only [List.size_toArray]
    simp only [PartitionSpec.entrySize] at within
    omega
  change view.spec.element.readAt data.toArray (view.offsetOf position) = _
  rw [Element.readAt, if_pos present, Bytes.window_eq]
  rfl

theorem get_natCast
    (view : View)
    (blob : Blob)
    {position : Nat}
    (bound : position < view.count) :
    view.get blob (.integer position) = view.read blob position := by
  have located : (0 : Int) ≤ position ∧ (position : Int) < view.count := by omega
  simp [get, View.position, located]

theorem readFrom_eq
    (view : View)
    (blob : Blob)
    (remaining position : Nat) :
    view.readFrom blob remaining position =
      (List.range' position remaining).mapM (view.read blob) := by
  induction remaining generalizing position with
  | zero => rfl
  | succ remaining inductionHypothesis =>
      rw [readFrom, List.range'_succ, List.mapM_cons]
      simp only [inductionHypothesis]

/-- Listing a view gets its elements one after another. -/
theorem list_eq
    (view : View)
    (blob : Blob) :
    view.list blob =
      (List.range view.count).mapM fun position : Nat => view.get blob (.integer position) := by
  rw [list, readFrom_eq, ← List.range_eq_range']
  refine Fallible.mapM_congr fun position member => ?_
  rw [get_natCast view blob (List.mem_range.mp member)]

/-- The elements of a view are what their own bytes hold, which are bytes of the partition
that an entry describes. -/
structure Faithful (view : View) (data : List UInt8) (backing : Backing)
    (summary : Summary) : Prop where
  /-- Each element lies in the partition. -/
  within : ∀ position < view.count,
    summary.offset ≤ view.base + position * view.spec.element.size ∧
      view.base + position * view.spec.element.size + view.spec.element.size ≤ summary.stop
  /-- Each element is read from its own bytes. -/
  own : ∀ position < view.count,
    view.get (.of data backing) (.integer position) =
      view.spec.element.read
        ((data.drop (view.base + position * view.spec.element.size)).take
          view.spec.element.size)
  /-- All elements are those at the positions, one after another. -/
  listed : view.list (.of data backing) =
    (List.range view.count).mapM fun position : Nat =>
      view.get (.of data backing) (.integer position)
  /-- An element that is not read is refused for what its bytes are. -/
  refused : ∀ position < view.count, ∀ fault,
    view.get (.of data backing) (.integer position) = .error fault →
      fault.isRefusal ∧ ¬view.spec.element.isTotal
  /-- Total elements are all read. -/
  total : view.spec.element.isTotal →
    ∃ element : Nat → Value,
      view.list (.of data backing) = .ok ((List.range view.count).map element) ∧
        ∀ position < view.count,
          view.get (.of data backing) (.integer position) = .ok (element position)

/-- What is inside the bytes is read faithfully. -/
theorem Inside.faithful
    {view : View}
    {summary : Summary}
    (inside : view.Inside summary)
    {data : List UInt8}
    (fits : summary.stop ≤ data.length)
    (backing : Backing) :
    view.Faithful data backing summary := by
  have own : ∀ position < view.count,
      view.get (.of data backing) (.integer position) =
        view.spec.element.read
          ((data.drop (view.base + position * view.spec.element.size)).take
            view.spec.element.size) := by
    intro position bound
    rw [get_natCast view _ bound]
    exact inside.read fits backing bound
  refine ⟨fun position bound => inside.offsetOf bound, own, list_eq view _, ?_, ?_⟩
  · intro position bound fault failed
    rw [own position bound] at failed
    refine ⟨Element.isRefusal_of_read failed, fun total => ?_⟩
    rw [Element.read_of_isTotal total] at failed
    contradiction
  · intro total
    refine ⟨fun position => view.spec.element.decode
      ((data.drop (view.base + position * view.spec.element.size)).take
        view.spec.element.size), ?_, ?_⟩
    · rw [list_eq]
      refine Fallible.mapM_eq_ok_map fun position member => ?_
      rw [own position (List.mem_range.mp member), Element.read_of_isTotal total]
    · intro position bound
      rw [own position bound, Element.read_of_isTotal total]

end View

namespace Container

theorem findPartition_eq_none_iff
    (container : Container)
    (spec : PartitionSpec)
    (name : String) :
    container.findPartition spec name = .ok none ↔ container.summary? name = none := by
  unfold findPartition viewOf
  cases container.summary? name with
  | none => simp
  | some summary => by_cases agree : summary.entrySize = spec.entrySize <;> simp [agree]

/-- An entry is found as a view when the sizes of the elements agree, and refused as
disagreeing otherwise. -/
theorem findPartition_of_summary?
    {container : Container}
    (spec : PartitionSpec)
    {name : String}
    {summary : Summary}
    (found : container.summary? name = some summary) :
    container.findPartition spec name =
      if summary.entrySize = spec.element.size then
        .ok (some ⟨spec, name, summary.offset, summary.cardinality⟩)
      else
        .error (.elementSizeDisagrees name spec.element.label spec.element.size
          summary.entrySize) := by
  rw [findPartition, found]
  by_cases agree : summary.entrySize = spec.element.size
  · simp [viewOf, PartitionSpec.entrySize, agree]
  · simp [viewOf, PartitionSpec.entrySize, agree]

/-- The view that an entry of an opened container describes lies inside the partition, and
the partition inside the bytes. -/
theorem inside_of_summary?
    {opened container : Container}
    {data : List UInt8}
    {backing : Backing}
    (stores : opened.Stores data backing)
    (shared : container.SharesTables opened)
    {spec : PartitionSpec}
    {name : String}
    {summary : Summary}
    (found : container.summary? name = some summary)
    (agree : summary.entrySize = spec.element.size) :
    summary.stop ≤ data.length ∧
      View.Inside ⟨spec, name, summary.offset, summary.cardinality⟩ summary := by
  rw [summary?, shared.contents, ← summary?, stores.summary?_eq] at found
  have stored : summary ∈ storedSummaries data := List.mem_of_find?_eq_some found
  refine ⟨stop_le_of_mem_storedSummaries stores.sized stored, Nat.le_refl _, ?_⟩
  simp only [View.size, PartitionSpec.entrySize, Summary.stop, Summary.size, agree]
  exact Nat.le_refl _

/-- Partitions are found exactly by their names and element sizes, and every view that
slicing leads to is faithful. The elements of the catalogue are total, so that all of
their positions are read. -/
theorem findPartition_faithful
    {data : List UInt8}
    {backing : Backing}
    {environment : Option Nat}
    {opened container : Container}
    (loaded : (load (.of data backing) environment).1 = .ok opened)
    (shared : container.SharesTables opened)
    (spec : PartitionSpec)
    (name : String) :
    container.blob = .of data backing ∧
    container.summary? name =
      (storedSummaries data).find? (bears (storedHeader data) (.of data backing) name) ∧
    (container.findPartition spec name = .ok none ↔ name ∉ container.contents.keys) ∧
    ((∃ fault, container.findPartition spec name = .error fault ∧
        fault.kind = .reader .schemaMismatch) ↔
      ∃ summary, container.summary? name = some summary ∧
        summary.entrySize ≠ spec.element.size) ∧
    (∀ summary, container.summary? name = some summary →
      summary.entrySize = spec.element.size →
        summary.stop ≤ data.length ∧
        ∃ view, container.findPartition spec name = .ok (some view) ∧
          view.spec = spec ∧ view.count = summary.cardinality ∧
          ∀ reached, view.Reaches reached →
            reached.spec = spec ∧ reached.Faithful data backing summary) ∧
    (spec ∈ Catalogue.specs → spec.element.isTotal) := by
  have stores := stores_of_load loaded
  have blob : container.blob = .of data backing := shared.blob.trans stores.blob
  have entries := stores.summary?_eq name
  rw [summary?, ← shared.contents, ← summary?] at entries
  refine ⟨blob, entries, ?_, ?_, ?_, Catalogue.isTotal_of_mem_specs spec⟩
  · rw [findPartition_eq_none_iff, summary?_eq_none_iff]
  · constructor
    · rintro ⟨fault, failed, _⟩
      cases found : container.summary? name with
      | none =>
          rw [(findPartition_eq_none_iff container spec name).mpr found] at failed
          contradiction
      | some summary =>
          refine ⟨summary, rfl, fun agree => ?_⟩
          rw [findPartition_of_summary? spec found, if_pos agree] at failed
          contradiction
    · rintro ⟨summary, found, disagree⟩
      exact ⟨_, by rw [findPartition_of_summary? spec found, if_neg disagree], rfl⟩
  · intro summary found agree
    have stored : summary ∈ storedSummaries data :=
      List.mem_of_find?_eq_some (entries.symm.trans found)
    have fits : summary.stop ≤ data.length :=
      stop_le_of_mem_storedSummaries stores.sized stored
    have start : View.Inside ⟨spec, name, summary.offset, summary.cardinality⟩ summary := by
      refine ⟨Nat.le_refl _, ?_⟩
      simp only [View.size, PartitionSpec.entrySize, Summary.stop, Summary.size, agree]
      exact Nat.le_refl _
    refine ⟨fits, _, by rw [findPartition_of_summary? spec found, if_pos agree], rfl, rfl, ?_⟩
    intro reached chain
    obtain ⟨same, inside⟩ := start.reaches chain
    exact ⟨same, inside.faithful fits backing⟩

/-- The bytes of a container with one partition `r` of a single byte. -/
def oneByteData : List UInt8 :=
  [0x54, 0x51, 0x45, 0x1A] ++ List.replicate 40 0 ++
    [76, 0, 0, 0, 3, 0, 0, 0] ++ List.replicate 12 0 ++
    [80, 0, 0, 0, 1, 0, 0, 0, 0, 0, 0, 0] ++ [0, 114, 0] ++ [200] ++
    [1, 0, 0, 0, 79, 0, 0, 0, 1, 0, 0, 0, 1, 0, 0, 0]

/-- The container with one partition `r` of a single byte. -/
def oneByte : Container where
  blob := .of oneByteData .bytes
  header := storedHeader oneByteData
  contents := [("r", ⟨1, 79, 1, 1⟩)]
  environment := none
  locations := []
  attributes := none
  traits := []
  journal := [.opened 96 1]

/-- The specification of a partition `r` of records with one field of a codec. -/
def oneField (codec : Codec) : PartitionSpec :=
  ⟨"r", .record ⟨"R", ["a"], [codec]⟩, .plain .index, none, 104⟩

theorem findPartition_faithful_oneByte :
    (load (.of oneByteData .bytes) none).1 = .ok oneByte ∧
      oneByte.SharesTables oneByte ∧
      ∃ view, oneByte.findPartition (oneField (.unsigned 1)) "r" = .ok (some view) ∧
        ∀ reached, view.Reaches reached →
          reached.Faithful oneByteData .bytes ⟨1, 79, 1, 1⟩ := by
  have loaded : (load (.of oneByteData .bytes) none).1 = .ok oneByte := rfl
  have shared : oneByte.SharesTables oneByte := ⟨rfl, rfl, rfl, rfl⟩
  obtain ⟨_, _, _, _, views, _⟩ :=
    findPartition_faithful loaded shared (oneField (.unsigned 1)) "r"
  obtain ⟨_, view, found, _, _, faithful⟩ := views ⟨1, 79, 1, 1⟩ rfl rfl
  exact ⟨loaded, shared, view, found, fun reached chain => (faithful reached chain).2⟩

/-- A record with a strict enumeration in its layout cannot be read at a position inside
its partition, where the stored number has no name. -/
theorem strict_member_unread :
    ∃ opened view, (load (.of oneByteData .bytes) none).1 = .ok opened ∧
      opened.findPartition (oneField (.member 1 .access)) "r" = .ok (some view) ∧
      0 < view.count ∧
      view.get opened.blob (.integer 0) = .error (.notMember "200" "Access") ∧
      view.list opened.blob = .error (.notMember "200" "Access") :=
  ⟨oneByte, ⟨oneField (.member 1 .access), "r", 79, 1⟩, rfl, rfl, by decide, rfl, rfl⟩

end Container
end ModuleInterface

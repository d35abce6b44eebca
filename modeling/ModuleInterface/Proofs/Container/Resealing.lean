import Mathlib
import ModuleInterface.Proofs.Container.Bounds

/-!
# Containers with another checksum

Bytes that differ at most in the checksum that they record, and whose regions all start
after it, declare the same: both are opened or neither is, with the same table of contents,
and with headers that differ in the checksum alone (`Container.load_resealed`). What
is read of them from any place after the checksum is the same.
-/

namespace ModuleInterface

namespace Acceptance

/-! ## Bytes with another checksum -/

/-- Two byte strings are the same but for the recorded checksum. -/
structure Resealed (data altered : List UInt8) : Prop where
  length : altered.length = data.length
  signature : altered.take 4 = data.take 4
  content : altered.drop 36 = data.drop 36

/-- No region that some bytes declare starts before the end of the recorded checksum. -/
structure ClearOfChecksum (data : List UInt8) : Prop where
  table : 36 ≤ tableStart data
  contents : 36 ≤ contentsStart data
  partitions : ∀ index < entryCount data, 36 ≤ offsetOf data index

/-- Some bytes with another checksum in the place of the recorded one. -/
def reseal (data checksum : List UInt8) : List UInt8 :=
  data.take 4 ++ checksum ++ data.drop 36

theorem resealed_reseal
    {data checksum : List UInt8}
    (long : 36 ≤ data.length)
    (sized : checksum.length = 32) :
    Resealed data (reseal data checksum) := by
  have start : (data.take 4).length = 4 := List.length_take_of_le (by omega)
  have before : (data.take 4 ++ checksum).length = 36 := by
    rw [List.length_append, start, sized]
  refine ⟨?_, ?_, ?_⟩
  · rw [reseal, List.length_append, before, List.length_drop]
    omega
  · rw [reseal, List.append_assoc, List.take_left' start]
  · rw [reseal, List.drop_left' before]

theorem checksum_storedHeader
    (data : List UInt8) :
    (storedHeader data).checksum = (data.drop 4).take 32 :=
  Bytes.window_eq _ _ _

/-- The other checksum is the recorded one. -/
theorem checksum_reseal
    {data checksum : List UInt8}
    (long : 36 ≤ data.length)
    (sized : checksum.length = 32) :
    (storedHeader (reseal data checksum)).checksum = checksum := by
  have start : (data.take 4).length = 4 := List.length_take_of_le (by omega)
  rw [checksum_storedHeader, reseal, List.append_assoc, List.drop_left' start,
    List.take_left' sized]

namespace Resealed

variable {data altered : List UInt8} (resealed : Resealed data altered)

include resealed

theorem drop_eq
    {start : Nat}
    (beyond : 36 ≤ start) :
    altered.drop start = data.drop start := by
  obtain ⟨rest, rfl⟩ := Nat.exists_eq_add_of_le beyond
  rw [← List.drop_drop, resealed.content, List.drop_drop]

theorem quadAt_eq
    {place : Nat}
    (beyond : 36 ≤ place) :
    quadAt altered place = quadAt data place := by
  have dropped := congrArg (quadAt · 0) (resealed.drop_eq beyond)
  simpa only [quadAt_drop, Nat.add_zero] using dropped

theorem textBytes_eq
    {start : Nat}
    (beyond : 36 ≤ start) :
    textBytes altered start = textBytes data start := by
  rw [textBytes, textBytes, resealed.drop_eq beyond]

theorem window_eq
    {start : Nat}
    (beyond : 36 ≤ start)
    (size : Nat) :
    Bytes.window altered.toArray start size = Bytes.window data.toArray start size := by
  rw [Bytes.window_eq, Bytes.window_eq]
  exact congrArg (List.take size) (resealed.drop_eq beyond)

theorem number_eq
    {start : Nat}
    (beyond : 36 ≤ start)
    (width : Nat) :
    Bytes.number altered.toArray width start = Bytes.number data.toArray width start :=
  congrArg LittleEndian.decode (resealed.window_eq beyond width)

/-! ### What is declared -/

theorem tableStart_eq : tableStart altered = tableStart data :=
  resealed.quadAt_eq (by decide)

theorem tableSize_eq : tableSize altered = tableSize data :=
  resealed.quadAt_eq (by decide)

theorem contentsStart_eq : contentsStart altered = contentsStart data :=
  resealed.quadAt_eq (by decide)

theorem entryCount_eq : entryCount altered = entryCount data :=
  resealed.quadAt_eq (by decide)

/-- The header is the same apart from the recorded checksum. -/
theorem storedHeader_eq :
    storedHeader altered =
      { storedHeader data with checksum := (storedHeader altered).checksum } := by
  simp (disch := decide) only [storedHeader, Header.decode, resealed.quadAt_eq,
    resealed.number_eq]

/-- The entries of the table of contents are the same where it starts after the checksum. -/
theorem entryAt_eq
    (beyond : 36 ≤ contentsStart data)
    (index : Nat) :
    entryAt altered index = entryAt data index := by
  have word : ∀ place, quadAt altered (contentsStart altered + 16 * index + place) =
      quadAt data (contentsStart data + 16 * index + place) := by
    intro place
    rw [resealed.contentsStart_eq]
    exact resealed.quadAt_eq (by omega)
  have first : quadAt altered (contentsStart altered + 16 * index) =
      quadAt data (contentsStart data + 16 * index) := word 0
  simp only [entryAt, nameOf, offsetOf, cardinalityOf, entrySizeOf, first, word]

theorem nameText_eq
    (clear : ClearOfChecksum data)
    (index : Nat) :
    nameText altered index = nameText data index := by
  have name := congrArg Summary.name (resealed.entryAt_eq clear.contents index)
  change nameOf altered index = nameOf data index at name
  have table := clear.table
  rw [nameText, nameText, nameBytes, nameBytes, name, resealed.tableStart_eq,
    resealed.textBytes_eq (by omega)]

/-- The regions start after the checksum as well. -/
theorem clearOfChecksum
    (clear : ClearOfChecksum data) :
    ClearOfChecksum altered := by
  refine ⟨?_, ?_, fun index listed => ?_⟩
  · rw [resealed.tableStart_eq]
    exact clear.table
  · rw [resealed.contentsStart_eq]
    exact clear.contents
  · have offset := congrArg Summary.offset (resealed.entryAt_eq clear.contents index)
    rw [resealed.entryCount_eq] at listed
    exact (clear.partitions index listed).trans_eq offset.symm

/-! ### What is opened -/

theorem signed
    (signed : Signed data) :
    Signed altered := by
  rw [Signed, resealed.length, resealed.signature]
  exact signed

theorem sizeOf_eq
    (beyond : 36 ≤ contentsStart data)
    (index : Nat) :
    sizeOf altered index = sizeOf data index :=
  congrArg Summary.size (resealed.entryAt_eq beyond index)

theorem sized
    (beyond : 36 ≤ contentsStart data)
    (sized : Sized data) :
    Sized altered := by
  have sizes := resealed.sizeOf_eq beyond
  have total : declaredTotal altered = declaredTotal data := by
    simp only [declaredTotal, resealed.tableSize_eq, resealed.entryCount_eq, sizes]
  refine ⟨?_, ?_, ?_, ?_, ?_⟩
  · rw [resealed.length]
    exact sized.header
  · rw [contentsStop, resealed.contentsStart_eq, resealed.entryCount_eq, resealed.length]
    exact sized.contents
  · rw [total, resealed.length]
    exact sized.total
  · rw [resealed.tableStart_eq, resealed.tableSize_eq, resealed.length]
    exact sized.table
  · intro index listed
    rw [resealed.entryCount_eq] at listed
    have offset := congrArg Summary.offset (resealed.entryAt_eq beyond index)
    change offsetOf altered index = offsetOf data index at offset
    rw [offset, sizes, resealed.length]
    exact sized.partitions index listed

theorem named
    (beyond : 36 ≤ contentsStart data)
    (named : Named data) :
    Named altered := by
  intro index listed
  rw [resealed.entryCount_eq] at listed
  have name := congrArg Summary.name (resealed.entryAt_eq beyond index)
  change nameOf altered index = nameOf data index at name
  rw [name, resealed.tableSize_eq]
  exact named index listed

theorem taken_iff
    (clear : ClearOfChecksum data)
    (index : Nat) :
    Taken altered index ↔ Taken data index := by
  simp only [Taken, resealed.nameText_eq clear]

theorem keptEntries_eq
    (clear : ClearOfChecksum data)
    (count : Nat) :
    keptEntries altered count = keptEntries data count := by
  have kept : kept altered count = kept data count :=
    List.filter_congr fun index _ =>
      decide_eq_decide.mpr (not_congr (resealed.taken_iff clear index))
  rw [keptEntries, keptEntries, kept]
  exact List.map_congr_left fun index _ =>
    congrArg₂ Prod.mk (resealed.nameText_eq clear index) (resealed.entryAt_eq clear.contents index)

theorem reports_eq
    (clear : ClearOfChecksum data)
    (count : Nat) :
    reports altered count = reports data count := by
  have passedOver : passedOver altered count = passedOver data count :=
    List.filter_congr fun index _ => decide_eq_decide.mpr (resealed.taken_iff clear index)
  rw [reports, reports, passedOver]
  exact List.map_congr_left fun index _ =>
    congrArg Event.duplicateEntry (resealed.nameText_eq clear index)

end Resealed
end Acceptance

open Acceptance

/-! ## Containers over such bytes -/

namespace Container

/-- A container with other bytes and the header that they store, and with another
journal. -/
def rebased (container : Container) (data : List UInt8) (journal : List Event) : Container :=
  { container with
    blob := { container.blob with bytes := data.toArray }
    header := storedHeader data
    journal }

/-- A container has some bytes and the header that they store, and knows partitions that
start after the recorded checksum only. -/
structure Based (container : Container) (data : List UInt8) : Prop where
  bytes : container.blob.bytes = data.toArray
  header : container.header = storedHeader data
  contents : ∀ name summary, container.summary? name = some summary → 36 ≤ summary.offset
  locations : ∀ slot location, container.located? slot = some location → 36 ≤ location.base

/-- The header over other bytes is the same apart from the recorded checksum. -/
theorem Based.header_eq
    {container : Container}
    {data altered : List UInt8}
    (based : container.Based data)
    (resealed : Resealed data altered)
    (journal : List Event) :
    (container.rebased altered journal).header =
      { container.header with checksum := (storedHeader altered).checksum } := by
  rw [based.header]
  exact resealed.storedHeader_eq

/-- A container is printed in the same way. -/
theorem Based.render_rebased
    {container : Container}
    {data altered : List UInt8}
    (based : container.Based data)
    (resealed : Resealed data altered)
    (journal : List Event) :
    (container.rebased altered journal).render = container.render := by
  have unit := congrArg Header.unit (based.header_eq resealed journal)
  rw [render, render, unit]
  rfl

/-- What is opened has the bytes that it was opened over. -/
theorem based_of_load
    {data : List UInt8}
    (clear : ClearOfChecksum data)
    {backing : Backing}
    {environment : Option Nat}
    {opened : Container}
    (loaded : (load (.of data backing) environment).1 = .ok opened) :
    opened.Based data := by
  obtain ⟨rfl, _⟩ := load_eq_of_load loaded
  refine ⟨rfl, rfl, fun name summary found => ?_, fun _ _ found => by contradiction⟩
  obtain ⟨index, member, entry⟩ := List.mem_map.mp (Bindings.mem_of_find? found)
  cases entry
  rw [kept, List.mem_filter, List.mem_range] at member
  exact clear.partitions index member.1

/-- What is opened with another checksum is what was opened before, over the other
bytes. -/
theorem load_resealed
    {data altered : List UInt8}
    (resealed : Resealed data altered)
    (clear : ClearOfChecksum data)
    {backing : Backing}
    {environment : Option Nat}
    {opened : Container}
    (loaded : (load (.of data backing) environment).1 = .ok opened) :
    load (.of altered backing) environment =
      (.ok (opened.rebased altered opened.journal), opened.journal) := by
  obtain ⟨signed, sized, named⟩ := accepted_of_load loaded
  obtain ⟨rfl, _⟩ := load_eq_of_load loaded
  obtain ⟨other, loadedOther⟩ := exists_load (resealed.signed signed)
    (resealed.sized clear.contents sized) (resealed.named clear.contents named) backing
    environment
  obtain ⟨rfl, both⟩ := load_eq_of_load loadedOther
  have journal : (openedOver altered backing environment).journal =
      (openedOver data backing environment).journal := by
    simp only [openedOver, resealed.entryCount_eq, resealed.reports_eq clear,
      resealed.keptEntries_eq clear, resealed.length]
  have same : openedOver altered backing environment =
      (openedOver data backing environment).rebased altered
        (openedOver data backing environment).journal := by
    rw [← journal]
    simp only [openedOver, rebased, resealed.entryCount_eq, resealed.keptEntries_eq clear]
    rfl
  rw [both, journal, same]

end Container

/-! ## Reading bytes -/

namespace Acceptance.Resealed

variable {data altered : List UInt8} (resealed : Resealed data altered)
variable {blob : Blob} (bytes : blob.bytes = data.toArray)

include resealed bytes

/-- An element of a view that starts after the checksum is read the same. -/
theorem read_eq
    {view : View}
    (beyond : 36 ≤ view.base)
    (position : Nat) :
    view.read { blob with bytes := altered.toArray } position = view.read blob position := by
  have start : 36 ≤ view.offsetOf position := by
    unfold View.offsetOf
    omega
  have size : altered.toArray.size = data.toArray.size := resealed.length
  obtain ⟨_, backing, released⟩ := blob
  cases bytes
  cases released with
  | true => rfl
  | false =>
      change view.spec.element.readAt altered.toArray (view.offsetOf position) =
        view.spec.element.readAt data.toArray (view.offsetOf position)
      rw [Element.readAt, Element.readAt, size, resealed.window_eq start]

theorem get_eq
    {view : View}
    (beyond : 36 ≤ view.base)
    (key : Value) :
    view.get { blob with bytes := altered.toArray } key = view.get blob key := by
  have read := resealed.read_eq bytes beyond
  cases key with
  | floating index =>
      -- No element is read at such a position: the bytes are only asked for.
      rw [View.get, View.get, View.getFloating, View.getFloating]
      obtain ⟨_, backing, released⟩ := blob
      cases released <;> rfl
  | _ => simp only [View.get, read]

theorem list_eq
    {view : View}
    (beyond : 36 ≤ view.base) :
    view.list { blob with bytes := altered.toArray } = view.list blob := by
  have from_ : ∀ remaining position,
      view.readFrom { blob with bytes := altered.toArray } remaining position =
        view.readFrom blob remaining position := by
    intro remaining
    induction remaining with
    | zero => exact fun _ => rfl
    | succ remaining inductionHypothesis =>
        intro position
        rw [View.readFrom, View.readFrom, resealed.read_eq bytes beyond, inductionHypothesis]
  exact from_ view.count 0

/-- What follows the checksum has the same digest. -/
theorem digest_eq
    (digest : List UInt8 → List UInt8) :
    ({ blob with bytes := altered.toArray } : Blob).access.map
        (fun bytes => digest (bytes.tail 36)) =
      blob.access.map fun bytes => digest (bytes.tail 36) := by
  obtain ⟨_, backing, released⟩ := blob
  cases bytes
  cases released with
  | true => rfl
  | false =>
      have content : Bytes.tail altered.toArray 36 = Bytes.tail data.toArray 36 := by
        rw [Bytes.tail_eq, Bytes.tail_eq]
        exact resealed.content
      exact congrArg (fun content => Except.ok (digest content)) content

/-- A text that starts after the checksum is the same. -/
theorem textAt_eq
    {start : Int}
    (beyond : 36 ≤ start) :
    ({ blob with bytes := altered.toArray } : Blob).textAt (.integer start) =
      blob.textAt (.integer start) := by
  obtain ⟨_, backing, released⟩ := blob
  cases bytes
  cases released with
  | true => rfl
  | false =>
      change (Blob.of altered backing).textAt (.integer start) =
        (Blob.of data backing).textAt (.integer start)
      by_cases inside : 0 ≤ start ∧ start ≤ data.length
      · obtain ⟨place, rfl⟩ := Int.eq_ofNat_of_zero_le inside.1
        have within : place ≤ data.length := by omega
        rw [Blob.textAt_eq backing within,
          Blob.textAt_eq backing (within.trans resealed.length.ge),
          resealed.textBytes_eq (by omega)]
      · rw [Blob.textAt_of_outside backing inside,
          Blob.textAt_of_outside backing (by rwa [resealed.length]), resealed.length]

/-- Every text of the string table is the same. -/
theorem tableText_eq
    (table : 36 ≤ tableStart data)
    (offset : Int) :
    Container.tableText (storedHeader altered) { blob with bytes := altered.toArray } offset =
      Container.tableText (storedHeader data) blob offset := by
  rw [Container.tableText, Container.tableText, stringTableSize_storedHeader,
    stringTableStart_storedHeader, resealed.tableSize_eq, resealed.tableStart_eq,
    stringTableSize_storedHeader, stringTableStart_storedHeader]
  split
  · rfl
  · split
    · exact resealed.textAt_eq bytes (by omega)
    · rfl

end Acceptance.Resealed

end ModuleInterface

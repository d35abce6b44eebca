import Mathlib
import ModuleInterface.Proofs.Container.Bounds
import ModuleInterface.Proofs.Container.Reading
import ModuleInterface.Proofs.Fault

/-!
# Texts of the string table

The end of a text is searched in all bytes of a container, not in the string table alone.
Where the last byte of the table is zero, every search that starts in the table ends there
(`Acceptance.textBytes_table`). A text then depends on the bytes of the table and on nothing
else (`Container.tableText_eq_readTable`), so that containers with the same table have the
same texts, wherever their tables lie.
-/

namespace ModuleInterface

namespace Acceptance

/-- The bytes of the string table. -/
def tableBytes (data : List UInt8) : List UInt8 :=
  (data.drop (tableStart data)).take (tableSize data)

/-- The string table is empty, or its last byte is zero. -/
def Terminated (data : List UInt8) : Prop :=
  tableBytes data = [] ∨ (tableBytes data).getLast? = some 0

instance : DecidablePred Terminated :=
  fun data => inferInstanceAs (Decidable (tableBytes data = [] ∨ _))

theorem length_tableBytes
    {data : List UInt8}
    (table : tableStart data + tableSize data ≤ data.length) :
    (tableBytes data).length = tableSize data := by
  rw [tableBytes, List.length_take, List.length_drop]
  omega

/-- There is a zero byte in the table from every place in it on. -/
theorem zero_mem_drop_tableBytes
    {data : List UInt8}
    (terminated : Terminated data)
    {offset : Nat}
    (inside : offset < (tableBytes data).length) :
    0 ∈ (tableBytes data).drop offset := by
  obtain empty | last := terminated
  · rw [empty] at inside
    contradiction
  · apply List.mem_of_getLast?
    rw [List.getLast?_drop, if_neg (Nat.not_le.mpr inside), last]

/-- A text that starts in the table is the same for the table alone. -/
theorem textBytes_table
    {data : List UInt8}
    (terminated : Terminated data)
    {offset : Nat}
    (inside : offset < (tableBytes data).length) :
    textBytes data (tableStart data + offset) = textBytes (tableBytes data) offset := by
  have zero := zero_mem_drop_tableBytes terminated inside
  have split : data.drop (tableStart data + offset) =
      (tableBytes data).drop offset ++ (data.drop (tableStart data)).drop (tableSize data) := by
    have reached : offset ≤ (tableBytes data).length := Nat.le_of_lt inside
    rw [← List.drop_append_of_le_length reached, tableBytes, List.take_append_drop,
      List.drop_drop]
  -- The text ends before the end of the table, since a zero byte is left.
  have ends : ((tableBytes data).drop offset).takeWhile (fun byte => !byte == 0) ≠
      (tableBytes data).drop offset := by
    intro all
    have nonzero := List.takeWhile_eq_self_iff.mp all 0 zero
    simp at nonzero
  rw [textBytes, textBytes, split, List.takeWhile_append, if_neg]
  intro same
  exact ends ((List.takeWhile_prefix _).eq_of_length same)

/-- A search that starts in the table ends in it. -/
theorem exists_endsAt_table
    {data : List UInt8}
    (terminated : Terminated data)
    {offset : Nat}
    (inside : offset < (tableBytes data).length) :
    ∃ stop < (tableBytes data).length, EndsAt (tableBytes data) offset stop := by
  have ends := Bytes.endsAt_firstNul (tableBytes data).toArray (Nat.le_of_lt inside)
  refine ⟨_, ?_, ends⟩
  apply Nat.lt_of_le_of_ne ends.stop_le
  intro atEnd
  have zero := zero_mem_drop_tableBytes terminated inside
  obtain ⟨index, bound, value⟩ := List.mem_iff_getElem.mp zero
  rw [List.length_drop] at bound
  apply ends.first (offset + index)
  · exact Nat.le_add_right _ _
  · rw [atEnd]
    change offset + index < (tableBytes data).length
    omega
  · rw [← List.getElem?_drop]
    exact List.getElem?_eq_some_iff.mpr ⟨_, value⟩

end Acceptance

open Acceptance

namespace Container

/-- The text at an offset of a string table, as far as the table alone has it. -/
def readTable (table : List UInt8) (offset : Int) : Except Fault String :=
  if table.length = 0 ∧ offset = 0 then .ok ""
  else if 0 ≤ offset ∧ offset < table.length then
    .ok (Utf8.decode (textBytes table offset.toNat))
  else .error (.textOutsideTable offset table.length)

/-- A text of a terminated table is read from the table alone. -/
theorem tableText_eq_readTable
    {data : List UInt8}
    (backing : Backing)
    (table : tableStart data + tableSize data ≤ data.length)
    (terminated : Terminated data)
    (offset : Int) :
    tableText (storedHeader data) (.of data backing) offset =
      readTable (tableBytes data) offset := by
  have length := length_tableBytes table
  by_cases inside : 0 ≤ offset ∧ offset < tableSize data
  · obtain ⟨place, rfl⟩ := Int.eq_ofNat_of_zero_le inside.1
    have within : place < tableSize data := by omega
    have reached : place < (tableBytes data).length := by rwa [length]
    have filled : ¬((tableBytes data).length = 0 ∧ ((place : Nat) : Int) = 0) := by omega
    have listed : (0 : Int) ≤ place ∧ (place : Int) < (tableBytes data).length := by omega
    rw [Acceptance.tableText_eq backing table within, textBytes_table terminated reached]
    rw [readTable, if_neg filled, if_pos listed, Int.toNat_natCast]
  · rw [tableText, readTable, stringTableSize_storedHeader, length, if_neg inside, if_neg inside]

/-- There is a text at every offset inside the table, which ends at a zero byte of it. -/
theorem readTable_of_inside
    {data : List UInt8}
    (terminated : Terminated data)
    {offset : Int}
    (nonnegative : 0 ≤ offset)
    (inside : offset < (tableBytes data).length) :
    ∃ stop < (tableBytes data).length, EndsAt (tableBytes data) offset.toNat stop ∧
      readTable (tableBytes data) offset =
        .ok (Utf8.decode
          (((tableBytes data).drop offset.toNat).take (stop - offset.toNat))) := by
  have reached : offset.toNat < (tableBytes data).length := by omega
  have filled : ¬((tableBytes data).length = 0 ∧ offset = 0) := by omega
  obtain ⟨stop, bound, ends⟩ := exists_endsAt_table terminated reached
  refine ⟨stop, bound, ends, ?_⟩
  rw [readTable, if_neg filled, if_pos ⟨nonnegative, inside⟩, ends.textBytes_eq]

/-- There is no text at any other offset, apart from the first one of an empty table. -/
theorem readTable_of_outside
    {table : List UInt8}
    {offset : Int}
    (notNull : ¬(table.length = 0 ∧ offset = 0))
    (outside : ¬(0 ≤ offset ∧ offset < table.length)) :
    readTable table offset = .error (.textOutsideTable offset table.length) := by
  rw [readTable, if_neg notNull, if_neg outside]

/-- An open container with a terminated table reads its texts from the table alone. -/
theorem Stores.outcome_stringAt
    {opened container : Container}
    {data : List UInt8}
    {backing : Backing}
    (stores : opened.Stores data backing)
    (shared : container.SharesTables opened)
    (terminated : Terminated data)
    (offset : Int) :
    ((Query.stringAt offset).on container).1 = readTable (tableBytes data) offset := by
  rw [Query.outcome_stringAt, shared.header, stores.header, shared.blob, stores.blob]
  exact tableText_eq_readTable backing stores.sized.table terminated offset

/-- A partition is named by the text at the name offset of its entry. -/
theorem Stores.readTable_of_mem_contents
    {opened : Container}
    {data : List UInt8}
    {backing : Backing}
    (stores : opened.Stores data backing)
    (terminated : Terminated data)
    {name : String}
    {summary : Summary}
    (entered : (name, summary) ∈ opened.contents) :
    readTable (tableBytes data) summary.name = .ok name := by
  rw [stores.contents_eq, keptEntries, List.mem_map] at entered
  obtain ⟨index, member, entry⟩ := entered
  rw [Prod.mk.injEq] at entry
  obtain ⟨rfl, rfl⟩ := entry
  have listed : index < entryCount data := by
    rw [kept, List.mem_filter, List.mem_range] at member
    exact member.1
  rw [← tableText_eq_readTable backing stores.sized.table terminated]
  exact stores.tableText_eq listed

/-- Every entry that is stored, also one whose name is taken, has a name in the table. -/
theorem Stores.exists_readTable
    {opened : Container}
    {data : List UInt8}
    {backing : Backing}
    (stores : opened.Stores data backing)
    (terminated : Terminated data)
    {summary : Summary}
    (stored : summary ∈ storedSummaries data) :
    ∃ name, readTable (tableBytes data) summary.name = .ok name := by
  rw [storedSummaries_eq, List.mem_map] at stored
  obtain ⟨index, member, rfl⟩ := stored
  refine ⟨nameText data index, ?_⟩
  rw [← tableText_eq_readTable backing stores.sized.table terminated]
  exact stores.tableText_eq (List.mem_range.mp member)

/-- What an open container with a terminated string table answers of texts. A text ends in
the table. Offsets outside the table have none, and are refused as such as long as they can
be shown. Any other such container with the same bytes in its table has the same texts, at
all offsets and for the names of all partitions, whatever its other bytes are. -/
theorem strings_confined
    {data : List UInt8}
    {backing : Backing}
    {environment : Option Nat}
    {opened container : Container}
    (loaded : (load (.of data backing) environment).1 = .ok opened)
    (shared : container.SharesTables opened)
    (terminated : Terminated data) :
    (∀ offset : Int,
      (tableSize data = 0 ∧ offset = 0 →
        ((Query.stringAt offset).on container).1 = .ok "") ∧
      (¬(tableSize data = 0 ∧ offset = 0) → ¬(0 ≤ offset ∧ offset < tableSize data) →
        FailsAs ((Query.stringAt offset).on container).1
          (if Numeral.isPrintable offset then .outOfRange else .badValue)) ∧
      (0 ≤ offset ∧ offset < tableSize data →
        ∃ stop < tableSize data, EndsAt (tableBytes data) offset.toNat stop ∧
          ((Query.stringAt offset).on container).1 =
            .ok (Utf8.decode
              (((tableBytes data).drop offset.toNat).take (stop - offset.toNat))))) ∧
    ∀ {data' : List UInt8} {backing' : Backing} {environment' : Option Nat}
      {opened' container' : Container},
      (load (.of data' backing') environment').1 = .ok opened' →
        container'.SharesTables opened' →
        Terminated data' →
        tableBytes data' = tableBytes data →
          SharesTexts container' container ∧
          (∀ name summary, (name, summary) ∈ container.contents →
            ((Query.stringAt summary.name).on container).1 = .ok name ∧
              ((Query.stringAt summary.name).on container').1 = .ok name) ∧
          ∀ summary ∈ storedSummaries data, ∃ name,
            ((Query.stringAt summary.name).on container).1 = .ok name ∧
              ((Query.stringAt summary.name).on container').1 = .ok name := by
  have stores := stores_of_load loaded
  have length := length_tableBytes stores.sized.table
  have texts := stores.outcome_stringAt shared terminated
  refine ⟨fun offset => ⟨?_, ?_, ?_⟩, ?_⟩
  · intro null
    rw [texts, readTable, length, if_pos null]
  · intro notNull outside
    rw [← length] at notNull outside
    rw [texts]
    exact failsAs_of_number (readTable_of_outside notNull outside) rfl rfl
  · rintro ⟨nonnegative, inside⟩
    rw [← length] at inside ⊢
    rw [texts]
    exact readTable_of_inside terminated nonnegative inside
  · intro data' backing' environment' opened' container' loaded' shared' terminated' same
    have stores' := stores_of_load loaded'
    have texts' := stores'.outcome_stringAt shared' terminated'
    rw [same] at texts'
    refine ⟨?_, ?_, ?_⟩
    · apply sharesTexts_of_strings
      intro offset
      rw [texts, texts']
    · intro name summary entered
      rw [shared.contents] at entered
      rw [texts, texts', stores.readTable_of_mem_contents terminated entered]
      exact ⟨rfl, rfl⟩
    · intro summary stored
      obtain ⟨name, read⟩ := stores.exists_readTable terminated stored
      refine ⟨name, ?_, ?_⟩
      · rw [texts, read]
      · rw [texts', read]

/-- The bytes of another container with one partition `r` of a single byte, which stands
before the string table. -/
def byteFirstData : List UInt8 :=
  [0x54, 0x51, 0x45, 0x1A] ++ List.replicate 40 0 ++
    [77, 0, 0, 0, 3, 0, 0, 0] ++ List.replicate 12 7 ++
    [80, 0, 0, 0, 1, 0, 0, 0, 0, 0, 0, 0] ++ [9] ++ [0, 114, 0] ++
    [1, 0, 0, 0, 76, 0, 0, 0, 1, 0, 0, 0, 1, 0, 0, 0]

/-- The container with one partition `r` of a single byte before its string table. -/
def byteFirst : Container where
  blob := .of byteFirstData .view
  header := storedHeader byteFirstData
  contents := [("r", ⟨1, 76, 1, 1⟩)]
  environment := some 2
  locations := []
  attributes := none
  traits := []
  journal := [.opened 96 1]

theorem strings_confined_oneByte :
    (load (.of oneByteData .bytes) none).1 = .ok oneByte ∧
      (load (.of byteFirstData .view) (some 2)).1 = .ok byteFirst ∧
      Terminated oneByteData ∧ Terminated byteFirstData ∧
      tableBytes byteFirstData = tableBytes oneByteData ∧ byteFirstData ≠ oneByteData ∧
      SharesTexts byteFirst oneByte ∧
      ((Query.stringAt 1).on oneByte).1 = .ok "r" ∧
      ((Query.stringAt 1).on byteFirst).1 = .ok "r" ∧
      FailsAs ((Query.stringAt 3).on oneByte).1 .outOfRange := by
  have loaded : (load (.of oneByteData .bytes) none).1 = .ok oneByte := rfl
  have loadedFirst : (load (.of byteFirstData .view) (some 2)).1 = .ok byteFirst := rfl
  have shared : oneByte.SharesTables oneByte := ⟨rfl, rfl, rfl, rfl⟩
  have sharedFirst : byteFirst.SharesTables byteFirst := ⟨rfl, rfl, rfl, rfl⟩
  have terminated : Terminated oneByteData := by decide
  have terminatedFirst : Terminated byteFirstData := by decide
  have same : tableBytes byteFirstData = tableBytes oneByteData := by decide
  obtain ⟨answers, others⟩ := strings_confined loaded shared terminated
  obtain ⟨texts, names, _⟩ := others loadedFirst sharedFirst terminatedFirst same
  obtain ⟨own, other⟩ := names "r" ⟨1, 79, 1, 1⟩ (List.mem_singleton.mpr rfl)
  have refused := (answers 3).2.1 (by decide) (by decide)
  have short : Numeral.isPrintable 3 := Numeral.isPrintable_of_lt (by decide)
  rw [if_pos short] at refused
  exact ⟨loaded, loadedFirst, terminated, terminatedFirst, same, by decide, texts, own, other,
    refused⟩

/-- An offset with too many digits to be shown is outside the string table, and is refused
with another kind of fault than that. -/
theorem stringAt_unshown :
    (load (.of oneByteData .bytes) none).1 = .ok oneByte ∧ Terminated oneByteData ∧
      ¬((10 : Int) ^ Numeral.digitLimit < tableSize oneByteData) ∧
      FailsAs ((Query.stringAt (10 ^ Numeral.digitLimit)).on oneByte).1 .badValue ∧
      ¬FailsAs ((Query.stringAt (10 ^ Numeral.digitLimit)).on oneByte).1 .outOfRange := by
  have loaded : (load (.of oneByteData .bytes) none).1 = .ok oneByte := rfl
  have terminated : Terminated oneByteData := by decide
  have large : (10 : Int) ^ 1 ≤ 10 ^ Numeral.digitLimit :=
    pow_le_pow_right₀ (by decide) (by decide)
  have length : (tableBytes oneByteData).length = 3 := by decide
  have size : tableSize oneByteData = 3 := by decide
  have notNull : ¬((tableBytes oneByteData).length = 0 ∧
      (10 : Int) ^ Numeral.digitLimit = 0) := by omega
  have outside : ¬(0 ≤ (10 : Int) ^ Numeral.digitLimit ∧
      (10 : Int) ^ Numeral.digitLimit < (tableBytes oneByteData).length) := by omega
  have shared : oneByte.SharesTables oneByte := ⟨rfl, rfl, rfl, rfl⟩
  have refused := (stores_of_load loaded).outcome_stringAt shared terminated
    (10 ^ Numeral.digitLimit)
  rw [readTable_of_outside notNull outside] at refused
  have fails := failsAs_of_number refused rfl rfl
  rw [Numeral.isPrintable_limit, if_neg Bool.false_ne_true] at fails
  refine ⟨loaded, terminated, by omega, fails, ?_⟩
  rw [fails.iff_eq]
  decide

end Container
end ModuleInterface

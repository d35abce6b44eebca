import Mathlib
import ModuleInterface.Proofs.Container.Contents
import ModuleInterface.Proofs.Text.Utf8

/-!
# Entries whose name is taken

The name of an entry of the table of contents is the text of some bytes, wherever in the
bytes of the container they stand. An entry is passed over when an earlier one has its name,
and every entry is kept or reported (`load_keeps_first`). When the names are stored as UTF-8,
an entry is passed over for the bytes of an earlier name and for nothing else.
-/

namespace ModuleInterface

/-- Whether an event reports an entry whose name is taken. -/
def Event.passesOver : Event → Bool
  | .duplicateEntry _ => true
  | _ => false

namespace Acceptance

section Names

variable {data : List UInt8}

/-- Where the bytes of every name are those of characters, names are the same when their
bytes are. -/
theorem taken_iff_of_stored
    {count : Nat}
    (stored : ∀ index < count, Utf8.Stored (nameBytes data index))
    {index : Nat}
    (listed : index < count) :
    Taken data index ↔ ∃ earlier < index, nameBytes data earlier = nameBytes data index := by
  unfold Taken nameText
  constructor
  · rintro ⟨earlier, before, same⟩
    have storedEarlier := stored earlier (Nat.lt_trans before listed)
    exact ⟨earlier, before, (storedEarlier.decode_inj (stored index listed)).mp same⟩
  · rintro ⟨earlier, before, same⟩
    exact ⟨earlier, before, congrArg Utf8.decode same⟩

/-- Every entry is kept or reported. -/
theorem length_keptEntries_add_countP_reports
    (count : Nat) :
    (keptEntries data count).length + (reports data count).countP Event.passesOver = count := by
  have parts := List.length_eq_countP_add_countP (fun index => decide (¬Taken data index))
    (l := List.range count)
  have reported : (reports data count).countP Event.passesOver =
      (passedOver data count).length := by
    rw [reports, List.countP_map]
    exact List.countP_eq_length.mpr fun _ _ => rfl
  rw [reported]
  simpa [keptEntries, kept, passedOver, List.countP_eq_length_filter] using parts.symm

end Names
end Acceptance

open Acceptance

namespace Container

/-- Opening keeps the first entry of each name and reports every other. The names are those
of the entries in the order in which they first occur. When the bytes of every name are those
of characters, an entry is passed over exactly when an earlier name has the same bytes, even
where the two stand at different places. -/
theorem load_keeps_first
    {data : List UInt8}
    {backing : Backing}
    {environment : Option Nat}
    {opened : Container}
    {events : List Event}
    (loaded : load (.of data backing) environment = (.ok opened, events)) :
    opened.contents = keptEntries data (entryCount data) ∧
      events = reports data (entryCount data) ++
        [.opened data.length opened.contents.length] ∧
      opened.contents.keys =
        ((List.range (entryCount data)).map (nameText data)).eraseDups ∧
      (∀ name, opened.contents.find? name =
        ((List.range (entryCount data)).find? fun index => nameText data index = name).map
          (entryAt data)) ∧
      opened.contents.length + events.countP Event.passesOver =
        opened.header.partitionCount ∧
      ((∀ index < entryCount data, Utf8.Stored (nameBytes data index)) →
        ∀ index < entryCount data,
          index ∈ passedOver data (entryCount data) ↔
              ∃ earlier < index, nameBytes data earlier = nameBytes data index) := by
  obtain ⟨rfl, outcome⟩ := load_eq_of_load (congrArg Prod.fst loaded)
  rw [outcome] at loaded
  cases loaded
  refine ⟨rfl, rfl, keys_keptEntries _, find?_keptEntries _, ?_, ?_⟩
  · rw [openedOver, List.countP_append, List.countP_singleton, partitionCount_storedHeader]
    exact length_keptEntries_add_countP_reports (entryCount data)
  · intro stored index listed
    rw [passedOver, List.mem_filter, List.mem_range, decide_eq_true_iff,
      taken_iff_of_stored stored listed]
    exact and_iff_right listed

/-- The bytes of a container with two empty partitions `r`. The name stands twice in the string
table. -/
def twiceNamedData : List UInt8 :=
  [0x54, 0x51, 0x45, 0x1A] ++ List.replicate 40 0 ++
    [76, 0, 0, 0, 4, 0, 0, 0] ++ List.replicate 12 0 ++
    [80, 0, 0, 0, 2, 0, 0, 0, 0, 0, 0, 0] ++ [114, 0, 114, 0] ++
    [0, 0, 0, 0, 80, 0, 0, 0, 0, 0, 0, 0, 1, 0, 0, 0] ++
    [2, 0, 0, 0, 80, 0, 0, 0, 0, 0, 0, 0, 2, 0, 0, 0]

/-- The container with two empty partitions `r`, the second of which is passed over. -/
def twiceNamed : Container where
  blob := .of twiceNamedData .bytes
  header := storedHeader twiceNamedData
  contents := [("r", ⟨0, 80, 0, 1⟩)]
  environment := none
  locations := []
  attributes := none
  traits := []
  journal := [.duplicateEntry "r", .opened 112 1]

/-- The second `r` is passed over, though it stands at another place than the first. -/
theorem load_keeps_first_of_two :
    load (.of twiceNamedData .bytes) none =
        (.ok twiceNamed, [.duplicateEntry "r", .opened 112 1]) ∧
      twiceNamed.contents.keys = ["r", "r"].eraseDups ∧
      nameOf twiceNamedData 1 ≠ nameOf twiceNamedData 0 ∧
      (1 ∈ passedOver twiceNamedData 2 ↔
        ∃ earlier < 1, nameBytes twiceNamedData earlier = nameBytes twiceNamedData 1) := by
  have loaded : load (.of twiceNamedData .bytes) none =
      (.ok twiceNamed, [.duplicateEntry "r", .opened 112 1]) := rfl
  have stored : ∀ index < entryCount twiceNamedData,
      Utf8.Stored (nameBytes twiceNamedData index) := by
    intro index listed
    have two : entryCount twiceNamedData = 2 := rfl
    obtain rfl | rfl : index = 0 ∨ index = 1 := by omega
    · exact ⟨['r'], rfl⟩
    · exact ⟨['r'], rfl⟩
  obtain ⟨_, _, names, _, _, spelled⟩ := load_keeps_first loaded
  exact ⟨loaded, names, by decide, spelled stored 1 (by decide)⟩

end Container
end ModuleInterface

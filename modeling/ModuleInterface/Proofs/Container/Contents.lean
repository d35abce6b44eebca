import Mathlib
import ModuleInterface.Container.Locate
import ModuleInterface.Proofs.Container.Acceptance

/-!
# The table of contents of an opened container

Opening keeps an entry under the text of its name, unless an earlier entry has that name.
What the first entries make is given in closed form (`Acceptance.keptEntries`), and
`addEntries_range` follows the table entry by entry. So the entry of a name is the first
stored one that bears it, and the names stand in the order in which they first occur.
-/

namespace ModuleInterface
namespace Acceptance

section Names

variable (data : List UInt8)

/-- The bytes of the name of an entry. -/
def nameBytes (index : Nat) : List UInt8 :=
  textBytes data (tableStart data + nameOf data index)

/-- The name of an entry. -/
def nameText (index : Nat) : String :=
  Utf8.decode (nameBytes data index)

/-- The entry that the bytes store at an index. -/
def entryAt (index : Nat) : Summary :=
  ⟨nameOf data index, offsetOf data index, cardinalityOf data index, entrySizeOf data index⟩

/-- An earlier entry has the name of an entry. -/
def Taken (index : Nat) : Prop :=
  ∃ earlier < index, nameText data earlier = nameText data index

instance : DecidablePred (Taken data) :=
  fun index => inferInstanceAs (Decidable (∃ earlier < index, _))

/-- Of the first entries, those that bear a new name. -/
def kept (count : Nat) : List Nat :=
  (List.range count).filter fun index => ¬Taken data index

/-- Of the first entries, those whose name is taken. -/
def passedOver (count : Nat) : List Nat :=
  (List.range count).filter fun index => Taken data index

/-- The table of contents that the first entries make. -/
def keptEntries (count : Nat) : Contents :=
  (kept data count).map fun index => (nameText data index, entryAt data index)

/-- What is reported of the first entries. -/
def reports (count : Nat) : List Event :=
  (passedOver data count).map fun index => .duplicateEntry (nameText data index)

theorem storedSummaries_eq :
    storedSummaries data = (List.range (entryCount data)).map (entryAt data) := by
  rw [storedSummaries]
  exact List.map_congr_left fun index _ => decode_entry data index

variable {data}

theorem keptEntries_succ_of_taken
    {count : Nat}
    (taken : Taken data count) :
    keptEntries data (count + 1) = keptEntries data count ∧
      reports data (count + 1) = reports data count ++ [.duplicateEntry (nameText data count)] := by
  simp [keptEntries, kept, reports, passedOver, List.range_succ, taken]

theorem keptEntries_succ_of_new
    {count : Nat}
    (new : ¬Taken data count) :
    keptEntries data (count + 1) =
        keptEntries data count ++ [(nameText data count, entryAt data count)] ∧
      reports data (count + 1) = reports data count := by
  simp [keptEntries, kept, reports, passedOver, List.range_succ, new]

/-- A name is in the table when one of the entries has it. -/
theorem mem_keys_keptEntries
    {count : Nat}
    {name : String} :
    name ∈ (keptEntries data count).keys ↔
      ∃ index < count, nameText data index = name := by
  induction count with
  | zero => simp [keptEntries, kept, Bindings.keys]
  | succ count inductionHypothesis =>
      rw [Nat.exists_lt_succ_right, ← inductionHypothesis]
      by_cases taken : Taken data count
      · rw [(keptEntries_succ_of_taken taken).1, or_iff_left_of_imp]
        intro same
        rw [inductionHypothesis, ← same]
        exact taken
      · rw [(keptEntries_succ_of_new taken).1]
        simp [Bindings.keys, eq_comm]

theorem find?_keptEntries_isSome
    {count : Nat} :
    ((keptEntries data count).find? (nameText data count)).isSome ↔ Taken data count := by
  rw [← not_iff_not, Option.not_isSome_iff_eq_none, Bindings.find?_eq_none_iff, not_iff_not]
  exact mem_keys_keptEntries

/-- The names of the table stand in the order in which they first occur. -/
theorem keys_keptEntries
    (count : Nat) :
    (keptEntries data count).keys =
      ((List.range count).map (nameText data)).eraseDups := by
  induction count with
  | zero => rfl
  | succ count inductionHypothesis =>
      rw [List.range_succ, List.map_append, List.map_singleton, List.eraseDups_append,
        ← inductionHypothesis]
      have listed : ((List.range count).map (nameText data)).contains (nameText data count) =
          decide (Taken data count) := by
        rw [Bool.eq_iff_iff, decide_eq_true_iff]
        simp [Taken]
      rw [List.cons_removeAll, listed]
      by_cases taken : Taken data count
      · simp [(keptEntries_succ_of_taken taken).1, taken]
      · simp [(keptEntries_succ_of_new taken).1, taken, Bindings.keys, List.eraseDups_cons]

/-- Under a name stands the first entry that has it. -/
theorem find?_keptEntries
    (count : Nat)
    (name : String) :
    (keptEntries data count).find? name =
      ((List.range count).find? fun index => nameText data index = name).map
        (entryAt data) := by
  induction count with
  | zero => rfl
  | succ count inductionHypothesis =>
      rw [List.range_succ, List.find?_append, Option.map_or, ← inductionHypothesis]
      by_cases taken : Taken data count
      · rw [(keptEntries_succ_of_taken taken).1]
        by_cases same : nameText data count = name
        · subst same
          obtain ⟨entry, found⟩ :=
            Option.isSome_iff_exists.mp (find?_keptEntries_isSome.mpr taken)
          simp [found]
        · simp [same]
      · rw [(keptEntries_succ_of_new taken).1, Bindings.find?_append, Bindings.find?_cons]
        by_cases same : nameText data count = name
        · simp [same]
        · simp [same]

end Names
end Acceptance

open Acceptance

namespace Container

/-- Two containers that have the same bytes, header, table of contents and environment.
They may remember different things and have done different things. -/
structure SharesTables (container opened : Container) : Prop where
  blob : container.blob = opened.blob
  header : container.header = opened.header
  contents : container.contents = opened.contents
  environment : container.environment = opened.environment

/-- Whether the text of an entry's name is a given one. -/
def bears (header : Header) (blob : Blob) (name : String) (summary : Summary) : Bool :=
  (tableText header blob summary.name).toOption == some name

theorem bears_of_tableText
    {header : Header}
    {blob : Blob}
    {summary : Summary}
    {text : String}
    (read : tableText header blob summary.name = .ok text)
    (name : String) :
    bears header blob name summary = decide (text = name) := by
  simp [bears, read, Except.toOption, beq_eq_decide]

/-- The first entry that bears a name comes after those of other names. -/
theorem find?_bears_of_named
    {header : Header}
    {blob : Blob}
    {earlier later : List Summary}
    {names : List String}
    (named : List.Forall₂ (fun summary name =>
      tableText header blob summary.name = .ok name) earlier names)
    {name : String}
    (absent : name ∉ names)
    {summary : Summary}
    (read : tableText header blob summary.name = .ok name) :
    (earlier ++ summary :: later).find? (bears header blob name) = some summary := by
  induction named with
  | nil => simp [bears_of_tableText read]
  | cons first rest inductionHypothesis =>
      rw [List.mem_cons, not_or] at absent
      rw [List.cons_append, List.find?_cons_of_neg, inductionHypothesis absent.2]
      rw [bears_of_tableText first, decide_eq_true_iff]
      exact Ne.symm absent.1

/-- Entries are added one after another. -/
theorem addEntries_append
    (header : Header)
    (blob : Blob)
    {contents result : Contents}
    {events reported : List Event}
    {earlier : List Summary}
    (added : addEntries header blob contents events earlier = (.ok result, reported))
    (later : List Summary) :
    addEntries header blob contents events (earlier ++ later) =
      addEntries header blob result reported later := by
  induction earlier generalizing contents events with
  | nil =>
      cases added
      rfl
  | cons summary rest inductionHypothesis =>
      rw [List.cons_append, addEntries]
      rw [addEntries] at added
      split
      next outside =>
        rw [if_pos outside] at added
        cases added
      next inside =>
        rw [if_neg inside] at added
        split
        next fault failed =>
          rw [failed] at added
          cases added
        next name read =>
          rw [read] at added
          simp only at added
          split
          next taken =>
            rw [if_pos taken] at added
            exact inductionHypothesis added
          next free =>
            rw [if_neg free] at added
            exact inductionHypothesis added

/-- An entry is kept under its name, unless the name is taken. -/
theorem addEntries_singleton
    {header : Header}
    {blob : Blob}
    {summary : Summary}
    {name : String}
    (inside : summary.name < header.stringTableSize)
    (read : tableText header blob summary.name = .ok name)
    (contents : Contents)
    (events : List Event) :
    addEntries header blob contents events [summary] =
      if (contents.find? name).isSome then (.ok contents, events ++ [.duplicateEntry name])
      else (.ok (contents ++ [(name, summary)]), events) := by
  rw [addEntries, if_neg (Nat.not_le.mpr inside), read]
  rfl

/-- The first entries make a table of those with a new name and a report of the others. -/
theorem addEntries_range
    {data : List UInt8}
    (backing : Backing)
    (table : tableStart data + tableSize data ≤ data.length)
    {count : Nat}
    (named : ∀ index < count, nameOf data index < tableSize data) :
    addEntries (storedHeader data) (.of data backing) [] []
        ((List.range count).map (entryAt data)) =
      (.ok (keptEntries data count), reports data count) := by
  induction count with
  | zero => rfl
  | succ count inductionHypothesis =>
      have inside := named count (Nat.lt_succ_self count)
      have before := inductionHypothesis fun index earlier =>
        named index (Nat.lt_succ_of_lt earlier)
      have listed : (entryAt data count).name < (storedHeader data).stringTableSize := by
        rw [stringTableSize_storedHeader]
        exact inside
      rw [List.range_succ, List.map_append, addEntries_append _ _ before, List.map_singleton,
        addEntries_singleton listed (tableText_eq backing table inside)]
      -- The entry is judged by the table of those before it, which has exactly their names.
      change (if ((keptEntries data count).find? (nameText data count)).isSome then _ else _) = _
      by_cases taken : Taken data count
      · rw [if_pos (find?_keptEntries_isSome.mpr taken), (keptEntries_succ_of_taken taken).1,
          (keptEntries_succ_of_taken taken).2]
        rfl
      · rw [if_neg (mt find?_keptEntries_isSome.mp taken), (keptEntries_succ_of_new taken).1,
          (keptEntries_succ_of_new taken).2]
        rfl

/-- The container that is opened over some bytes, if they are accepted. -/
def openedOver (data : List UInt8) (backing : Backing) (environment : Option Nat) :
    Container where
  blob := .of data backing
  header := storedHeader data
  contents := keptEntries data (entryCount data)
  environment
  locations := []
  attributes := none
  traits := []
  journal := reports data (entryCount data) ++
    [.opened data.length (keptEntries data (entryCount data)).length]

/-- Opening succeeds in one way. -/
theorem load_eq_of_load
    {data : List UInt8}
    {backing : Backing}
    {environment : Option Nat}
    {opened : Container}
    (loaded : (load (.of data backing) environment).1 = .ok opened) :
    opened = openedOver data backing environment ∧
      load (.of data backing) environment = (.ok opened, opened.journal) := by
  obtain ⟨signed, sized, named⟩ := accepted_of_load loaded
  have judged : passAll (signatureChecks data ++ sizeChecks data) = .ok () :=
    passAll_eq_ok.mpr (List.forall_mem_append.mpr
      ⟨(signatureChecks_passed_iff data).mpr signed, (sizeChecks_passed_iff data).mpr sized⟩)
  have shape : ((Blob.of data backing).access >>= validate) =
      .ok (storedHeader data, storedSummaries data) := by
    refine (validate_eq data).trans ?_
    rw [judged]
    rfl
  have outcome : load (.of data backing) environment =
      (.ok (openedOver data backing environment),
        (openedOver data backing environment).journal) := by
    rw [load, shape]
    simp only
    rw [storedSummaries_eq, addEntries_range backing sized.table named]
    rfl
  rw [outcome] at loaded ⊢
  cases loaded
  exact ⟨rfl, rfl⟩

/-- What opening makes of the bytes that it accepts. -/
structure Stores (opened : Container) (data : List UInt8) (backing : Backing) : Prop where
  blob : opened.blob = .of data backing
  header : opened.header = storedHeader data
  sized : Sized data
  entries : (addEntries (storedHeader data) (.of data backing) [] []
    (storedSummaries data)).1 = .ok opened.contents

theorem stores_of_load
    {data : List UInt8}
    {backing : Backing}
    {environment : Option Nat}
    {opened : Container}
    (loaded : (load (.of data backing) environment).1 = .ok opened) :
    opened.Stores data backing := by
  obtain ⟨_, sized, named⟩ := accepted_of_load loaded
  obtain ⟨rfl, _⟩ := load_eq_of_load loaded
  refine ⟨rfl, rfl, sized, ?_⟩
  rw [storedSummaries_eq, addEntries_range backing sized.table named]
  rfl

/-- The names that are stored start inside the string table. -/
theorem Stores.named
    {opened : Container}
    {data : List UInt8}
    {backing : Backing}
    (stores : opened.Stores data backing) :
    Named data := by
  have judged := addEntries_map_unit backing stores.sized.table [] [] (storedSummaries data)
  rw [stores.entries, storedSummaries_eq, List.map_map] at judged
  intro index listed
  have passed := passAll_eq_ok.mp judged.symm _
    (List.mem_map_of_mem (List.mem_range.mpr listed))
  exact of_decide_eq_true passed

theorem Stores.contents_eq
    {opened : Container}
    {data : List UInt8}
    {backing : Backing}
    (stores : opened.Stores data backing) :
    opened.contents = keptEntries data (entryCount data) := by
  have entries := stores.entries
  rw [storedSummaries_eq, addEntries_range backing stores.sized.table stores.named] at entries
  exact (Except.ok.inj entries).symm

/-- The text of the name of a stored entry. -/
theorem Stores.tableText_eq
    {opened : Container}
    {data : List UInt8}
    {backing : Backing}
    (stores : opened.Stores data backing)
    {index : Nat}
    (listed : index < entryCount data) :
    tableText (storedHeader data) (.of data backing) (entryAt data index).name =
      .ok (nameText data index) :=
  Acceptance.tableText_eq backing stores.sized.table (stores.named index listed)

/-- The entry of a name in an opened container is the first stored one that bears it. -/
theorem Stores.summary?_eq
    {opened : Container}
    {data : List UInt8}
    {backing : Backing}
    (stores : opened.Stores data backing)
    (name : String) :
    opened.summary? name =
      (storedSummaries data).find? (bears (storedHeader data) (.of data backing) name) := by
  rw [summary?, stores.contents_eq, find?_keptEntries, storedSummaries_eq, List.find?_map]
  congr 1
  apply List.find?_congr
  intro index member
  exact (bears_of_tableText (stores.tableText_eq (List.mem_range.mp member)) name).symm

/-- The names of an opened container are those of its stored entries, in the order in which
they first occur. -/
theorem Stores.keys_eq
    {opened : Container}
    {data : List UInt8}
    {backing : Backing}
    (stores : opened.Stores data backing)
    {names : List String}
    (named : List.Forall₂ (fun summary name =>
      tableText (storedHeader data) (.of data backing) summary.name = .ok name)
      (storedSummaries data) names) :
    opened.contents.keys = names.eraseDups := by
  rw [storedSummaries_eq, List.forall₂_map_left_iff] at named
  have length := named.length_eq
  rw [List.length_range] at length
  have same : (List.range (entryCount data)).map (nameText data) = names := by
    apply List.ext_getElem
    · simpa using length
    · intro index inRange inNames
      have listed : index < entryCount data := by omega
      have read := named.get (by simpa using listed) inNames
      simp only [List.get_eq_getElem, List.getElem_range, stores.tableText_eq listed] at read
      simpa using Except.ok.inj read
  rw [stores.contents_eq, keys_keptEntries, same]

theorem summary?_eq_none_iff
    (container : Container)
    (name : String) :
    container.summary? name = none ↔ name ∉ container.contents.keys :=
  Bindings.find?_eq_none_iff container.contents name

end Container
end ModuleInterface

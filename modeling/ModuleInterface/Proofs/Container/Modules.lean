import Mathlib
import ModuleInterface.Proofs.Container.Contents
import ModuleInterface.Proofs.Container.Reading

/-!
# Imported modules

An environment is what its additions make of it: a name stands for the container that it
was last given, and the names stand in the order in which they were first given. The name
that a module reference is looked up by is made of the texts at its offsets. Which of them
take part depends on the offsets, whereas names are compared as texts: that different
modules have different names rests on the first colon (`ModuleReference.key_eq_iff`).
-/

namespace ModuleInterface

/-! ## Environments -/

namespace Bindings

variable {κ α : Type} [DecidableEq κ]

/-- A key that is bound keeps its place, and a new one comes last. -/
theorem keys_bind
    (bindings : Bindings κ α)
    (key : κ)
    (value : α) :
    (bindings.bind key value).keys =
      if key ∈ bindings.keys then bindings.keys else bindings.keys ++ [key] := by
  induction bindings with
  | nil => rfl
  | cons entry rest inductionHypothesis =>
      obtain ⟨other, bound⟩ := entry
      have cons : keys ((other, bound) :: rest) = other :: keys rest := rfl
      by_cases same : other = key
      · rw [cons, if_pos (by simp [same]), bind, update, if_pos same]
        rfl
      · have after : keys (bind key value ((other, bound) :: rest)) =
            other :: keys (bind key value rest) := by
          rw [bind, update, if_neg same]
          rfl
        rw [after, inductionHypothesis, cons]
        by_cases listed : key ∈ keys rest
        · rw [if_pos listed, if_pos (List.mem_cons_of_mem _ listed)]
        · rw [if_neg listed, if_neg (by simp [listed, Ne.symm same]), List.cons_append]

end Bindings

namespace Environment

/-- An environment after some additions, the earliest first. -/
def addAll (environment : Environment) (additions : List (String × Nat)) : Environment :=
  additions.foldl (fun known addition => known.add addition.1 addition.2) environment

/-- The environment that some additions make. -/
def ofAdditions (additions : List (String × Nat)) : Environment :=
  empty.addAll additions

/-- The container that a name was last given. -/
def lastAdded? (additions : List (String × Nat)) (name : String) : Option Nat :=
  (additions.filter fun addition => addition.1 = name).getLast?.map (·.2)

theorem addAll_append
    (environment : Environment)
    (earlier later : List (String × Nat)) :
    environment.addAll (earlier ++ later) = (environment.addAll earlier).addAll later :=
  List.foldl_append

theorem lastAdded?_concat
    (additions : List (String × Nat))
    (addition : String × Nat)
    (name : String) :
    lastAdded? (additions ++ [addition]) name =
      if addition.1 = name then some addition.2 else lastAdded? additions name := by
  rw [lastAdded?, List.filter_append]
  by_cases same : addition.1 = name
  · simp [same]
  · simp [same, lastAdded?]

/-- There is a container that a name was last given unless it was given none. -/
theorem lastAdded?_eq_none_iff
    (additions : List (String × Nat))
    (name : String) :
    lastAdded? additions name = none ↔ ∀ container, (name, container) ∉ additions := by
  rw [lastAdded?, Option.map_eq_none_iff, List.getLast?_eq_none_iff, List.filter_eq_nil_iff]
  constructor
  · intro others container given
    exact others _ given (decide_eq_true rfl)
  · rintro absent ⟨_, container⟩ given same
    obtain rfl := of_decide_eq_true same
    exact absent container given

/-- A name stands for the container that it was last given. -/
theorem find?_ofAdditions
    (additions : List (String × Nat))
    (name : String) :
    (ofAdditions additions).find? name = lastAdded? additions name := by
  induction additions using List.reverseRecOn with
  | nil => rfl
  | append_singleton earlier last inductionHypothesis =>
      rw [ofAdditions, addAll_append, ← ofAdditions, lastAdded?_concat, ← inductionHypothesis]
      exact Bindings.find?_bind _ _ _ _

/-- The names stand once each, in the order in which they were first given. -/
theorem names_ofAdditions
    (additions : List (String × Nat)) :
    (ofAdditions additions).names = (additions.map Prod.fst).eraseDups := by
  induction additions using List.reverseRecOn with
  | nil => rfl
  | append_singleton earlier last inductionHypothesis =>
      have bound : (ofAdditions (earlier ++ [last])).names =
          if last.1 ∈ (ofAdditions earlier).names then (ofAdditions earlier).names
          else (ofAdditions earlier).names ++ [last.1] := by
        rw [ofAdditions, addAll_append, ← ofAdditions]
        exact Bindings.keys_bind _ _ _
      rw [bound, inductionHypothesis, List.map_append, List.map_singleton,
        List.eraseDups_append, List.cons_removeAll]
      have listed : (earlier.map Prod.fst).contains last.1 =
          decide (last.1 ∈ earlier.map Prod.fst) := List.contains_eq_mem _ _
      rw [listed]
      by_cases given : last.1 ∈ earlier.map Prod.fst
      · rw [if_pos (List.mem_eraseDups.mpr given)]
        simp [given]
      · rw [if_neg (mt List.mem_eraseDups.mp given)]
        simp [given, List.eraseDups_cons]

end Environment

/-! ## Names of modules -/

namespace ModuleReference

/-- The name that a reference is looked up by, given what the texts are: that of the
partition if there is no owner, and otherwise that of the owner, followed by a colon and
that of the partition if there is one. -/
def key (text : Int → String) (reference : ModuleReference) : String :=
  if reference.owner = 0 then text reference.partition
  else if reference.partition = 0 then text reference.owner
  else text reference.owner ++ ":" ++ text reference.partition

/-- A text without a colon is what stands before the first colon. -/
theorem takeWhile_join
    {first : String}
    (plain : ':' ∉ first.toList)
    (second : String) :
    (first ++ ":" ++ second).toList.takeWhile (· != ':') = first.toList := by
  have joined : (first ++ ":" ++ second).toList = first.toList ++ ':' :: second.toList := by
    rw [String.toList_append, String.toList_append, List.append_assoc]
    rfl
  rw [joined, List.takeWhile_append_of_pos, List.takeWhile_cons_of_neg (by simp),
    List.append_nil]
  intro character member
  rw [bne_iff_ne]
  rintro rfl
  exact plain member

/-- Texts that are joined by a colon are told apart, if there is none in the first ones. -/
theorem join_eq_join_iff
    {first other : String}
    (plain : ':' ∉ first.toList)
    (plainOther : ':' ∉ other.toList)
    (second rest : String) :
    first ++ ":" ++ second = other ++ ":" ++ rest ↔ first = other ∧ second = rest := by
  constructor
  · intro same
    have sameFirst : first = other := by
      rw [← String.toList_inj, ← takeWhile_join plain second, same, takeWhile_join plainOther]
    subst sameFirst
    exact ⟨rfl, (String.append_right_inj _).mp same⟩
  · rintro ⟨rfl, rfl⟩
    rfl

/-- What is joined by a colon has one. -/
theorem join_ne
    {other : String}
    (plain : ':' ∉ other.toList)
    (first second : String) :
    first ++ ":" ++ second ≠ other := by
  rintro rfl
  apply plain
  simp [String.toList_append]

/-- References with owners whose texts have no colon have the same name exactly if the texts
of the owners are the same, and either both have no partition or both have one of the same
text. -/
theorem key_eq_iff
    {text : Int → String}
    {reference other : ModuleReference}
    (owned : reference.owner ≠ 0)
    (ownedOther : other.owner ≠ 0)
    (plain : ':' ∉ (text reference.owner).toList)
    (plainOther : ':' ∉ (text other.owner).toList) :
    reference.key text = other.key text ↔
      text reference.owner = text other.owner ∧
        ((reference.partition = 0 ∧ other.partition = 0) ∨
          (reference.partition ≠ 0 ∧ other.partition ≠ 0 ∧
            text reference.partition = text other.partition)) := by
  rw [key, key, if_neg owned, if_neg ownedOther]
  by_cases whole : reference.partition = 0
  · by_cases wholeOther : other.partition = 0
    · simp [whole, wholeOther]
    · have apart := (join_ne plain (text other.owner) (text other.partition)).symm
      simpa [whole, wholeOther] using apart
  · by_cases wholeOther : other.partition = 0
    · have apart := join_ne plainOther (text reference.owner) (text reference.partition)
      simpa [whole, wholeOther] using apart
    · rw [if_neg whole, if_neg wholeOther, join_eq_join_iff plain plainOther]
      simp [whole, wholeOther]

end ModuleReference

/-! ## Looking up modules -/

namespace Acceptance

/-- The text at an offset of the string table. -/
def textAt (data : List UInt8) (offset : Int) : String :=
  if tableSize data = 0 then ""
  else Utf8.decode (textBytes data (tableStart data + offset.toNat))

end Acceptance

open Acceptance

namespace Query

/-- The texts that a reference names are read one after the other. -/
theorem moduleName_reference
    (reference : ModuleReference) :
    moduleName (.moduleReference reference) =
      if reference.owner = 0 then stringAt reference.partition
      else do
        let name ← stringAt reference.owner
        if reference.partition = 0 then return name
        else return name ++ ":" ++ (← stringAt reference.partition) := by
  have owner : (Value.moduleReference reference).part "owner" =
      .ok (.plain (.text reference.owner)) := rfl
  have partition : (Value.moduleReference reference).part "partition" =
      .ok (.plain (.text reference.partition)) := rfl
  have null : ∀ offset : Int,
      (Value.plain (.text offset)).holds "is_null" = .ok (offset == 0) := by
    intro offset
    rw [← Value.isTrue_boolean]
    rfl
  have text : ∀ offset : Int, textOf (.plain (.text offset)) = stringAt offset := fun _ => rfl
  have answered : ∀ {α β : Type} (value : α) (next : α → Query β),
      (ofExcept (.ok value) >>= next) = next value := fun _ _ => rfl
  simp only [moduleName, owner, partition, null, text, answered, beq_iff_eq]

end Query

namespace Container

/-- An offset is in the string table, or is the first one of an empty table. -/
def InTable (container : Container) (offset : Int) : Prop :=
  (0 ≤ offset ∧ offset < container.header.stringTableSize) ∨
    (container.header.stringTableSize = 0 ∧ offset = 0)

variable {opened container : Container} {data : List UInt8} {backing : Backing}

/-- Every offset in the table has a text. -/
theorem Stores.outcome_stringAt_of_inTable
    (stores : opened.Stores data backing)
    (shared : container.SharesTables opened)
    {offset : Int}
    (inside : container.InTable offset) :
    ((Query.stringAt offset).on container).1 = .ok (textAt data offset) := by
  rw [InTable, shared.header, stores.header, stringTableSize_storedHeader] at inside
  rw [Query.outcome_stringAt, shared.header, stores.header, shared.blob, stores.blob, textAt]
  obtain ⟨nonnegative, below⟩ | ⟨empty, rfl⟩ := inside
  · obtain ⟨place, rfl⟩ := Int.eq_ofNat_of_zero_le nonnegative
    have within : place < tableSize data := by omega
    have filled : tableSize data ≠ 0 := by omega
    rw [Acceptance.tableText_eq backing stores.sized.table within, if_neg filled, Int.toNat_natCast]
  · rw [tableText, stringTableSize_storedHeader, if_pos (by simp [empty]), if_pos empty]

/-- A reference into the table has a name. -/
theorem Stores.outcome_moduleName
    (stores : opened.Stores data backing)
    (shared : container.SharesTables opened)
    {reference : ModuleReference}
    (owner : container.InTable reference.owner)
    (partition : container.InTable reference.partition) :
    ((Query.moduleName (.moduleReference reference)).on container).1 =
      .ok (reference.key (textAt data)) := by
  have ownerText := stores.outcome_stringAt_of_inTable shared owner
  have partitionText := stores.outcome_stringAt_of_inTable shared partition
  rw [Query.moduleName_reference, ModuleReference.key]
  by_cases unowned : reference.owner = 0
  · rw [if_pos unowned, if_pos unowned]
    exact partitionText
  · rw [if_neg unowned, if_neg unowned, (Query.Reads.stringAt _).on_bind, ownerText]
    by_cases whole : reference.partition = 0
    · simp only [if_pos whole]
      rfl
    · simp only [if_neg whole]
      rw [(Query.Reads.stringAt _).on_bind, partitionText]
      rfl

/-- A reference into the table is looked up by its name. -/
theorem Stores.outcome_importedModule
    (stores : opened.Stores data backing)
    (shared : container.SharesTables opened)
    (environment : Environment)
    {reference : ModuleReference}
    (owner : container.InTable reference.owner)
    (partition : container.InTable reference.partition) :
    ((Query.importedModule (some environment) (.moduleReference reference)).on container).1 =
      environment.require (reference.key (textAt data)) := by
  have named := stores.outcome_moduleName shared owner partition
  simp only [Query.importedModule]
  rw [(Query.Reads.moduleName _).on_bind, named]
  simp only [Query.on_bind, Query.on_ofExcept]
  rfl

end Container
end ModuleInterface

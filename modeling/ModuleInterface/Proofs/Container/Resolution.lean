import Mathlib
import ModuleInterface.Container.Resolve
import ModuleInterface.Proofs.Container.Bounds
import ModuleInterface.Proofs.Container.Memory

/-!
# What an index designates

A tagged index is resolved by the specification that is known for its kind and sort, whose
partition has a place that may be remembered. Kind and sort are then those that the
partition is indexed by, so that its check of the key is passed, and what is left to decide
the outcome is the table of contents and the bytes of one element (`resolves`).
-/

namespace ModuleInterface

open Acceptance

/-! ## Specifications by sort -/

/-- The records of a specification are those that an index designates by its sort. -/
def PartitionSpec.Holds (spec : PartitionSpec) (index : TaggedIndex) : Prop :=
  spec.indexKind = .tagged index.kind ∧ spec.sort = some index.sort

namespace Registry

/-- No two specifications are known by the same index kind and sort. -/
def Unambiguous (registry : Registry) : Prop :=
  (registry.sorted.map fun spec => (spec.indexKind, spec.sort)).Nodup

theorem forIndex?_eq_none_iff
    (registry : Registry)
    (index : TaggedIndex) :
    registry.forIndex? index = none ↔ ∀ spec ∈ registry.sorted, ¬spec.Holds index := by
  rw [forIndex?, forSort?, List.find?_eq_none]
  simp only [PartitionSpec.Holds, decide_eq_true_eq]

/-- What is found for an index is known and holds it. -/
theorem holds_of_forIndex?
    {registry : Registry}
    {index : TaggedIndex}
    {spec : PartitionSpec}
    (found : registry.forIndex? index = some spec) :
    spec ∈ registry.sorted ∧ spec.Holds index := by
  refine ⟨List.mem_of_find?_eq_some found, ?_⟩
  simpa [PartitionSpec.Holds] using List.find?_some found

/-- The specification that is found for an index is the only one that holds it. -/
theorem Unambiguous.forIndex?_eq_some_iff
    {registry : Registry}
    (unambiguous : registry.Unambiguous)
    (index : TaggedIndex)
    (spec : PartitionSpec) :
    registry.forIndex? index = some spec ↔ spec ∈ registry.sorted ∧ spec.Holds index := by
  refine ⟨holds_of_forIndex?, ?_⟩
  rintro ⟨member, holds⟩
  cases found : registry.forIndex? index with
  | none => exact absurd holds ((registry.forIndex?_eq_none_iff index).mp found spec member)
  | some other =>
      obtain ⟨otherMember, otherHolds⟩ := holds_of_forIndex? found
      have sameKey : (other.indexKind, other.sort) = (spec.indexKind, spec.sort) :=
        Prod.ext (otherHolds.1.trans holds.1.symm) (otherHolds.2.trans holds.2.symm)
      rw [List.inj_on_of_nodup_map unambiguous otherMember member sameKey]

end Registry

/-! ## Elements by index -/

/-- A view is asked for an element by an index of its kind and sort. -/
theorem View.get_tagged
    {view : View}
    {index : TaggedIndex}
    (holds : view.spec.Holds index)
    (blob : Blob) :
    view.get blob (.tagged index) =
      if index.position < view.count then view.read blob index.position
      else .error (.positionOutside index.position view.name view.count) := by
  have position : view.position (.tagged index) = .ok (index.position : Int) := by
    simp [View.position, View.taggedPosition, View.requireSort, holds.1, holds.2]
  by_cases bound : index.position < view.count
  · simp [View.get, position, bound]
  · simp [View.get, position, bound]

/-- No element is null. -/
theorem Element.read_ne_null
    (element : Element)
    (bytes : List UInt8) :
    element.read bytes ≠ .ok .null := by
  cases element with
  | record schema =>
      simp only [read, Schema.read]
      split
      · simp [Schema.decode]
      · simp
  | index kind =>
      cases kind with
      | tagged kind => simp [read, decode, IndexKind.ofWord]
      | plain kind => simp [read, decode, IndexKind.ofWord]
      | anyTagged => simp [read, IndexKind.refusal?]
  | sequence => simp [read, decode, Sequence.value]

/-- Reading an element does not fail in any other way. -/
theorem Element.not_refused_as
    {element : Element}
    {bytes : List UInt8}
    {kind : FaultKind}
    (apart : kind ≠ .badValue ∧ kind ≠ .wrongType ∧ kind ≠ .memberAbsent) :
    ¬∃ fault, element.read bytes = .error fault ∧ fault.kind = kind := by
  rintro ⟨fault, failed, rfl⟩
  obtain value | type | member := Fault.kind_of_isRefusal (isRefusal_of_read failed)
  · exact apart.1 value
  · exact apart.2.1 type
  · exact apart.2.2 member

namespace Query

/-- An index is resolved by the specification that is known for it, wherever its partition
is remembered to be. -/
theorem on_resolveIndex
    {made : List PartitionSpec}
    {registry : Registry}
    (known : ∀ spec ∈ registry.sorted, spec.MadeIn made)
    {container : Container}
    (remembers : container.Remembers made)
    (index : TaggedIndex) :
    ((resolveIndex registry index).on container).1 =
      if index.isNull then .ok .null
      else
        match registry.forIndex? index with
        | none => .error (.unknownSort index.render index.sort)
        | some spec =>
            (container.requirePartition spec spec.name >>= fun view =>
              view.get container.blob (.tagged index)) := by
  unfold resolveIndex
  by_cases null : index.isNull
  · rw [if_pos null, if_pos null]
    rfl
  · rw [if_neg null, if_neg null]
    cases found : registry.forIndex? index with
    | none => rfl
    | some spec =>
        have own : spec.MadeIn made := known spec (List.mem_of_find?_eq_some found)
        obtain ⟨answered, tables, _⟩ := on_partition remembers own
        change ((partition spec >>= fun view => element view (.tagged index)).on container).1 =
          (container.requirePartition spec spec.name >>= fun view =>
            view.get container.blob (.tagged index))
        rw [on_bind]
        generalize (partition spec).on container = ran at answered tables
        obtain ⟨outcome, after⟩ := ran
        simp only at answered tables
        subst answered
        have blob : after.blob = container.blob :=
          (Container.SharesTables.of_bare tables).blob
        cases container.requirePartition spec spec.name with
        | error fault => rfl
        | ok view =>
            change ((ofExcept (view.get after.blob (.tagged index)) : Query Value).on after).1 = _
            rw [on_ofExcept, blob]
            rfl

end Query

namespace Container

/-- What comes of resolving an index by a specification that holds it. -/
structure Resolves (container : Container) (spec : PartitionSpec) (index : TaggedIndex)
    (outcome : Except Fault Value) : Prop where
  /-- The partition is missing when the table of contents has no entry of its name. -/
  missing : (∃ fault, outcome = .error fault ∧ fault.kind = .reader .missingPartition) ↔
    spec.name ∉ container.contents.keys
  /-- The entry disagrees when its elements have another size. -/
  disagrees : (∃ fault, outcome = .error fault ∧ fault.kind = .reader .schemaMismatch) ↔
    ∃ summary, container.summary? spec.name = some summary ∧
      summary.entrySize ≠ spec.element.size
  /-- The position is outside when the partition has no more elements. -/
  outside : (∃ fault, outcome = .error fault ∧ fault.kind = .outOfRange) ↔
    ∃ summary, container.summary? spec.name = some summary ∧
      summary.entrySize = spec.element.size ∧ summary.cardinality ≤ index.position
  /-- Otherwise the outcome is that of reading the bytes of the element, which are bytes of
  the partition. -/
  inside : ∀ summary, container.summary? spec.name = some summary →
    summary.entrySize = spec.element.size → index.position < summary.cardinality →
      summary.offset + index.position * spec.element.size + spec.element.size ≤ summary.stop ∧
      summary.stop ≤ container.blob.bytes.toList.length ∧
      outcome = spec.element.read
        ((container.blob.bytes.toList.drop
          (summary.offset + index.position * spec.element.size)).take spec.element.size) ∧
      ∀ fault, outcome = .error fault → fault.isRefusal ∧ ¬spec.element.isTotal
  /-- There are no other faults. -/
  faults : ∀ fault, outcome = .error fault →
    fault.kind = .reader .missingPartition ∨ fault.kind = .reader .schemaMismatch ∨
      fault.kind = .outOfRange ∨ fault.isRefusal

/-- An index that a specification holds does not designate nothing. -/
theorem Resolves.ne_null
    {container : Container}
    {spec : PartitionSpec}
    {index : TaggedIndex}
    {outcome : Except Fault Value}
    (resolves : container.Resolves spec index outcome) :
    outcome ≠ .ok .null := by
  rintro rfl
  cases found : container.summary? spec.name with
  | none =>
      obtain ⟨_, failed, _⟩ :=
        resolves.missing.mpr ((summary?_eq_none_iff container spec.name).mp found)
      contradiction
  | some summary =>
      by_cases agree : summary.entrySize = spec.element.size
      · by_cases bound : index.position < summary.cardinality
        · obtain ⟨_, _, read, _⟩ := resolves.inside summary found agree bound
          exact Element.read_ne_null _ _ read.symm
        · obtain ⟨_, failed, _⟩ :=
            resolves.outside.mpr ⟨summary, found, agree, Nat.not_lt.mp bound⟩
          contradiction
      · obtain ⟨_, failed, _⟩ := resolves.disagrees.mpr ⟨summary, found, agree⟩
        contradiction

/-- An index that a specification holds has a known sort, and is a key of the partition; no
bytes of its element are missing. -/
theorem Resolves.fault_apart
    {container : Container}
    {spec : PartitionSpec}
    {index : TaggedIndex}
    {outcome : Except Fault Value}
    (resolves : container.Resolves spec index outcome)
    {fault : Fault}
    (failed : outcome = .error fault) :
    fault.kind ≠ .reader .unsupportedSort ∧
      (∀ partition expected found, fault ≠ .wrongKeyKind partition expected found) ∧
      (∀ partition sort key, fault ≠ .wrongKeySort partition sort key) ∧
      fault ≠ .layoutViolated := by
  have faults := resolves.faults fault failed
  refine ⟨fun unsupported => ?_, ?_, ?_, ?_⟩
  · rw [unsupported] at faults
    obtain missing | disagrees | outside | refusal := faults
    · contradiction
    · contradiction
    · contradiction
    · have kinds := Fault.kind_of_isRefusal refusal
      rw [unsupported] at kinds
      simp at kinds
  · rintro partition expected found rfl
    simp [Fault.kind, Fault.isRefusal] at faults
  · rintro partition sort key rfl
    simp [Fault.kind, Fault.isRefusal] at faults
  · rintro rfl
    simp [Fault.kind, Fault.isRefusal] at faults

variable {container opened : Container} {data : List UInt8} {backing : Backing}

/-- The element that an index designates is read from its bytes, when the table of contents
has the partition, its elements have their size, and there are enough of them. -/
theorem requirePartition_get
    (stores : opened.Stores data backing)
    (shared : container.SharesTables opened)
    {spec : PartitionSpec}
    {index : TaggedIndex}
    (holds : spec.Holds index)
    {summary : Summary}
    (found : container.summary? spec.name = some summary)
    (agree : summary.entrySize = spec.element.size) :
    summary.stop ≤ data.length ∧
    (index.position < summary.cardinality →
      summary.offset + index.position * spec.element.size + spec.element.size ≤ summary.stop) ∧
    (container.requirePartition spec spec.name >>= fun view =>
        view.get container.blob (.tagged index)) =
      if index.position < summary.cardinality then
        spec.element.read ((data.drop
          (summary.offset + index.position * spec.element.size)).take spec.element.size)
      else .error (.positionOutside index.position spec.name summary.cardinality) := by
  obtain ⟨fits, inside⟩ := inside_of_summary? stores shared found agree
  have located : container.requirePartition spec spec.name =
      .ok ⟨spec, spec.name, summary.offset, summary.cardinality⟩ := by
    rw [requirePartition, findPartition_of_summary? spec found, if_pos agree]
  refine ⟨fits, fun bound => (inside.offsetOf bound).2, ?_⟩
  rw [located, Fallible.ok_bind, View.get_tagged holds, shared.blob, stores.blob]
  by_cases bound : index.position < summary.cardinality
  · rw [if_pos bound, if_pos bound, inside.read fits backing bound]
    rfl
  · rw [if_neg bound, if_neg bound]

/-- An index is resolved by what the table of contents has under the name of its
specification. -/
theorem resolves
    (stores : opened.Stores data backing)
    (shared : container.SharesTables opened)
    {spec : PartitionSpec}
    {index : TaggedIndex}
    (holds : spec.Holds index) :
    container.Resolves spec index
      (container.requirePartition spec spec.name >>= fun view =>
        view.get container.blob (.tagged index)) := by
  have bytes : container.blob.bytes.toList = data := by
    rw [shared.blob, stores.blob]
    rfl
  cases found : container.summary? spec.name with
  | none =>
      have absent : spec.name ∉ container.contents.keys :=
        (summary?_eq_none_iff container spec.name).mp found
      have outcome : container.requirePartition spec spec.name =
          .error (.partitionAbsent spec.name) := by
        rw [requirePartition, (findPartition_eq_none_iff container spec spec.name).mpr found]
      rw [outcome, Fallible.error_bind]
      constructor <;> simp [Fault.kind, found, absent]
  | some summary =>
      have listed : ¬spec.name ∉ container.contents.keys := by
        rw [← summary?_eq_none_iff, found]
        simp
      by_cases agree : summary.entrySize = spec.element.size
      · obtain ⟨fits, within, outcome⟩ := requirePartition_get stores shared holds found agree
        rw [outcome]
        by_cases bound : index.position < summary.cardinality
        · rw [if_pos bound]
          refine ⟨?_, ?_, ?_, ?_, fun fault failed => ?_⟩
          · exact iff_of_false (Element.not_refused_as (by decide)) listed
          · refine iff_of_false (Element.not_refused_as (by decide)) ?_
            rintro ⟨other, same, disagrees⟩
            rw [found, Option.some.injEq] at same
            exact disagrees (same ▸ agree)
          · refine iff_of_false (Element.not_refused_as (by decide)) ?_
            rintro ⟨other, same, _, beyond⟩
            rw [found, Option.some.injEq] at same
            exact absurd bound (Nat.not_lt.mpr (same ▸ beyond))
          · intro other same _ _
            rw [found, Option.some.injEq] at same
            subst same
            rw [bytes]
            refine ⟨within bound, fits, rfl, fun fault failed => ?_⟩
            refine ⟨Element.isRefusal_of_read failed, fun total => ?_⟩
            rw [Element.read_of_isTotal total] at failed
            contradiction
          · exact .inr (.inr (.inr (Element.isRefusal_of_read failed)))
        · rw [if_neg bound]
          constructor <;> simp [Fault.kind, found, listed, agree, Nat.not_lt.mp bound]
      · have outcome : container.requirePartition spec spec.name =
            .error (.elementSizeDisagrees spec.name spec.element.label spec.element.size
              summary.entrySize) := by
          rw [requirePartition, findPartition_of_summary? spec found, if_neg agree]
        rw [outcome, Fallible.error_bind]
        constructor <;> simp [Fault.kind, found, listed, agree]

end Container
end ModuleInterface

import Mathlib
import ModuleInterface.Container.Navigate
import ModuleInterface.Proofs.Container.Answers
import ModuleInterface.Proofs.Container.Keys
import ModuleInterface.Proofs.Index.Encoding
import ModuleInterface.Proofs.Registry

/-!
# Walking between partitions agrees with resolving

Some queries go to a partition of the format by its specification, where resolving finds the
specification by the sort of an index. The registry keeps what it knows of the format, so that
both go the same way, in what they answer, in how they fail and in what they remember
(`Registry.Extends.walksAsResolves`). A range of a heap is resolved entry by entry, as if each
entry were resolved alone (`Query.outcome_resolveHeap`).
-/

namespace ModuleInterface

/-! ## Heaps -/

/-- What the entries of a range of a heap designate: the heap is located, the range is cut from
it and listed, and each entry is resolved alone. -/
def Container.resolveEach
    (container : Container)
    (registry : Registry)
    (heap : PartitionSpec)
    (range : Value) :
    Except Fault (List Value) := do
  let view ← ((Query.partition heap).on container).1
  let part ← view.sliceOf range
  let entries ← part.list container.blob
  entries.mapM fun entry => ((Query.resolve registry entry).on container).1

namespace Query

variable {made : List PartitionSpec} {registry : Registry} {container : Container}

/-- Steady queries are so together. -/
theorem Steady.bind
    {α β : Type}
    {first : Query α}
    {next : α → Query β}
    (steadyFirst : Steady made first)
    (steadyNext : ∀ value, Steady made (next value)) :
    Steady made (first >>= next) :=
  .of_respects fun tables =>
    (steadyFirst.respects tables).bind fun value => (steadyNext value).respects tables

/-- What follows on a partition follows on the one that the table of contents has. -/
theorem outcome_partition_bind
    (remembers : container.Remembers made)
    {spec : PartitionSpec}
    (own : spec.MadeIn made)
    {α : Type}
    {next : View → Query α}
    (steady : ∀ view, Steady made (next view)) :
    ((partition spec >>= next).on container).1 =
      container.requirePartition spec spec.name >>= fun view =>
        ((next view).on container).1 := by
  rw [(Steady.partition own).outcome_bind steady remembers, (on_partition remembers own).1]

theorem Steady.resolve
    (known : ∀ spec ∈ registry.sorted, spec.MadeIn made)
    (value : Value) :
    Steady made (Query.resolve registry value) :=
  .of_respects fun tables => .resolve (Comparison.lawful_memory made tables) known value

/-- What is resolved first stands before what is resolved after it. -/
theorem Steady.resolveEntries_cons
    (known : ∀ spec ∈ registry.sorted, spec.MadeIn made)
    (view : View)
    (count position : Nat)
    (record : Value) :
    Steady made ((record :: ·) <$> Query.resolveEntries registry view count position) := by
  have entries : Steady made (Query.resolveEntries registry view count position) :=
    .of_respects fun tables =>
      .resolveEntries (Comparison.lawful_memory made tables) known view count position
  rw [map_eq_pure_bind]
  exact entries.bind fun _ => (Reads.pure _).steady

/-- Entries that can be read are resolved one after another, each as if it were resolved
alone. -/
theorem outcome_resolveEntries
    (known : ∀ spec ∈ registry.sorted, spec.MadeIn made)
    (remembers : container.Remembers made)
    {view : View}
    {count position : Nat}
    {entries : List Value}
    (listed : view.readFrom container.blob count position = .ok entries) :
    ((resolveEntries registry view count position).on container).1 =
      entries.mapM fun entry => ((resolve registry entry).on container).1 := by
  -- Entries are resolved before the next one is read. As all of them can be read, and resolving
  -- one leaves what the others are resolved to, this is the same as reading them all first.
  induction count generalizing position entries with
  | zero =>
      cases listed
      rfl
  | succ remaining inductionHypothesis =>
      obtain ⟨entry, read, following⟩ := Fallible.bind_eq_ok.mp listed
      obtain ⟨rest, others, together⟩ := Fallible.bind_eq_ok.mp following
      cases together
      have first : (resolveEntries registry view (remaining + 1) position).on container =
          (resolve registry entry >>= fun record =>
            (record :: ·) <$> resolveEntries registry view remaining (position + 1)).on
              container := by
        rw [resolveEntries, on_get_bind, on_ofExcept_bind_of_ok read]
        simp only [map_eq_pure_bind]
      rw [first, (Steady.resolve known entry).outcome_bind
        (Steady.resolveEntries_cons known view remaining (position + 1)) remembers,
        List.mapM_cons]
      refine bind_congr fun record => ?_
      rw [on_map, inductionHypothesis others]
      rfl

/-- A range of a heap whose entries can be read is resolved entry by entry, once the heap is
found and the range is cut from it. -/
theorem outcome_resolveHeap
    (known : ∀ spec ∈ registry.sorted, spec.MadeIn made)
    (remembers : container.Remembers made)
    {spec : PartitionSpec}
    (own : spec.MadeIn made)
    {range : Value}
    (nonempty : range.holds "is_empty" = .ok false)
    (listed : ∀ view part, container.requirePartition spec spec.name = .ok view →
      view.sliceOf range = .ok part → ∃ entries, part.list container.blob = .ok entries) :
    ((resolveHeap registry (.spec spec) range).on container).1 =
      container.resolveEach registry spec range := by
  have cuts : ∀ view : View, Steady made (ofExcept (view.sliceOf range) >>= fun part =>
      resolveEntries registry part part.count 0) := by
    intro view
    exact .of_respects fun tables => (Respects.ofOutcome _).bind fun part =>
      .resolveEntries (Comparison.lawful_memory made tables) known part part.count 0
  have heap : (resolveHeap registry (.spec spec) range).on container =
      (partition spec >>= fun view => ofExcept (view.sliceOf range) >>= fun part =>
        resolveEntries registry part part.count 0).on container := by
    rw [resolveHeap, on_ofExcept_bind_of_ok nonempty]
    rfl
  rw [heap, outcome_partition_bind remembers own cuts, Container.resolveEach,
    (on_partition remembers own).1]
  cases found : container.requirePartition spec spec.name with
  | error fault => rfl
  | ok view =>
      rw [Fallible.ok_bind, Fallible.ok_bind, on_bind, on_ofExcept]
      cases cut : view.sliceOf range with
      | error fault => rfl
      | ok part =>
          obtain ⟨entries, read⟩ := listed view part found cut
          rw [Fallible.ok_bind, read, Fallible.ok_bind]
          exact outcome_resolveEntries known remembers read

end Query

namespace Container

variable {container opened : Container} {data : List UInt8} {backing : Backing}

/-- What is required is found. -/
theorem findPartition_of_requirePartition
    {spec : PartitionSpec}
    {name : String}
    {view : View}
    (located : container.requirePartition spec name = .ok view) :
    container.findPartition spec name = .ok (some view) := by
  rw [requirePartition] at located
  split at located
  case h_1 found outcome => rw [outcome, Except.ok.inj located]
  case h_2 absent => contradiction
  case h_3 fault failed => contradiction

/-- Where a range is cut from a partition of indices, its entries are indices of the kind. -/
theorem exists_indices
    (stores : opened.Stores data backing)
    (shared : container.SharesTables opened)
    {spec : PartitionSpec}
    {kind : TaggedKind}
    (entries : spec.element = .index (.tagged kind))
    {view part : View}
    (located : container.requirePartition spec spec.name = .ok view)
    {range : Value}
    (cut : view.sliceOf range = .ok part) :
    ∃ indices : List TaggedIndex, part.list container.blob = .ok (indices.map .tagged) ∧
      ∀ index ∈ indices, index.kind = kind := by
  obtain ⟨summary, sameSpec, faithful⟩ := stores.faithful_of_reaches shared
    (findPartition_of_requirePartition located) (.slice .refl cut)
  have element : part.spec.element = .index (.tagged kind) := by rw [sameSpec, entries]
  have total : part.spec.element.isTotal := by
    rw [element]
    rfl
  refine ⟨(List.range part.count).map fun position => TaggedIndex.ofWord kind
    (LittleEndian.decode (((data.drop (part.base + position * part.spec.element.size)).take
      part.spec.element.size).take 4)), ?_, ?_⟩
  · rw [shared.blob, stores.blob, faithful.listed, List.map_map]
    refine Fallible.mapM_eq_ok_map fun position listed => ?_
    rw [faithful.own position (List.mem_range.mp listed), Element.read_of_isTotal total]
    simp only [element, Element.decode, IndexKind.ofWord, Function.comp_apply]
  · intro index listed
    obtain ⟨_, _, rfl⟩ := List.mem_map.mp listed
    rfl

/-- A range of a heap of indices is resolved entry by entry. -/
structure ResolvesEach
    (container : Container)
    (registry : Registry)
    (heap : PartitionSpec)
    (kind : TaggedKind)
    (range : Value) :
    Prop where
  outcome : ((Query.resolveHeap registry (.spec heap) range).on container).1 =
    container.resolveEach registry heap range
  /-- The entries are all there, so that nothing fails but the heap, the range or what an entry
  designates. -/
  indices : ∀ view part, ((Query.partition heap).on container).1 = .ok view →
    view.sliceOf range = .ok part →
    ∃ indices : List TaggedIndex, part.list container.blob = .ok (indices.map .tagged) ∧
      ∀ index ∈ indices, index.kind = kind
  /-- The first entry that is not resolved decides how it fails. -/
  failing : ∀ view part before entry after fault,
    ((Query.partition heap).on container).1 = .ok view → view.sliceOf range = .ok part →
    part.list container.blob = .ok (before ++ entry :: after) →
    (∀ earlier ∈ before, ∃ record,
      ((Query.resolve registry earlier).on container).1 = .ok record) →
    ((Query.resolve registry entry).on container).1 = .error fault →
    ((Query.resolveHeap registry (.spec heap) range).on container).1 = .error fault

/-- The entries of a heap of indices can be read, so that each of them can be resolved. -/
theorem Stores.resolvesEach
    (stores : opened.Stores data backing)
    (shared : container.SharesTables opened)
    {made : List PartitionSpec}
    {registry : Registry}
    (known : ∀ spec ∈ registry.sorted, spec.MadeIn made)
    (remembers : container.Remembers made)
    {heap : PartitionSpec}
    (own : heap.MadeIn made)
    {kind : TaggedKind}
    (entries : heap.element = .index (.tagged kind))
    {range : Value}
    (nonempty : range.holds "is_empty" = .ok false) :
    container.ResolvesEach registry heap kind range := by
  have outcome : ((Query.resolveHeap registry (.spec heap) range).on container).1 =
      container.resolveEach registry heap range := by
    refine Query.outcome_resolveHeap known remembers own nonempty fun view part located cut => ?_
    obtain ⟨indices, listed, _⟩ := exists_indices stores shared entries located cut
    exact ⟨_, listed⟩
  refine ⟨outcome, fun view part located cut => ?_, ?_⟩
  · rw [(Query.on_partition remembers own).1] at located
    exact exists_indices stores shared entries located cut
  · intro view part before entry after fault located cut listed resolved failed
    rw [outcome, resolveEach, located, Fallible.ok_bind, cut, Fallible.ok_bind, listed,
      Fallible.ok_bind]
    exact Fallible.mapM_append_cons_eq_error resolved failed

end Container

/-! ## Partitions of the format -/

/-- The specifications that queries rely on are known by their sorts. -/
theorem Catalogue.forSort?_of_mem_standard :
    ∀ spec ∈ standard, ∀ sort ∈ spec.sort,
      registry.forSort? spec.indexKind sort = some spec := by
  intro spec member sort sorted
  fin_cases member <;> cases sorted <;> rfl

/-- No element is at a floating-point position. -/
theorem View.exists_error_of_floating
    (view : View)
    (blob : Blob)
    (index : FloatingIndex) :
    ∃ fault, view.get blob (.floating index) = .error fault := by
  rw [get]
  split
  case isTrue included =>
    rw [getFloating]
    cases view.requireSort index.sort index.render with
    | error fault => exact ⟨fault, rfl⟩
    | ok _ =>
        rw [Fallible.ok_bind]
        split
        case isTrue below =>
          cases blob.access with
          | error fault => exact ⟨fault, rfl⟩
          | ok bytes => exact ⟨_, rfl⟩
        case isFalse beyond => exact ⟨_, rfl⟩
  case isFalse other => exact ⟨_, rfl⟩

/-- Queries that walk between partitions go where resolving goes. -/
structure Registry.WalksAsResolves (registry : Registry) : Prop where
  /-- The declaration of a scope is what its index designates. -/
  scopeOf : ∀ declaration : TaggedIndex, declaration.kind = .decl →
    Enumeration.declSort.numberOf? "SCOPE" = some declaration.sort →
    Query.scopeOf (.tagged declaration) = Query.resolve registry (.tagged declaration)
  /-- The kind of a scope is the basis of the fundamental type that its type designates. -/
  kindOf : ∀ (scope : Value) (type : TaggedIndex), scope.field "type" = .tagged type →
    type.kind = .type → Enumeration.typeSort.numberOf? "FUNDAMENTAL" = some type.sort →
    Query.kindOf scope = do
      return (← Query.resolve registry (.tagged type)).field "basis"
  /-- The parts of a qualified name are the elements of the tuple that it names. -/
  parts : ∀ (name : Value) (elements : TaggedIndex), name.field "elements" = .tagged elements →
    elements.kind = .expr → Enumeration.exprSort.numberOf? "TUPLE" = some elements.sort →
    Query.qualifiedNameParts name = do
      Query.tupleElements (← Query.resolve registry (.tagged elements))
  /-- A qualified name of anything else has no parts, whatever a container holds. -/
  refused : ∀ (name : Value) (elements : TaggedIndex),
    name.field "elements" = .tagged elements →
    Enumeration.exprSort.numberOf? "TUPLE" ≠ some elements.sort →
    ∃ fault, fault.shown.kind = .badValue ∧ ∀ container,
      (Query.qualifiedNameParts name).on container = (.error fault, container)
  /-- An index with a floating-point position designates nothing in either way. Resolving it
  fails before any partition is looked for. -/
  floating : ∀ (index : FloatingIndex) (container : Container),
    (∃ fault, fault.shown.kind = .wrongType ∧
      (Query.resolve registry (.floating index)).on container = (.error fault, container)) ∧
    ∃ fault, ((Query.scopeOf (.floating index)).on container).1 = .error fault

namespace Registry.Extends

variable {registry : Registry}

/-- An index of the sort of one of these specifications is resolved in its partition. -/
theorem resolve_eq
    (grown : registry.Extends Catalogue.registry)
    {spec : PartitionSpec}
    (member : spec ∈ Catalogue.standard)
    {index : TaggedIndex}
    (holds : spec.Holds index)
    (notNull : index.sort ≠ 0) :
    Query.resolve registry (.tagged index) =
      Query.partition spec >>= fun view => Query.element view (.tagged index) := by
  have known : registry.forIndex? index = some spec := by
    have found := Catalogue.forSort?_of_mem_standard spec member index.sort holds.2
    rw [holds.1] at found
    exact grown.forSort?_eq found
  have designates : index.isNull = false := by
    rw [TaggedIndex.isNull, beq_eq_false_iff_ne]
    exact fun null => notNull (index.raw_eq_zero_iff.mp null).1
  simp only [Query.resolve, Query.resolveIndex, designates, known, Bool.false_eq_true, if_false]

/-- A registry that knows the format has these queries go where resolving goes. -/
theorem walksAsResolves
    (grown : registry.Extends Catalogue.registry) :
    registry.WalksAsResolves where
  scopeOf declaration kind sorted := by
    have sort : declaration.sort = 6 := (Option.some.inj sorted).symm
    have holds : Catalogue.declScope.Holds declaration := by
      rw [PartitionSpec.Holds, kind, sort]
      exact ⟨rfl, rfl⟩
    rw [grown.resolve_eq (by simp [Catalogue.standard]) holds (by omega)]
    rfl
  kindOf scope type typed kind sorted := by
    have sort : type.sort = 1 := (Option.some.inj sorted).symm
    have holds : Catalogue.typeFundamental.Holds type := by
      rw [PartitionSpec.Holds, kind, sort]
      exact ⟨rfl, rfl⟩
    rw [grown.resolve_eq (by simp [Catalogue.standard]) holds (by omega), Query.kindOf, typed,
      bind_assoc]
  parts name elements named kind sorted := by
    have sort : elements.sort = 51 := (Option.some.inj sorted).symm
    have holds : Catalogue.exprTuple.Holds elements := by
      rw [PartitionSpec.Holds, kind, sort]
      exact ⟨rfl, rfl⟩
    rw [grown.resolve_eq (by simp [Catalogue.standard]) holds (by omega),
      Query.qualifiedNameParts, named, bind_assoc]
    exact if_pos sort
  refused name elements named unsorted := by
    have other : elements.sort ≠ Query.tupleSort := fun sort => unsorted (sort ▸ rfl)
    refine ⟨.partsNotTuple elements, rfl, fun container => ?_⟩
    rw [Query.qualifiedNameParts, named]
    simp only [if_neg other]
    rfl
  floating index container := by
    refine ⟨⟨.notShifted (Value.float64 index.position).typeName, rfl, rfl⟩, ?_⟩
    rw [Query.scopeOf, Query.on_bind]
    split
    case h_1 view after located =>
      rw [Query.on_element]
      exact view.exists_error_of_floating after.blob index
    case h_2 fault after located => exact ⟨fault, rfl⟩

end Registry.Extends
end ModuleInterface

import ModuleInterface.Schema

/-!
# Partition specifications and the registry

A specification says what a partition of a given name consists of and how it is
indexed. Each has a slot number of its own, handed out in order, which tells it
from every other specification. The registry knows specifications by name, and
by index kind and sort; the second is what turns a tagged index into a record.
-/

namespace ModuleInterface

/-- What a partition consists of and how it is indexed. -/
structure PartitionSpec where
  name : String
  element : Element
  indexKind : IndexKind
  sort : Option Nat
  slot : Nat
  deriving Repr

namespace PartitionSpec

/-- The number of bytes of an element. -/
def entrySize (spec : PartitionSpec) : Nat :=
  spec.element.size

/-- A sort number with its name in the enumeration of the index kind. -/
def describeSort (kind : IndexKind) (sort : Nat) : String :=
  match kind with
  | .tagged kind => kind.sorts.describe sort
  | _ => toString sort

/-- A specification as it is printed. -/
def render (spec : PartitionSpec) : String :=
  s!"PartitionSpec({Quoted.render spec.name}, {spec.element.label}, slot={spec.slot})"

end PartitionSpec

/-- The known specifications, by name and by sort. -/
structure Registry where
  /-- The specifications that are known by name, in the order of registration. -/
  named : List PartitionSpec
  /-- The specifications that are known by index kind and sort. -/
  sorted : List PartitionSpec
  /-- The slot of the next specification. -/
  nextSlot : Nat
  deriving Repr

namespace Registry

/-- The specification of a name. -/
def forName? (registry : Registry) (name : String) : Option PartitionSpec :=
  registry.named.find? fun spec => spec.name = name

/-- The specification of an index kind and a sort. -/
def forSort? (registry : Registry) (kind : IndexKind) (sort : Nat) :
    Option PartitionSpec :=
  registry.sorted.find? fun spec => spec.indexKind = kind ∧ spec.sort = some sort

/-- The specification whose records an index designates. -/
def forIndex? (registry : Registry) (index : TaggedIndex) : Option PartitionSpec :=
  registry.forSort? (.tagged index.kind) index.sort

/-- A new specification, which takes the next slot and is not registered. -/
def create (registry : Registry) (name : String) (element : Element)
    (indexKind : IndexKind) (sort : Option Nat) : PartitionSpec × Registry :=
  (⟨name, element, indexKind, sort, registry.nextSlot⟩,
    { registry with nextSlot := registry.nextSlot + 1 })

/-- Make a specification known by its name. It fails when the name belongs to
another specification. -/
def registerName (registry : Registry) (spec : PartitionSpec) : Except Fault Registry :=
  match registry.forName? spec.name with
  | none => .ok { registry with named := registry.named ++ [spec] }
  | some holder =>
      if holder.slot = spec.slot then .ok registry else .error (.nameTaken spec.name)

/-- Make a specification known by its sort, if it has one. It fails when the
sort belongs to another specification. -/
def registerSort (registry : Registry) (spec : PartitionSpec) : Except Fault Registry :=
  match spec.sort with
  | none => .ok registry
  | some sort =>
      match registry.forSort? spec.indexKind sort with
      | none => .ok { registry with sorted := registry.sorted ++ [spec] }
      | some holder =>
          if holder.slot = spec.slot then .ok registry
          else
            .error <| .sortTaken spec.indexKind.label
              (PartitionSpec.describeSort spec.indexKind sort) holder.name

/-- Register a specification, first by name and then by sort. The name stays
registered when the sort is refused. -/
def register (registry : Registry) (spec : PartitionSpec) :
    Except Fault Unit × Registry :=
  match registry.registerName spec with
  | .error fault => (.error fault, registry)
  | .ok known =>
      match known.registerSort spec with
      | .error fault => (.error fault, known)
      | .ok complete => (.ok (), complete)

/-- The registered specifications by slot. -/
def bySlot (registry : Registry) : List PartitionSpec :=
  registry.named.mergeSort fun left right => left.slot ≤ right.slot

/-- The least number that exceeds every registered slot. -/
def slotCount (registry : Registry) : Nat :=
  registry.named.foldl (fun count spec => max count (spec.slot + 1)) 0

end Registry
end ModuleInterface

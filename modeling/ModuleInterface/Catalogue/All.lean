import ModuleInterface.Catalogue.Attributes
import ModuleInterface.Catalogue.Declarations
import ModuleInterface.Catalogue.Expressions
import ModuleInterface.Catalogue.SyntaxTrees

/-!
# The catalogue

Every partition of the format, in the order of the slots, and the registry that
knows them all. No two share a name, and no two share an index kind and a sort.
-/

namespace ModuleInterface
namespace Catalogue

/-- Every partition of the format, in the order of the slots. -/
def entries : List Entry :=
  attributes ++ constants ++ declarations ++ expressions ++ heaps ++ names ++
    syntaxTrees ++ associations ++ types

/-- The specification of an entry at a slot. -/
def Entry.spec (entry : Entry) (slot : Nat) : PartitionSpec :=
  ⟨entry.name, entry.element, entry.indexKind, entry.sort, slot⟩

/-- The specifications of the format. -/
def specs : List PartitionSpec :=
  entries.zipIdx.map fun (entry, slot) => entry.spec slot

/-- The records that belong to no partition of their own. -/
def looseSchemas : List Schema :=
  [word, noexceptSpecification, parameterizedEntity]

/-- The registry that knows the partitions of the format. -/
def registry : Registry where
  named := specs
  sorted := specs.filter fun spec => spec.sort.isSome
  nextSlot := specs.length

end Catalogue
end ModuleInterface

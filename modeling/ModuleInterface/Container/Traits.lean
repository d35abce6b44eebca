import ModuleInterface.Catalogue.Standard
import ModuleInterface.Container.Locate
import ModuleInterface.Value.Key

/-!
# Traits of declarations

Association partitions attach attributes, deprecation texts, friends and
specializations to declarations. Each is gathered into a table when it is first
asked for. A declaration may have any number of attributes, which come from two
partitions in turn; of the other traits it has at most one, that of its last
record. A table that cannot be gathered is not kept.
-/

namespace ModuleInterface
namespace SingleTrait

/-- The partition that a trait is gathered from. -/
def spec : SingleTrait → PartitionSpec
  | .deprecation => Catalogue.traitDeprecated
  | .friendship => Catalogue.traitFriend
  | .specialization => Catalogue.traitSpecialization

/-- The trait of a declaration that has none. -/
def absent : SingleTrait → Value
  | .deprecation => .plain (.text 0)
  | .friendship => Sequence.empty.value
  | .specialization => Sequence.empty.value

end SingleTrait

namespace AssociationTable

/-- Attach one more attribute to the declaration of a record. -/
def addAttribute (table : AssociationTable (List TaggedIndex)) (record : Value) :
    AssociationTable (List TaggedIndex) :=
  match record.field "decl", record.field "trait" with
  | .tagged declaration, .tagged attached =>
      table.update declaration.designation fun earlier => earlier.getD [] ++ [attached]
  | _, _ => table

/-- Attach the trait of a record to its declaration, in place of any other. -/
def putTrait (table : AssociationTable Value) (record : Value) : AssociationTable Value :=
  match record.field "decl" with
  | .tagged declaration =>
      table.bind declaration.designation (record.field "trait")
  | _ => table

/-- What a table attaches to what a value designates. -/
def attached? {α : Type} (table : AssociationTable α) (key : Value) : Option α := do
  table.find? (← key.designation?)

end AssociationTable

namespace Query

/-- The records of the partition of a specification, none if it is absent. -/
def records (spec : PartitionSpec) : Query (List Value) := do
  match ← ofExcept ((← get).findPartition spec spec.name) with
  | none => return []
  | some view => elements view

/-- The records of the partitions of some specifications, in order. -/
def allRecords : List PartitionSpec → Query (List Value)
  | [] => return []
  | spec :: rest => do
      let first ← records spec
      return first ++ (← allRecords rest)

/-- The attributes of all declarations, gathered at most once. -/
def attributeTable : Query (AssociationTable (List TaggedIndex)) := do
  match (← get).attributes with
  | some table => return table
  | none =>
      let gathered ← allRecords Catalogue.attributeSources
      let table := gathered.foldl AssociationTable.addAttribute []
      record (.attributesGathered table.length)
      modify fun container => { container with attributes := some table }
      return table

/-- A single trait of all declarations, gathered at most once. -/
def traitTable (kind : SingleTrait) : Query (AssociationTable Value) := do
  match (← get).traits.find? kind with
  | some table => return table
  | none =>
      let table := (← records kind.spec).foldl AssociationTable.putTrait []
      record (.traitsGathered kind.spec.name table.length)
      modify fun container => { container with traits := container.traits.bind kind table }
      return table

/-- The attributes of a declaration, in the order of their records. -/
def attributesOf (declaration : Value) : Query (List TaggedIndex) := do
  let table ← attributeTable
  ofExcept declaration.requireKey
  return (table.attached? declaration).getD []

/-- A single trait of a declaration. -/
def traitOf (kind : SingleTrait) (declaration : Value) : Query Value := do
  let table ← traitTable kind
  ofExcept declaration.requireKey
  return (table.attached? declaration).getD kind.absent

/-- The text with which a declaration is deprecated. -/
def deprecationText (declaration : Value) : Query (Option String) := do
  optionalStringAt (← ofExcept (← traitOf .deprecation declaration).toInteger)

end Query
end ModuleInterface

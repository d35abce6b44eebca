import ModuleInterface.Container.State
import ModuleInterface.Value.Render

/-!
# Locating partitions

A partition is located through the table of contents, and its elements must
have the size that its specification gives them. `partition` remembers under
the slot of a specification where its partition lies, and asks the table of
contents only once.
-/

namespace ModuleInterface

/-- What a caller names as a partition. -/
inductive Target
  /-- A specification, or a record that has one. -/
  | spec (spec : PartitionSpec)
  /-- A record that belongs to no partition. -/
  | loose (record : String)
  /-- Something else. -/
  | other (value : Value)
  deriving Repr

/-- The specification that a target stands for. -/
def Target.resolve : Target → Except Fault PartitionSpec
  | .spec found => .ok found
  | .loose record => .error (.recordUnplaced record)
  | .other value => .error (.notSpecification value.render)

namespace Container

/-- The view that an entry of the table of contents describes. -/
def viewOf (spec : PartitionSpec) (name : String) (summary : Summary) : Except Fault View :=
  if summary.entrySize = spec.entrySize then
    .ok ⟨spec, name, summary.offset, summary.cardinality⟩
  else
    .error (.elementSizeDisagrees name spec.element.label spec.entrySize summary.entrySize)

/-- The partition of a specification under a name, if the table of contents has
the name. -/
def findPartition (container : Container) (spec : PartitionSpec) (name : String) :
    Except Fault (Option View) :=
  match container.summary? name with
  | none => .ok none
  | some summary => do return some (← viewOf spec name summary)

/-- The partition of a specification under a name. -/
def requirePartition (container : Container) (spec : PartitionSpec) (name : String) :
    Except Fault View :=
  match container.findPartition spec name with
  | .ok (some view) => .ok view
  | .ok none => .error (.partitionAbsent name)
  | .error fault => .error fault

/-- The place that is remembered under a slot. -/
def located? (container : Container) (slot : Nat) : Option Location :=
  container.locations.find? slot

end Container

namespace Query

/-- The partition of a target under a name, by default that of its
specification, if the container has it. -/
def findPartition (target : Target) (name : Option String) : Query (Option View) := do
  let spec ← ofExcept target.resolve
  ofExcept ((← get).findPartition spec (name.getD spec.name))

/-- The partition of a target under a name, by default that of its
specification. -/
def requirePartition (target : Target) (name : Option String) : Query View := do
  let spec ← ofExcept target.resolve
  ofExcept ((← get).requirePartition spec (name.getD spec.name))

/-- Remember where a view lies under the slot of its specification. -/
def remember (view : View) : Query Unit := do
  modify fun container =>
    { container with
      locations := container.locations.bind view.spec.slot ⟨view.base, view.count⟩ }
  record (.located view.spec.name view.spec.slot view.count)

/-- The partition of a specification, located at most once. -/
def partition (spec : PartitionSpec) : Query View := do
  match (← get).located? spec.slot with
  | some location => return ⟨spec, spec.name, location.base, location.count⟩
  | none =>
      let view ← ofExcept ((← get).requirePartition spec spec.name)
      remember view
      return view

/-- The element of a view that a key designates. -/
def element (view : View) (key : Value) : Query Value := do
  ofExcept (view.get (← get).blob key)

/-- All elements of a view, in order. -/
def elements (view : View) : Query (List Value) := do
  ofExcept (view.list (← get).blob)

end Query
end ModuleInterface

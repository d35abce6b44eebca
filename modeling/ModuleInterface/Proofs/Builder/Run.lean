import Mathlib
import ModuleInterface.Builder
import ModuleInterface.Container.Locate
import ModuleInterface.Proofs.Fallible

/-!
# Runs of a builder

A builder is given texts and lists of elements, one after another. A step that fails
leaves it as it was. What it holds after a run is described by `Builder.Keeps`: every
text that it knows stands in the string table at its offset, closed by a zero, and the
partitions are those of the steps that added elements, in order. Every step preserves
this (`BuilderStep.keeps`), and so does every run.
-/

namespace ModuleInterface

/-- Every item of the second of two lists that are related item by item belongs to one of the
first. -/
theorem exists_left_of_forall₂
    {α β : Type}
    {related : α → β → Prop}
    {lefts : List α}
    {rights : List β}
    (paired : List.Forall₂ related lefts rights)
    {right : β}
    (member : right ∈ rights) :
    ∃ left ∈ lefts, related left right := by
  induction paired with
  | nil => cases member
  | cons pair rest inductionHypothesis =>
      obtain rfl | following := List.mem_cons.mp member
      · exact ⟨_, List.mem_cons_self, pair⟩
      · obtain ⟨left, found, pair⟩ := inductionHypothesis following
        exact ⟨left, List.mem_cons_of_mem _ found, pair⟩

/-- What a builder can be told, apart from adding raw bytes. -/
inductive BuilderStep
  | addString (text : String)
  | addElements (target : Target) (values : List Value) (name : Option String)
  deriving Repr

/-- Elements that were added, with the specification of their target and the name that
they were added under. -/
structure Addition where
  target : Target
  spec : PartitionSpec
  name : String
  values : List Value
  deriving Repr

namespace BuilderStep

/-- The builder after a step. -/
def perform (builder : Builder) : BuilderStep → Except Fault Builder
  | .addString text => do return (← builder.addString text).2
  | .addElements target values name => do
      builder.addElements (← target.resolve) values name

/-- What a step adds when it does not fail. -/
def additions : BuilderStep → List Addition
  | .addString _ => []
  | .addElements target values name =>
      match target.resolve with
      | .ok spec => [⟨target, spec, name.getD spec.name, values⟩]
      | .error _ => []

end BuilderStep

namespace Builder

/-- The builder after some steps. A step that fails leaves it as it was. -/
def run : Builder → List BuilderStep → Builder
  | builder, [] => builder
  | builder, step :: rest =>
      match step.perform builder with
      | .ok next => next.run rest
      | .error _ => builder.run rest

/-- What some steps add, one after another. A step that fails adds nothing. -/
def additions : Builder → List BuilderStep → List Addition
  | _, [] => []
  | builder, step :: rest =>
      match step.perform builder with
      | .ok next => step.additions ++ next.additions rest
      | .error _ => builder.additions rest

/-- A text stands in the string table at an offset, closed by a zero. -/
def StoresText (builder : Builder) (text : String) (offset : Nat) : Prop :=
  ∃ before bytes after, Utf8.encode? text = some bytes ∧
    builder.strings = before ++ (bytes ++ 0 :: after) ∧ before.length = offset

/-- A partition is to be written for what was added. -/
structure Pends (builder : Builder) (addition : Addition)
    (partition : PendingPartition) : Prop where
  name : builder.offsets.find? addition.name = some partition.name
  entrySize : partition.entrySize = addition.spec.entrySize
  cardinality : partition.cardinality = addition.values.length
  data : ∃ packed, addition.values.mapM addition.spec.element.pack = .ok packed ∧
    partition.data = packed.flatten

/-- A builder holds its texts and what was added. -/
structure Keeps (builder : Builder) (added : List Addition) : Prop where
  texts : ∀ text offset, builder.offsets.find? text = some offset →
    builder.StoresText text offset
  partitions : List.Forall₂ builder.Pends added builder.partitions

theorem keeps_empty : empty.Keeps [] := by
  refine ⟨fun text offset found => ?_, .nil⟩
  rw [empty, Bindings.find?_cons] at found
  split at found
  next same =>
    cases found
    subst same
    exact ⟨[], [], [], rfl, rfl, rfl⟩
  next => contradiction

/-- A text that stands in a string table stands in every longer one. -/
theorem StoresText.extend
    {builder next : Builder}
    {text : String}
    {offset : Nat}
    (stored : builder.StoresText text offset)
    {added : List UInt8}
    (longer : next.strings = builder.strings ++ added) :
    next.StoresText text offset := by
  obtain ⟨before, bytes, after, encoded, strings, place⟩ := stored
  refine ⟨before, bytes, after ++ added, encoded, ?_, place⟩
  rw [longer, strings]
  simp only [List.append_assoc, List.cons_append]

theorem StoresText.offset_lt
    {builder : Builder}
    {text : String}
    {offset : Nat}
    (stored : builder.StoresText text offset) :
    offset < builder.strings.length := by
  obtain ⟨before, bytes, after, _, strings, rfl⟩ := stored
  rw [strings, List.length_append, List.length_append, List.length_cons]
  omega

/-- What adding a text does: the text is known at the answered offset and every other text
as before, the string table grows, and the partitions stay. A text that was not known
stands where the string table ended. -/
structure Adds (builder next : Builder) (text : String) (offset : Nat) : Prop where
  known : ∀ other place, next.offsets.find? other = some place ↔
    builder.offsets.find? other = some place ∨ other = text ∧ place = offset
  longer : ∃ added, next.strings = builder.strings ++ added
  partitions : next.partitions = builder.partitions
  stored : builder.offsets.find? text = some offset ∨
    builder.offsets.find? text = none ∧ offset = builder.strings.length ∧
      next.StoresText text offset

theorem adds_of_addString
    {builder next : Builder}
    {text : String}
    {offset : Nat}
    (stored : builder.addString text = .ok (offset, next)) :
    builder.Adds next text offset := by
  unfold Builder.addString at stored
  split at stored
  next found =>
    cases stored
    refine ⟨fun other place => ⟨.inl, ?_⟩, ⟨[], (List.append_nil _).symm⟩, rfl, .inl found⟩
    rintro (known | ⟨rfl, rfl⟩)
    · exact known
    · exact found
  next unknown =>
    split at stored
    next => contradiction
    next bytes encoded =>
      cases stored
      have longer : builder.strings ++ bytes ++ [0] = builder.strings ++ (bytes ++ [0]) :=
        List.append_assoc _ _ _
      refine ⟨fun other place => ?_, ⟨_, longer⟩, rfl,
        .inr ⟨unknown, rfl, builder.strings, bytes, [], encoded, longer, rfl⟩⟩
      simp only [Bindings.find?_bind]
      by_cases same : text = other
      · subst same
        simp [unknown, eq_comm]
      · simp [same, Ne.symm same]

/-- A text that is known after another one was added stands in the string table, if those
that were known before do. -/
theorem Adds.storesText
    {builder next : Builder}
    {text : String}
    {offset : Nat}
    (adds : builder.Adds next text offset)
    (texts : ∀ other place, builder.offsets.find? other = some place →
      builder.StoresText other place)
    {other : String}
    {place : Nat}
    (found : next.offsets.find? other = some place) :
    next.StoresText other place := by
  obtain ⟨added, longer⟩ := adds.longer
  obtain known | ⟨rfl, rfl⟩ := (adds.known other place).mp found
  · exact (texts other place known).extend longer
  · obtain known | ⟨_, _, stored⟩ := adds.stored
    · exact (texts other place known).extend longer
    · exact stored

/-- What is kept stays when a text is added, and the text is found at the answered
offset. -/
theorem Keeps.addString
    {builder next : Builder}
    {added : List Addition}
    (keeps : builder.Keeps added)
    {text : String}
    {offset : Nat}
    (stored : builder.addString text = .ok (offset, next)) :
    next.Keeps added ∧ next.offsets.find? text = some offset ∧
      next.partitions = builder.partitions := by
  have adds := adds_of_addString stored
  refine ⟨⟨fun other place found => adds.storesText keeps.texts found, ?_⟩,
    (adds.known text offset).mpr (.inr ⟨rfl, rfl⟩), adds.partitions⟩
  rw [adds.partitions]
  refine keeps.partitions.imp fun addition partition pends => ?_
  exact ⟨(adds.known _ _).mpr (.inl pends.name), pends.entrySize, pends.cardinality,
    pends.data⟩

/-- What adding elements does: they are added after everything else. -/
theorem Keeps.addElements
    {builder next : Builder}
    {added : List Addition}
    (keeps : builder.Keeps added)
    {target : Target}
    {spec : PartitionSpec}
    {values : List Value}
    {name : Option String}
    (stored : builder.addElements spec values name = .ok next) :
    next.Keeps (added ++ [⟨target, spec, name.getD spec.name, values⟩]) := by
  obtain ⟨packed, written, rest⟩ := Fallible.bind_eq_ok.mp stored
  obtain ⟨⟨offset, named⟩, stringAdded, final⟩ := Fallible.bind_eq_ok.mp rest
  cases final
  obtain ⟨keepsNamed, found, _⟩ := keeps.addString stringAdded
  have counted : packed.length = values.length :=
    (Fallible.forall₂_of_mapM_eq_ok written).length_eq.symm
  refine ⟨keepsNamed.texts, ?_⟩
  refine List.rel_append (keepsNamed.partitions.imp fun _ _ pends => ?_) (.cons ?_ .nil)
  · exact ⟨pends.name, pends.entrySize, pends.cardinality, pends.data⟩
  · exact ⟨found, rfl, congrArg _ counted, packed, written, rfl⟩

end Builder

/-- A step that does not fail keeps what was added and adds its own. -/
theorem BuilderStep.keeps
    {builder next : Builder}
    {added : List Addition}
    (keeps : builder.Keeps added)
    {step : BuilderStep}
    (performed : step.perform builder = .ok next) :
    next.Keeps (added ++ step.additions) := by
  cases step with
  | addString text =>
      obtain ⟨⟨offset, stored⟩, stringAdded, final⟩ := Fallible.bind_eq_ok.mp performed
      cases final
      rw [additions, List.append_nil]
      exact (keeps.addString stringAdded).1
  | addElements target values name =>
      obtain ⟨spec, resolved, elementsAdded⟩ := Fallible.bind_eq_ok.mp performed
      simp only [additions, resolved]
      exact keeps.addElements elementsAdded

/-- A run keeps what was added and adds what its steps add. -/
theorem Builder.Keeps.run
    {builder : Builder}
    {added : List Addition}
    (keeps : builder.Keeps added)
    (steps : List BuilderStep) :
    (builder.run steps).Keeps (added ++ builder.additions steps) := by
  induction steps generalizing builder added with
  | nil =>
      rw [Builder.additions, List.append_nil]
      exact keeps
  | cons step rest inductionHypothesis =>
      rw [Builder.run, Builder.additions]
      cases performed : step.perform builder with
      | error fault => exact inductionHypothesis keeps
      | ok next =>
          have after := inductionHypothesis (BuilderStep.keeps keeps performed)
          rwa [List.append_assoc] at after

end ModuleInterface

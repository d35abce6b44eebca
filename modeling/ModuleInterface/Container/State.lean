import ModuleInterface.Bindings
import ModuleInterface.Container.Header
import ModuleInterface.Container.View
import ModuleInterface.Event

/-!
# Containers

A container is a blob that has been checked once, its header, and its table of
contents by name. It remembers where partitions were found and the tables that
were built from association partitions, and it keeps a journal of what it did.
A query may add to what is remembered and to the journal, whether it answers or
fails.

Texts are named by their offset in the string table. Offset 0 is the null text:
where a text may be absent it stands for none.
-/

namespace ModuleInterface

/-- The entries of the table of contents by name, in order. -/
abbrev Contents := Bindings String Summary

/-- What an index designates: its kind, its sort and its position. -/
abbrev Designation := TaggedKind × Nat × Nat

/-- What is attached to declarations, in the order of first mention. -/
abbrev AssociationTable (α : Type) := Bindings Designation α

/-- The traits of which a declaration has at most one. -/
inductive SingleTrait
  | deprecation
  | friendship
  | specialization
  deriving DecidableEq, Repr

/-- Where a partition lies. -/
structure Location where
  base : Nat
  count : Nat
  deriving DecidableEq, Repr

/-- An open container. -/
structure Container where
  blob : Blob
  header : Header
  contents : Contents
  /-- The number of the environment that imported modules are looked up in. -/
  environment : Option Nat
  /-- Where partitions were found, by slot. -/
  locations : Bindings Nat Location
  /-- The attributes of declarations, once gathered. -/
  attributes : Option (AssociationTable (List TaggedIndex))
  /-- The single traits of declarations, those that were gathered. -/
  traits : Bindings SingleTrait (AssociationTable Value)
  /-- What the container did, the latest last. -/
  journal : List Event
  deriving Repr

/-- A query of a container. -/
abbrev Query (α : Type) := ExceptT Fault (StateM Container) α

namespace Query

/-- Run a query on a container. -/
def on {α : Type} (query : Query α) (container : Container) : Except Fault α × Container :=
  ExceptT.run query container

/-- The query that adds an event to the journal. -/
def record (event : Event) : Query Unit :=
  modify fun container => { container with journal := container.journal ++ [event] }

end Query

namespace Container

/-- The entry of a name. -/
def summary? (container : Container) (name : String) : Option Summary :=
  container.contents.find? name

/-- The text at an offset of the string table that a header locates. The first
offset of an empty table holds the empty text. -/
def tableText (header : Header) (blob : Blob) (offset : Int) : Except Fault String :=
  if header.stringTableSize = 0 ∧ offset = 0 then .ok ""
  else if 0 ≤ offset ∧ offset < header.stringTableSize then
    blob.textAt (.integer (header.stringTableStart + offset))
  else .error (.textOutsideTable offset header.stringTableSize)

/-- Add entries to a table of contents, each under the text of its name. An
entry whose name is taken is passed over. -/
def addEntries (header : Header) (blob : Blob) :
    Contents → List Event → List Summary → Except Fault Contents × List Event
  | contents, events, [] => (.ok contents, events)
  | contents, events, summary :: rest =>
      if header.stringTableSize ≤ summary.name then
        (.error (.nameOutside header.stringTableSize summary.name), events)
      else
        match tableText header blob summary.name with
        | .error fault => (.error fault, events)
        | .ok name =>
            if (contents.find? name).isSome then
              addEntries header blob contents (events ++ [.duplicateEntry name]) rest
            else addEntries header blob (contents ++ [(name, summary)]) events rest

/-- Header and entries of some bytes that pass every check of a container, apart
from the names of its partitions. -/
def validate (bytes : Bytes) : Except Fault (Header × List Summary) := do
  let _ ← Header.readSignature bytes
  let header ← Header.read bytes
  let summaries ← header.readSummaries bytes
  header.checkTotal bytes summaries
  header.checkRegions bytes summaries
  return (header, summaries)

/-- Open a container over a blob, and report what happened whether it opens or
not. -/
def load (blob : Blob) (environment : Option Nat) : Except Fault Container × List Event :=
  match blob.access >>= validate with
  | .error fault => (.error fault, [])
  | .ok (header, summaries) =>
      match addEntries header blob [] [] summaries with
      | (.error fault, events) => (.error fault, events)
      | (.ok contents, events) =>
          let journal := events ++ [.opened blob.bytes.size contents.length]
          (.ok {
            blob
            header
            contents
            environment
            locations := []
            attributes := none
            traits := []
            journal }, journal)

/-- A container as it is printed. -/
def render (container : Container) : String :=
  s!"File({container.contents.length} partitions, unit={container.header.unit.render})"

end Container

namespace Query

/-- The text at an offset of the string table. -/
def stringAt (offset : Int) : Query String := do
  let container ← get
  ofExcept (Container.tableText container.header container.blob offset)

/-- The text at an offset of the string table, none at the null offset. -/
def optionalStringAt (offset : Int) : Query (Option String) := do
  if offset = 0 then return none else return some (← stringAt offset)

/-- The name of the unit that a container describes. -/
def unitName : Query (Option String) := do
  optionalStringAt (← get).header.unit.position

/-- The sort of the unit that other modules import by name. -/
def primaryUnitSort : Nat := 1

/-- Whether a container describes a primary unit. -/
def isPrimaryUnit : Query Bool := do
  return (← get).header.unit.sort = primaryUnitSort

end Query
end ModuleInterface

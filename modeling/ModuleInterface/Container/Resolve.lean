import ModuleInterface.Container.Locate
import ModuleInterface.Value.Part
import ModuleInterface.Value.Render

/-!
# Resolving tagged indices

The sort of a tagged index picks the partition that it points into, and its
position the record. The null index designates nothing. A range of a heap is
resolved entry by entry, in order, up to the first entry that fails; an empty
range asks for no heap. A record with the parts of an index is resolved as far
as these parts go: it may be null, but no records are known for its sort.
-/

namespace ModuleInterface
namespace Query

/-- The record that a tagged index designates, or null for the null index. -/
def resolveIndex (registry : Registry) (index : TaggedIndex) : Query Value :=
  if index.isNull then return .null
  else
    match registry.forIndex? index with
    | none => throw (.unknownSort index.render index.sort)
    | some spec => do element (← partition spec) (.tagged index)

/-- What a value designates: nothing when it is null. Only a tagged index can
designate a record. -/
def resolve (registry : Registry) (value : Value) : Query Value := do
  match value with
  | .tagged index => resolveIndex registry index
  | _ =>
      if ← ofExcept (value.holds "is_null") then return .null
      else throw (.unknownSort value.render (← ofExcept value.sortNumber))

/-- What a number of entries of a view designate, from a position on. -/
def resolveEntries (registry : Registry) (view : View) : Nat → Nat → Query (List Value)
  | 0, _ => return []
  | remaining + 1, position => do
      let entry ← ofExcept (view.read (← get).blob position)
      let record ← resolve registry entry
      return record :: (← resolveEntries registry view remaining (position + 1))

/-- What the entries of a range of a heap designate. -/
def resolveHeap (registry : Registry) (heap : Target) (range : Value) :
    Query (List Value) := do
  if ← ofExcept (range.holds "is_empty") then return []
  else
    let spec ← ofExcept heap.resolve
    let view ← ofExcept ((← partition spec).sliceOf range)
    resolveEntries registry view view.count 0

end Query
end ModuleInterface

import ModuleInterface.Blob
import ModuleInterface.Registry
import ModuleInterface.Value.Part

/-!
# Views of partitions

A view is a run of elements of one specification inside a blob. Elements are
read when they are asked for. A key must be a plain number, which is a position,
or an index of the kind that the partition is indexed by, and of its sort where
it has one; no element is at a floating-point position. Slicing a view gives a view.
-/

namespace ModuleInterface

/-- A run of elements of one specification. -/
structure View where
  spec : PartitionSpec
  /-- The name that the partition was located by. -/
  name : String
  /-- The offset of the first element. -/
  base : Nat
  /-- The number of elements. -/
  count : Nat
  deriving Repr

namespace View

/-- The number of bytes of a view. -/
def size (view : View) : Nat :=
  view.count * view.spec.entrySize

/-- The offset of the element at a position. -/
def offsetOf (view : View) (position : Nat) : Nat :=
  view.base + position * view.spec.entrySize

/-- A view as it is printed. -/
def render (view : View) : String :=
  s!"Partition({Quoted.render view.name}, offset={view.base}, count={view.count})"

/-- Fail unless the records of a view have the sort of a key, which is shown if they do
not, or no sort. -/
def requireSort (view : View) (sort : Nat) (key : String) : Except Fault Unit :=
  match view.spec.sort with
  | some expected =>
      if sort = expected then .ok ()
      else
        .error <| .wrongKeySort view.name
          (PartitionSpec.describeSort view.spec.indexKind expected) key
  | none => .ok ()

/-- The position that a tagged index designates in a view. -/
def taggedPosition (view : View) (key : TaggedIndex) : Except Fault Int := do
  view.requireSort key.sort key.render
  return key.position

/-- The position that a plain index designates. -/
def plainPosition (key : PlainIndex) : Except Fault Int :=
  match key.position? with
  | some position => .ok position
  | none => .error .nullScope

/-- The fault of a key that is no index of the kind that a view is indexed by. -/
def wrongKind (view : View) (key : Value) : Fault :=
  .wrongKeyKind view.name view.spec.indexKind.label key.typeName

/-- The position that a key designates in a view. -/
def position (view : View) (key : Value) : Except Fault Int :=
  let refused : Except Fault Int := .error (view.wrongKind key)
  match key with
  | .integer number => .ok number
  | .tagged index =>
      if view.spec.indexKind.includes index.kind then view.taggedPosition index
      else refused
  | .plain index =>
      if view.spec.indexKind = .plain index.kind then plainPosition index else refused
  | _ => refused

/-- The element at a position that is known to be in the view. -/
def read (view : View) (blob : Blob) (position : Nat) : Except Fault Value := do
  view.spec.element.readAt (← blob.access) (view.offsetOf position)

/-- The element that an index with a floating-point position designates: none, but the
index is checked like any other key. -/
def getFloating (view : View) (blob : Blob) (key : FloatingIndex) : Except Fault Value := do
  view.requireSort key.sort key.render
  if Binary64.isBelow key.position view.count then
    discard <| blob.access
    throw (.notLength (Value.float64 key.position).typeName)
  else throw (.float64Outside key.position view.name view.count)

/-- The element that a key designates. The key is checked before the position,
and the position before the bytes are used. -/
def get (view : View) (blob : Blob) (key : Value) : Except Fault Value :=
  match key with
  | .floating index =>
      if view.spec.indexKind.includes index.kind then view.getFloating blob index
      else .error (view.wrongKind key)
  | _ => do
      let position ← view.position key
      if 0 ≤ position ∧ position < view.count then view.read blob position.toNat
      else .error (.positionOutside position view.name view.count)

/-- A number of elements from a position on. -/
def readFrom (view : View) (blob : Blob) : Nat → Nat → Except Fault (List Value)
  | 0, _ => .ok []
  | remaining + 1, position => do
      let element ← view.read blob position
      return element :: (← readFrom view blob remaining (position + 1))

/-- All elements, in order. -/
def list (view : View) (blob : Blob) : Except Fault (List Value) :=
  view.readFrom blob view.count 0

/-- The view of a range of positions. -/
def slice (view : View) (range : Sequence) : Except Fault View :=
  let stop := range.start + range.cardinality
  if range.start < 0 ∨ range.cardinality < 0 ∨ (view.count : Int) < stop then
    .error (.rangeOutside range.start stop view.name view.count)
  else
    .ok { view with
      base := view.offsetOf range.start.toNat
      count := range.cardinality.toNat }

/-- The view of the range that a value describes by its parts. -/
def sliceOf (view : View) (range : Value) : Except Fault View := do
  let start ← range.integerPart "start"
  let cardinality ← range.integerPart "cardinality"
  view.slice ⟨start, cardinality⟩

/-- A range describes itself. -/
@[simp] theorem sliceOf_value (view : View) (range : Sequence) :
    view.sliceOf range.value = view.slice range := rfl

end View
end ModuleInterface

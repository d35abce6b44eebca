import ModuleInterface.Index.Kind

/-!
# Plain indices and ranges

A plain index is a number with a kind. A sequence is a range of positions, a
source location a line and a column, and a module reference the names of a unit
and of a partition of it. Their numbers are those of 32-bit fields once read
from a container; given by a caller, they are any integers.
-/

namespace ModuleInterface

/-- A number with a kind. -/
structure PlainIndex where
  kind : PlainKind
  value : Int
  deriving DecidableEq, Repr

namespace PlainIndex

/-- The text offset of a number. -/
def text (value : Int) : PlainIndex := ⟨.text, value⟩

/-- The scope index of a number. -/
def scope (value : Int) : PlainIndex := ⟨.scope, value⟩

/-- Whether an index is the null index of its kind. -/
def isNull (index : PlainIndex) : Bool :=
  index.value == 0

/-- An index as it is printed. -/
def render (index : PlainIndex) : String :=
  s!"{index.kind.label}({index.value})"

/-- The position that an index designates. The null scope designates none, and
the other scopes are counted from 1. -/
def position? (index : PlainIndex) : Option Int :=
  match index.kind with
  | .scope => if index.value = 0 then none else some (index.value - 1)
  | _ => some index.value

end PlainIndex

/-- A range of positions: the first one and their number. -/
structure Sequence where
  start : Int
  cardinality : Int
  deriving DecidableEq, Repr

namespace Sequence

/-- The range of no positions that starts at 0. -/
def empty : Sequence := ⟨0, 0⟩

/-- Whether a range has no positions. -/
def isEmpty (sequence : Sequence) : Bool :=
  sequence.cardinality == 0

end Sequence

/-- A place in a source text. -/
structure SourceLocation where
  line : Int
  column : Int
  deriving DecidableEq, Repr

/-- The place that no source text has. -/
def SourceLocation.none : SourceLocation := ⟨0, 0⟩

/-- The text offsets of the names of a unit and of a partition of it. -/
structure ModuleReference where
  owner : Int
  partition : Int
  deriving DecidableEq, Repr

/-- The reference that names neither a unit nor a partition. -/
def ModuleReference.none : ModuleReference := ⟨0, 0⟩

end ModuleInterface

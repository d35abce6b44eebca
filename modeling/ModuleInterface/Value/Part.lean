import ModuleInterface.Bytes.Window
import ModuleInterface.Value.Integer

/-!
# Truth and parts of a value

Where a choice hangs on a value, zero, nothing and whatever is empty count as
false. A range is as long as it has positions, and only a number that a machine
word holds is the length of something.

A value is asked for its parts by name, since the fields of a record are known
only by name: an index for its sort, a range for its first position. A record
will do for an index or a range where it has the parts of one. What a value has
no part of a name for is refused, and so are the parts that are made from the
encoding of an index, where it has none.
-/

namespace ModuleInterface
namespace Value

/-! ## Length and truth -/

/-- A value as the length of something. -/
def toLength (value : Value) : Except Fault Nat :=
  match value.integer? with
  | none => .error (.notLength value.typeName)
  | some number =>
      if number < 0 then .error .negativeLength
      else if MachineWord.limit ≤ number then .error .lengthOverflow
      else .ok number.toNat

/-- Whether a value counts as true. -/
def isTrue : Value → Except Fault Bool
  | .null => .ok false
  | .float64 bits => .ok !(Binary64.equalsInt bits 0)
  | .text content => .ok !content.isEmpty
  | .bytes content => .ok !content.isEmpty
  | .list items => .ok !items.isEmpty
  | .entries items => .ok !items.isEmpty
  | .sequence _ cardinality => do return (← cardinality.toLength) != 0
  | value => .ok (value.integer? != some 0)

@[simp] theorem isTrue_boolean (flag : Bool) : (Value.boolean flag).isTrue = .ok flag := by
  cases flag <;> rfl

/-! ## Parts -/

/-- A number as it was given. -/
def spelled : NumberSpelling → Nat → Value
  | .truth, 0 => .boolean false
  | .truth, 1 => .boolean true
  | _, number => .integer number

/-- A sort of a kind, as it was given. -/
def spelledSort (kind : TaggedKind) (sort : Nat) : SortSpelling → Value
  | .named => kind.sorts.value sort
  | .number spelling => spelled spelling sort
  | .float64 bits => .float64 bits

/-- The sort of an index, as it was given. -/
def sortOf (index : TaggedIndex) : Value :=
  spelledSort index.kind index.sort index.sortSpelling

/-- The position of an index, as it was given. -/
def positionOf (index : TaggedIndex) : Value :=
  spelled index.positionSpelling index.position

/-- A number is the same however it was given. -/
@[simp] theorem toInteger_spelled (spelling : NumberSpelling) (number : Nat) :
    (spelled spelling number).toInteger = .ok (number : Int) := by
  unfold spelled
  split <;> rfl

/-- The parts of a value by name. -/
def parts : Value → List (String × Value)
  | .tagged index => [
      ("sort", sortOf index), ("index", positionOf index),
      ("raw", .integer index.raw), ("is_null", .boolean index.isNull)]
  | .floating index => [
      ("sort", spelledSort index.kind index.sort index.sortSpelling),
      ("index", .float64 index.position)]
  | .plain index => [("raw", .integer index.value), ("is_null", .boolean index.isNull)]
  | .sequence start cardinality => [
      ("start", start), ("cardinality", cardinality),
      ("is_empty", .boolean (cardinality.same (.integer 0)))]
  | .location line column => [("line", line), ("column", column)]
  | .moduleReference reference => [
      ("owner", .plain (.text reference.owner)),
      ("partition", .plain (.text reference.partition))]
  | .record _ fields => fields
  | _ => []

/-- The parts that are made from the encoding of an index. -/
def encodedParts : List String := ["raw", "is_null"]

/-- Fail unless a value has an encoding, if it is an index. -/
def requireEncoding : Value → Except Fault Unit
  | .floating index => .error (.notShifted (Value.float64 index.position).typeName)
  | _ => .ok ()

/-- The part of a name. -/
def part (name : String) (value : Value) : Except Fault Value :=
  match value.parts.lookup name with
  | some found => .ok found
  | none => do
      if encodedParts.contains name then value.requireEncoding
      throw (.memberAbsent value.typeName name)

/-- Whether the part of a name counts as true. -/
def holds (name : String) (value : Value) : Except Fault Bool := do
  (← value.part name).isTrue

/-- The integer of the part of a name. -/
def integerPart (name : String) (value : Value) : Except Fault Int := do
  (← value.part name).toInteger

/-- The name of what a list has in place of a sort: an operation that sorts it. -/
def operationName : String := "builtin_function_or_method"

/-- The number of the sort of a value. -/
def sortNumber : Value → Except Fault Int
  | .list _ => .error (.notInteger operationName)
  | value => value.integerPart "sort"

/-- A tagged index is null or not as it says itself. -/
@[simp] theorem holds_isNull_tagged (index : TaggedIndex) :
    (Value.tagged index).holds "is_null" = .ok index.isNull := by
  simp [holds, part, parts, List.lookup_cons, bind, Except.bind]

/-- A range is empty exactly when its length is zero. -/
@[simp] theorem holds_isEmpty_value (range : Sequence) :
    range.value.holds "is_empty" = .ok range.isEmpty := by
  simp [holds, part, parts, List.lookup_cons, Sequence.value, Sequence.isEmpty,
    bind, Except.bind]

end Value
end ModuleInterface

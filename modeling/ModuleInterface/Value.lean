import ModuleInterface.FlagSet
import ModuleInterface.Index.Floating
import ModuleInterface.Index.Plain
import ModuleInterface.Number.Binary64

/-!
# Values

What a container holds is not known until it is read: the layout of a record
may be described at run time. A value is therefore a term of one type, which
covers numbers, names, indices, ranges, lists and records with named fields.
-/

namespace ModuleInterface

/-- A value that a container holds, or that a caller gives for one. -/
inductive Value
  | null
  | integer (number : Int)
  | boolean (flag : Bool)
  | float64 (bits : UInt64)
  /-- No number, as a caller writes it: one thing, however often it is written. -/
  | nan
  | text (content : String)
  | bytes (content : List UInt8)
  /-- A number that its enumeration names. -/
  | enumerator (enumeration : Enumeration) (number : Nat)
  | flags (set : FlagSet) (number : Nat)
  | tagged (index : TaggedIndex)
  /-- An index that a caller gives a floating-point number for its position. -/
  | floating (index : FloatingIndex)
  | plain (index : PlainIndex)
  /-- A range. A caller may give anything for its two numbers. -/
  | sequence (start cardinality : Value)
  /-- A place in a source text. A caller may give anything for its two numbers. -/
  | location (line column : Value)
  | moduleReference (reference : ModuleReference)
  | list (items : List Value)
  /-- Values under names, in order. -/
  | entries (items : List (String × Value))
  | record (name : String) (fields : List (String × Value))
  deriving Repr, Inhabited

/-- The value of a number in an enumeration: a number without a name stays a
plain number. -/
def Enumeration.value (enumeration : Enumeration) (number : Int) : Value :=
  if 0 ≤ number ∧ enumeration.Knows number.toNat then
    .enumerator enumeration number.toNat
  else .integer number

/-- The index of a kind whose encoding is the low 32 bits of a number. Where the kind
is left open, the number stays undivided. -/
def IndexKind.ofWord : IndexKind → Nat → Value
  | .tagged kind, word => .tagged (TaggedIndex.ofWord kind word)
  | .plain kind, word => .plain ⟨kind, word⟩
  | .anyTagged, word => .integer word

/-- A range as a value. -/
def Sequence.value (range : Sequence) : Value :=
  .sequence (.integer range.start) (.integer range.cardinality)

/-- A place in a source text as a value. -/
def SourceLocation.value (place : SourceLocation) : Value :=
  .location (.integer place.line) (.integer place.column)

namespace Value

/-- The name of what a value is, for messages. -/
def typeName : Value → String
  | .null => "NoneType"
  | .integer _ => "int"
  | .boolean _ => "bool"
  | .float64 _ => "float"
  | .nan => "float"
  | .text _ => "str"
  | .bytes _ => "bytes"
  | .enumerator enumeration _ => enumeration.name
  | .flags set _ => set.name
  | .tagged index => index.kind.label
  | .floating index => index.kind.label
  | .plain index => index.kind.label
  | .sequence _ _ => "Sequence"
  | .location _ _ => "SourceLocation"
  | .moduleReference _ => "ModuleReference"
  | .list _ => "list"
  | .entries _ => "dict"
  | .record name _ => name

/-- The integer that a value stands for in arithmetic and comparison. -/
def integer? : Value → Option Int
  | .integer number => some number
  | .boolean flag => some (if flag then 1 else 0)
  | .enumerator _ number => some number
  | .flags _ number => some number
  | .plain index => some index.value
  | _ => none

/-- The floating-point number that a value is. -/
def float64? : Value → Option UInt64
  | .float64 bits => some bits
  | .nan => some Binary64.nan
  | _ => none

/-- What an index designates, unless its sort or its position has a fraction. -/
def designation? : Value → Option (TaggedKind × Nat × Nat)
  | .tagged index =>
      if index.fractionalSort?.isSome then none else some index.designation
  | .floating index => index.designation?
  | _ => none

/-- The field of a record, or null where there is none. -/
def field (name : String) : Value → Value
  | .record _ fields => (fields.lookup name).getD .null
  | _ => .null

/-- Whether two values are equal, of which not both are ranges or both places.
Whatever stands for an integer compares as one, also with a floating-point
number. -/
def sameSingle (left right : Value) : Bool :=
  match left.integer?, right.integer?, left.float64?, right.float64? with
  | some leftNumber, some rightNumber, _, _ => leftNumber == rightNumber
  | some number, none, _, some bits => Binary64.equalsInt bits number
  | none, some number, some bits, _ => Binary64.equalsInt bits number
  | none, none, some leftBits, some rightBits => Binary64.same leftBits rightBits
  | _, _, _, _ =>
      match left, right with
      | .null, .null => true
      | .text leftText, .text rightText => leftText == rightText
      | .bytes leftBytes, .bytes rightBytes => leftBytes == rightBytes
      | .tagged leftIndex, .tagged rightIndex => leftIndex.same rightIndex
      | .floating leftIndex, .floating rightIndex => leftIndex.same rightIndex
      | .floating leftIndex, .tagged rightIndex => leftIndex.sameTagged rightIndex
      | .tagged leftIndex, .floating rightIndex => rightIndex.sameTagged leftIndex
      | .moduleReference leftReference, .moduleReference rightReference =>
          leftReference == rightReference
      | _, _ => false

/-- Whether both of two values are what a caller writes for no number. -/
def bothNan : Value → Value → Bool
  | .nan, .nan => true
  | _, _ => false

/-- Whether two values are equal: ranges and places when both their numbers are
equal or one thing, and all else as `sameSingle` says. -/
def same : Value → Value → Bool
  | .sequence start cardinality, .sequence otherStart otherCardinality =>
      (bothNan start otherStart || start.same otherStart) &&
        (bothNan cardinality otherCardinality || cardinality.same otherCardinality)
  | .location line column, .location otherLine otherColumn =>
      (bothNan line otherLine || line.same otherLine) &&
        (bothNan column otherColumn || column.same otherColumn)
  | left, right => left.sameSingle right

/-- Two integers are the same value exactly when they are equal. -/
@[simp] theorem same_integer (left right : Int) :
    (Value.integer left).same (.integer right) = (left == right) := by
  simp [same, sameSingle, integer?]

/-- The member of an enumeration that a value equals, or the value itself. -/
def coerce (enumeration : Enumeration) (value : Value) : Value :=
  match (List.range enumeration.members.length).find? fun (number : Nat) =>
      value.same (.integer number) with
  | some number => .enumerator enumeration number
  | none => value

/-- The flags that a value stands for: those of an integer, or those of the known
number that a floating-point number equals. -/
def flags? (set : FlagSet) (known : List Int) (value : Value) : Option Value :=
  match value.integer?, value.float64? with
  | some number, _ => some (.flags set (set.keep number))
  | none, some bits =>
      (known.find? (Binary64.equalsInt bits)).map fun number => .flags set (set.keep number)
  | none, none => none

/-- The numbers that stand for flags once a value has been taken for flags. -/
def learnFlags (set : FlagSet) (known : List Int) (value : Value) : List Int :=
  match value.integer? with
  | some number => set.learn known number
  | none => known

/-- The flags that each of some values stands for, or the value itself. What is
known grows from value to value. -/
def coerceFlags (set : FlagSet) : List Int → List Value → List Value
  | _, [] => []
  | known, value :: rest =>
      (value.flags? set known).getD value :: coerceFlags set (value.learnFlags set known) rest

/-- Each value has one result. -/
@[simp] theorem length_coerceFlags (set : FlagSet) (known : List Int)
    (values : List Value) : (coerceFlags set known values).length = values.length := by
  induction values generalizing known with
  | nil => rfl
  | cons value rest inductionHypothesis => simp [coerceFlags, inductionHypothesis]

/-- An integer stands for flags, whatever is known. -/
@[simp] theorem flags?_integer (set : FlagSet) (known : List Int) (number : Int) :
    (Value.integer number).flags? set known = some (.flags set (set.keep number)) := rfl

end Value
end ModuleInterface

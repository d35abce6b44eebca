import ModuleInterface.Bytes.Hex
import ModuleInterface.Bytes.LittleEndian
import ModuleInterface.Schema
import ModuleInterface.Value.Vocabulary

/-!
# Values as a caller describes them

A caller gives plain data as it is and describes all else: an index by its encoding
or its parts, a range and a place by their numbers, a member by its name. `resolve`
makes the value that is described or says why there is none. What is missing is
named like a name that stands for nothing.
-/

-- Powers are the core library's, whatever else a reader of this module imports.
attribute [local instance (1100)] instPowNat

namespace ModuleInterface

/-- How a caller describes an index. -/
inductive IndexDescription
  /-- By its encoding. -/
  | encoded (raw : Value)
  /-- As the null index of its kind. -/
  | null
  /-- By its number. -/
  | number (number : Value)
  /-- By its sort and its position. -/
  | parts (sort position : Option Value)
  deriving Repr

/-- How a caller describes a value. -/
inductive Description
  /-- Plain data. -/
  | given (value : Value)
  | list (items : List Description)
  | index (kind : Value) (index : IndexDescription)
  | sequence (numbers : Value)
  | location (numbers : Value)
  | moduleReference (owner : Value) (partition : Option Value)
  /-- A floating-point number by its eight bytes in hexadecimal digits, the first
  byte the most significant. -/
  | float64 (digits : Value)
  /-- A name of a vocabulary. -/
  | member (vocabulary : Value) (name : Option Value)
  /-- An integer that is spelled out. -/
  | integer (number : Option Value)
  deriving Repr, Inhabited

/-- The value that is given under a name, which there must be. -/
def requireGiven (name : String) : Option Value → Except Fault Value
  | some value => .ok value
  | none => .error (.unknownName name)

/-- The number of a range or of a place that a caller does not give. -/
def absentNumber : Value := .integer 0

/-- The two numbers of what has a given name. -/
def Value.pair (typeName : String) (numbers : Value) : Except Fault (Value × Value) :=
  match numbers.items? with
  | none => .error (.pairShapeless typeName numbers.typeName)
  | some [] => .ok (absentNumber, absentNumber)
  | some [first] => .ok (first, absentNumber)
  | some [first, second] => .ok (first, second)
  | some given => .error (.pairOverfull typeName given.length)

/-- The range of two numbers. -/
def Value.asSequence (numbers : Value) : Except Fault Value := do
  let (start, cardinality) ← numbers.pair "Sequence"
  return .sequence start cardinality

/-- The place of two numbers. -/
def Value.asLocation (numbers : Value) : Except Fault Value := do
  let (line, column) ← numbers.pair "SourceLocation"
  return .location line column

/-- How a value that is given for a sort is printed. -/
def Value.sortSpelling : Value → SortSpelling
  | .enumerator _ _ => .named
  | .boolean _ => .number .truth
  | .float64 bits => .float64 bits
  | _ => .number .digits

/-- How a value that is given for a position is printed. -/
def Value.positionSpelling : Value → NumberSpelling
  | .boolean _ => .truth
  | _ => .digits

namespace TaggedKind

/-- The index that was made, or why there is none. -/
def require {α : Type} (kind : TaggedKind) : Except TaggedIndex.Misfit α → Except Fault α
  | .ok index => .ok index
  | .error misfit => .error (.indexMisfit kind misfit)

/-- The index of a sort and a position, which has to be a number. The sort is checked
first. -/
def ofParts (kind : TaggedKind) (sort position : Value) : Except Fault Value := do
  let number ← sort.toInteger
  let made := fun (place : Int) =>
    kind.require <|
      TaggedIndex.ofParts? kind number place sort.sortSpelling position.positionSpelling
  match position.integer?, position.float64? with
  | some place, _ => return .tagged (← made place)
  | none, some bits => do
      return .floating (← kind.require ((← made 0).atFloating? bits))
  | none, none => do
      discard <| made 0
      .error (.notCompared position.typeName)

/-- The value that a caller means with a sort: a text is a name. -/
def sortValue (kind : TaggedKind) : Value → Except Fault Value
  | .text label => do return kind.sorts.value (← kind.sorts.require label)
  | value => .ok value

/-- The index that a caller describes. -/
def resolve (kind : TaggedKind) : IndexDescription → Except Fault Value
  | .encoded raw => do
      return .tagged (← kind.require (TaggedIndex.ofRaw? kind (← raw.toInteger)))
  | .null => .ok (.tagged (.null kind))
  | .number number => do
      discard <| number.toInteger
      .error (.positionMissing kind.label)
  | .parts sort position => do
      let sort ← kind.sortValue (← requireGiven "sort" sort)
      kind.ofParts sort (← requireGiven "index" position)

end TaggedKind

namespace PlainKind

/-- Why there is no index of two parts: it has no sort, and the first part is no
text to be read in a base. -/
def partsFault (kind : PlainKind) (sort position : Option Value) : Except Fault Fault := do
  match ← requireGiven "sort" sort with
  | .text _ => return .typeMemberAbsent kind.label "SORT_TYPE"
  | _ =>
      let base ← requireGiven "index" position
      match base.integer? with
      | none => return .notLength base.typeName
      | some base =>
          if base = 0 ∨ 2 ≤ base ∧ base ≤ 36 then return .baseWithoutText
          else return .baseUnknown

/-- The index that a caller describes. -/
def resolve (kind : PlainKind) : IndexDescription → Except Fault PlainIndex
  | .encoded raw => do return ⟨kind, ← raw.toInteger⟩
  | .null => .error (.typeMemberAbsent kind.label "null")
  | .number number => do return ⟨kind, ← number.toInteger⟩
  | .parts sort position => do throw (← kind.partsFault sort position)

end PlainKind

/-- Why there is no index of what a caller describes when its kind is left open. The
numbers that are given have to be numbers. -/
def IndexDescription.openFault (label : String) : IndexDescription → Except Fault Fault
  | .encoded raw => do
      discard <| raw.toInteger
      return .typeMemberAbsent label "SORT_BITS"
  | .null => return .typeMemberAbsent label "SORT_BITS"
  | .number given => do
      discard <| given.toInteger
      return .positionMissing label
  | .parts sort position => do
      match ← requireGiven "sort" sort with
      | .text _ => return .typeMemberAbsent label "SORT_TYPE"
      | sort =>
          discard <| requireGiven "index" position
          discard <| sort.toInteger
          return .memberAbsent label "SORT_BITS"

/-- The index of a kind that a caller describes. -/
def IndexDescription.resolve (kind : Value) (description : IndexDescription) :
    Except Fault Value := do
  let name ← kind.requireName
  match IndexKind.ofLabel? name with
  | none => throw (.unknownName name)
  | some (.tagged kind) => kind.resolve description
  | some (.plain kind) => return .plain (← kind.resolve description)
  | some .anyTagged => throw (← description.openFault name)

/-- The bytes whose hexadecimal digits a value is, which has to be a text. -/
def Value.hexBytes : Value → Except Fault (List UInt8)
  | .text digits => (Hex.read digits).mapError .notHexadecimal
  | .null => .error (.digitsMisgiven Value.null.render)
  | value => .error (.digitsMisgiven value.typeName)

/-- The number of bytes of a floating-point number. -/
def Binary64.byteCount : Nat := 8

/-- The floating-point number of eight bytes in hexadecimal digits. -/
def Binary64.ofDigits (digits : Value) : Except Fault UInt64 := do
  let bytes ← digits.hexBytes
  if bytes.length = Binary64.byteCount then
    return UInt64.ofNat (LittleEndian.decode bytes.reverse)
  else throw .layoutViolated

namespace Description

mutual

/-- The value that is described. -/
def resolve : Description → Except Fault Value
  | .given value => .ok value
  | .list items => do return .list (← resolveAll items)
  | .index kind description => description.resolve kind
  | .sequence numbers => numbers.asSequence
  | .location numbers => numbers.asLocation
  | .moduleReference owner partition => do
      let owner ← owner.toInteger
      return .moduleReference
        ⟨owner, ← (← requireGiven "partition" partition).toInteger⟩
  | .float64 digits => do return .float64 (← Binary64.ofDigits digits)
  | .member vocabulary name => do
      let vocabulary ← Vocabulary.named (← vocabulary.requireName)
      vocabulary.member (← (← requireGiven "name" name).requireName)
  | .integer number => do return .integer (← (← requireGiven "int" number).toInteger)

/-- The values that are described. -/
def resolveAll : List Description → Except Fault (List Value)
  | [] => .ok []
  | description :: rest => do
      let value ← description.resolve
      return value :: (← resolveAll rest)

end

/-- Plain data is as it is given. -/
@[simp] theorem resolve_given (value : Value) : (given value).resolve = .ok value := by
  simp [resolve]

end Description
end ModuleInterface

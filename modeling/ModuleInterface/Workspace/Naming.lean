import ModuleInterface.Codec.Named
import ModuleInterface.Workspace.State

/-!
# Names in a workspace

A session names partitions, elements, index kinds, sorts and the codecs of
records, and the names are looked up when a step needs them. A partition is named
by a record, by a specification of the session, or by its registered name, in this
order. A codec is named by a word; after a colon some words take the name of what
the codec is for.
-/

namespace ModuleInterface

/-- How a session names a partition. -/
inductive TargetName
  | named (name : String)
  /-- A specification of the format itself, which has its place in the catalogue. -/
  | known (spec : PartitionSpec) (placed : Catalogue.specs[spec.slot]? = some spec := by rfl)
  /-- Something that names no partition. -/
  | value (value : Value)
  deriving Repr

/-- How a session names a codec. -/
inductive CodecName
  /-- Padding, its length spelled out. -/
  | padding (length : String)
  /-- The codec of a record within another. -/
  | nested (record : String)
  /-- A number of `width` bytes that a vocabulary may name. -/
  | coerced (width : Nat) (vocabulary : String)
  /-- A byte that a vocabulary has to name. -/
  | strict (vocabulary : String)
  /-- An index of a kind. -/
  | index (kind : String)
  /-- A codec that needs nothing besides its name. -/
  | named (name : String)
  deriving Repr

/-- The name of a codec that a text spells: a word, and what stands after the first
colon. -/
def CodecName.ofText (text : String) : CodecName :=
  let (word, rest) := text.toList.span (· != ':')
  let subject := String.ofList (rest.drop 1)
  match String.ofList word with
  | "pad" => .padding subject
  | "nested" => .nested subject
  | "enum_u8" => .coerced 1 subject
  | "enum_u16" => .coerced 2 subject
  | "flags_u8" => .strict subject
  | "index" => .index subject
  | name => .named name

/-- How a session names the place of a partition. -/
structure PlaceName where
  partition : String
  indexKind : String
  /-- What is given for the sort; what counts as false stands for none. -/
  sort : Value
  deriving Repr

/-- The place of a partition: its name, and how it is indexed. -/
structure Place where
  partition : String
  indexKind : IndexKind
  sort : Option Nat
  deriving Repr

/-- What a step of a session names. -/
inductive Subject
  | container (name : String)
  | view (name : String)
  | record (name : String)
  | element (name : String)
  | partition (name : TargetName)
  | blob (name : String)
  | environment (name : String)
  /-- A partition of the format that a container must have. -/
  | located (container : String) (spec : PartitionSpec)
      (placed : Catalogue.specs[spec.slot]? = some spec := by rfl)
  deriving Repr

namespace Session

/-- The partition that a name stands for. -/
def target : TargetName → Session Target
  | .value value => return .other value
  | .known spec _ => return .spec spec
  | .named name => do
      let workspace ← get
      match workspace.records.find? name with
      | some record =>
          match record.spec with
          | some spec => return .spec spec
          | none => return .loose name
      | none =>
          match workspace.specs.find? name with
          | some spec => return .spec spec
          | none =>
              match workspace.registry.forName? name with
              | some spec => return .spec spec
              | none => throw (.unbound name)

/-- The element that a name stands for. -/
def elementNamed (name : String) : Session Element := do
  if name = Element.sequence.label then return .sequence
  else
    match IndexKind.ofLabel? name with
    | some kind => return .index kind
    | none => return .record (← recordNamed name).schema

/-- The index kind that a name stands for. -/
def indexKindNamed (name : String) : Session IndexKind :=
  match IndexKind.ofLabel? name with
  | some kind => return kind
  | none => throw (.unknownName name)

/-- The codec that a name stands for. A name that stands for something else is
refused only where the layout is put to use, and one that stands for nothing at
once. -/
def codecNamed : CodecName → Session (Except Fault Codec)
  | .padding length => return .ok (.padding (← ofExcept (Value.spelledInteger length)))
  | .nested record => return .ok (← recordNamed record).schema.codec
  | .coerced width vocabulary =>
      return .ok (.ofVocabulary width (← ofExcept (Vocabulary.named vocabulary)))
  | .strict vocabulary =>
      return .ok (.withinVocabulary 1 (← ofExcept (Vocabulary.named vocabulary)))
  | .index kind => return .ok (.index (← indexKindNamed kind))
  | .named name =>
      match Codec.ofName? name, Codec.otherwise? name with
      | some codec, _ => return .ok codec
      | none, some fault => return .error fault
      | none, none => throw (.codecUnknown name)

/-- The number of the sort that a value stands for in an index kind, which has to have
sorts of its own. -/
def sortGiven (kind : IndexKind) (sort : Value) : Except Fault Nat :=
  match kind with
  | .tagged kind => do kind.sorts.require (← sort.requireName)
  | _ => .error (.typeMemberAbsent kind.label "SORT_TYPE")

/-- The place that a name stands for. -/
def placeNamed (name : PlaceName) : Session Place := do
  let indexKind ← indexKindNamed name.indexKind
  if ← ofExcept name.sort.isTrue then
    return ⟨name.partition, indexKind, some (← ofExcept (sortGiven indexKind name.sort))⟩
  else return ⟨name.partition, indexKind, none⟩

/-- The specification that a target name stands for. -/
def specNamed (name : TargetName) : Session PartitionSpec := do
  ofExcept (← target name).resolve

/-- Fail unless what a step names is there. -/
def requireSubject : Subject → Session Unit
  | .container name => do discard <| containerNumber name
  | .view name => do discard <| bound (← get).views name
  | .record name => do discard <| recordNamed name
  | .element name => do discard <| elementNamed name
  | .partition name => do discard <| target name
  | .blob name => do discard <| bound (← get).blobs name
  | .environment name => do discard <| environmentNumber name
  | .located container spec _ => do
      discard <| onContainer (← containerNumber container) (Query.partition spec)

end Session
end ModuleInterface

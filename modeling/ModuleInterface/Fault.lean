import ModuleInterface.Bytes.Hex
import ModuleInterface.Index.Tagged
import ModuleInterface.Number.Numeral
import ModuleInterface.Report

/-!
# Faults

Everything that can go wrong, one constructor a cause. `report?` gives the
reader's own report of a cause that has one; `message?` is the wording of every
cause that is worded; `kind` is the sort of failure that a caller can tell
apart. A wording that would show a number without a numeral is not given:
`shown` puts the cause for that in place of the first one.
-/

namespace ModuleInterface

/-! ## Fixed dimensions of a container

A container starts with a signature and a header; only these two stand at fixed
places. The string table, the partitions and the table of contents are located
by the header and by the table of contents, in any order. -/

namespace Dimensions

/-- The bytes that every container starts with. -/
def signature : List UInt8 := [0x54, 0x51, 0x45, 0x1A]

/-- The number of bytes of the signature. -/
def signatureSize : Nat := 4

/-- The number of bytes of the checksum, which the header starts with. -/
def checksumSize : Nat := 32

/-- The number of bytes of the header. -/
def headerSize : Nat := 72

/-- The number of bytes of signature and header together. -/
def structureSize : Nat := signatureSize + headerSize

/-- The number of bytes of an entry of the table of contents. -/
def summarySize : Nat := 16

/-- The first byte that the checksum covers. -/
def checksumStart : Nat := signatureSize + checksumSize

@[simp] theorem length_signature : signature.length = signatureSize := rfl

end Dimensions

/-! ## Causes of failure -/

/-- The causes of failure. -/
inductive Fault
  /-- The bytes end before the signature does. -/
  | signatureCut (length : Nat)
  /-- The bytes do not start with the signature. -/
  | wrongSignature (found : List UInt8)
  /-- The bytes end before the header does. -/
  | headerCut (length : Nat)
  /-- The table of contents ends after the bytes do. -/
  | contentsOutside (start stop length : Nat)
  /-- The declared sizes do not add up to the number of bytes. -/
  | totalDisagrees (declared length : Nat)
  /-- The string table ends after the bytes do. -/
  | stringTableOutside (stop length : Nat)
  /-- A partition ends after the bytes do. -/
  | partitionOutside (stop length : Nat)
  /-- The name of a partition starts outside the string table. -/
  | nameOutside (tableSize offset : Nat)
  /-- The recorded checksum is not that of the content. -/
  | checksumDisagrees (path : String) (recorded computed : List UInt8)
  /-- A partition stores elements of another size than the reader expects. -/
  | elementSizeDisagrees (partition element : String) (expected got : Nat)
  /-- No record is known for the sort of an index, which is shown as it is
  printed. -/
  | unknownSort (index : String) (sort : Int)
  /-- The container has no partition of a name. -/
  | partitionAbsent (name : String)
  /-- No module of a name is loaded. -/
  | moduleAbsent (name : String)
  /-- The container was opened without an environment. -/
  | environmentAbsent
  /-- The bytes have been released. -/
  | released
  /-- Bytes, values or sizes do not fit a binary layout. -/
  | layoutViolated
  /-- An offset is past what a machine word can hold. -/
  | offsetOverflow
  /-- A range has fewer than no positions. -/
  | negativeLength
  /-- A length is past what a machine word can hold. -/
  | lengthOverflow
  /-- A key is not of the kind that a partition is indexed by. -/
  | wrongKeyKind (partition expected found : String)
  /-- A key has another sort than the records of a partition. -/
  | wrongKeySort (partition sort key : String)
  /-- The null scope was used as a key. -/
  | nullScope
  /-- A position is not in a partition. -/
  | positionOutside (position : Int) (partition : String) (count : Nat)
  /-- A floating-point position is not in a partition. -/
  | float64Outside (bits : UInt64) (partition : String) (count : Nat)
  /-- A range is not in a partition. -/
  | rangeOutside (start stop : Int) (partition : String) (count : Nat)
  /-- A text offset is not in the string table. -/
  | textOutsideTable (offset : Int) (size : Nat)
  /-- A text offset is not in the bytes. -/
  | textOutsideBlob (offset : Int) (length : Nat)
  /-- A start of a text that is shown otherwise than by an integer is not in the
  bytes. -/
  | startOutsideBlob (shown : String) (length : Nat)
  /-- A sort or a position does not fit the bits of an index. -/
  | indexMisfit (kind : TaggedKind) (misfit : TaggedIndex.Misfit)
  /-- The elements of a qualified name are no tuple. -/
  | partsNotTuple (elements : TaggedIndex)
  /-- A record declares another number of fields than its layout stores. -/
  | fieldCountDisagrees (record : String) (stored declared : Nat)
  /-- A partition name belongs to another specification. -/
  | nameTaken (name : String)
  /-- A sort belongs to another specification. -/
  | sortTaken (kind sort holder : String)
  /-- A target is neither a specification nor a record of one. -/
  | notSpecification (shown : String)
  /-- A record belongs to no partition. -/
  | recordUnplaced (record : String)
  /-- A value lacks what an operation asks of it. -/
  | memberAbsent (typeName member : String)
  /-- A value does not consist of fields. -/
  | notFields (typeName : String)
  /-- A value does not stand for an integer. -/
  | notInteger (typeName : String)
  /-- A text does not spell an integer. -/
  | notNumeral (shown : String)
  /-- A text spells an integer with more digits than a numeral may have. -/
  | numeralOverlong (digits : Nat)
  /-- A number has more digits than a numeral may have. -/
  | numberUnprintable
  /-- A value cannot be a length or an offset. -/
  | notLength (typeName : String)
  /-- A value is not compared with the place where bytes start. -/
  | notStart (typeName : String)
  /-- A value cannot bound a run of bytes. -/
  | notBound
  /-- A value cannot be looked up, because its content can change. -/
  | notKey (typeName : String)
  /-- A value stands for no member of an enumeration or of a flag set. -/
  | notMember (shown name : String)
  /-- An enumeration has no member of a name. -/
  | nameUnknown (shown : String)
  /-- What is not a number has no integer part. -/
  | nanHasNoInteger
  /-- An infinity has no integer part. -/
  | infinityHasNoInteger
  /-- A text holds an unpaired surrogate and cannot be stored. -/
  | textUnencodable
  /-- A text holds a character, at the given position, that is no hexadecimal digit
  where one is due. -/
  | notHexadecimal (position : Nat)
  /-- Hexadecimal digits are given as what is no text. -/
  | digitsMisgiven (shown : String)
  /-- A type lacks a member of a name. -/
  | typeMemberAbsent (typeName member : String)
  /-- The numbers of a pair are given as a value that does not consist of values. -/
  | pairShapeless (typeName given : String)
  /-- More numbers are given for a pair than it has, which is shown with how many
  were. -/
  | pairOverfull (typeName : String) (given : Nat)
  /-- The name of a field is no identifier. -/
  | fieldMalformed (shown : String)
  /-- The name of a field is a reserved word. -/
  | fieldReserved (shown : String)
  /-- Two fields of a record have one name. -/
  | fieldRepeated (shown : String)
  /-- A field without a default comes after one that has a default. -/
  | fieldAfterDefault (shown : String)
  /-- A field has for its default what all records of its shape would share. -/
  | defaultShared
  /-- Two names of what a record is made from are one name, in their normal form, on
  a line of the rule that makes it. -/
  | parameterRepeated (name : String) (line : Nat)
  /-- The name of a field stands for a constant, on a line of the rule that makes a
  record. -/
  | parameterConstant (name : String) (line : Nat)
  /-- A record is made from something under a name that is not in normal form. -/
  | parameterUnknown (name : String)
  /-- A field has a name under which no record can hold anything. -/
  | memberReadOnly (member record : String)
  /-- A field has the name under which a record holds its shape. -/
  | shapeReplaced (typeName : String)
  /-- A field has the name of what sets fields; the name of the value that takes its
  place is shown if it has fields itself. -/
  | setterReplaced (typeName : Option String)
  /-- The name of a record holds a null character. -/
  | recordNameNull
  /-- A layout names something that there is not. -/
  | codecUnknown (name : String)
  /-- What a layout names is no codec; the message may describe what it is. -/
  | notCodec (described : Option String)
  /-- A sort is given for an index without a position. -/
  | positionMissing (typeName : String)
  /-- A position of an index is not compared with numbers. -/
  | notCompared (typeName : String)
  /-- A position of an index cannot be moved past the bits of a sort. -/
  | notShifted (typeName : String)
  /-- A number is given in a base, which only a text can be. -/
  | baseWithoutText
  /-- There is no such base. -/
  | baseUnknown
  /-- A value is not compared with the numbers that are shown as numbers. -/
  | notOrdered (typeName : String)
  /-- A value is used as an operation. -/
  | notCallable (typeName : String)
  /-- A version has fewer than two numbers. -/
  | versionIncomplete
  /-- A value does not consist of values. -/
  | notItems (typeName : String)
  /-- Bytes are no whole number of items. -/
  | itemsIncomplete
  /-- A grid has no rows. -/
  | gridEmpty
  /-- The bytes of a grid do not fill one row. -/
  | gridRowless
  /-- The bytes of a grid do not fill its last row. -/
  | gridIncomplete
  /-- There is no file. -/
  | fileAbsent
  /-- A name is not bound. -/
  | unbound (name : String)
  deriving DecidableEq, Repr

/-- The sorts of failure that a caller can tell apart. -/
inductive FaultKind
  /-- An error of the reader. -/
  | reader (family : ErrorFamily)
  | wrongType
  | badValue
  | outOfRange
  | layoutViolated
  | overflow
  | memberAbsent
  | nameUnknown
  | badSyntax
  | unencodable
  | fileAbsent
  | unbound
  deriving DecidableEq, Repr

namespace Fault

/-- A report without a partition and without numbers. -/
private def plainReport (family : ErrorFamily) (message : String) : Report :=
  ⟨family, message, .null, .null, .null⟩

/-- A report with the two numbers that disagree. -/
private def numberReport (family : ErrorFamily) (message : String) (expected got : Nat) :
    Report :=
  ⟨family, message, .null, .integer expected, .integer got⟩

/-- The reader's own report of a fault. -/
def report? : Fault → Option Report
  | signatureCut length => some <|
      numberReport .invalidSignature
        s!"blob of {length} bytes is too short to hold a signature"
        Dimensions.signatureSize length
  | wrongSignature found => some <|
      plainReport .invalidSignature
        s!"corrupted file signature {Hex.encode found}, expected {Hex.encode Dimensions.signature}"
  | headerCut length => some <|
      numberReport .sizeMismatch "blob is too short to hold the file header"
        Dimensions.structureSize length
  | contentsOutside start stop length => some <|
      numberReport .sizeMismatch
        s!"table of contents [{start}, {stop}) runs past the end of the blob" stop length
  | totalDisagrees declared length => some <|
      numberReport .sizeMismatch
        "corrupted file: declared sizes do not add up to the blob length" declared length
  | stringTableOutside stop length => some <|
      numberReport .sizeMismatch "string table runs past the end of the blob" stop length
  | partitionOutside stop length => some <|
      numberReport .sizeMismatch "partition runs past the end of the blob" stop length
  | nameOutside tableSize offset => some <|
      numberReport .corruptFormat "partition name lies outside the string table"
        tableSize offset
  | checksumDisagrees path recorded computed => some <|
      plainReport .checksumMismatch <|
        s!"checksum mismatch in {path}: header has {Hex.encode recorded}, " ++
          s!"content hashes to {Hex.encode computed}"
  | elementSizeDisagrees partition element expected got => some
      ⟨.schemaMismatch, s!"element size of '{partition}' disagrees with {element}",
        .text partition, .integer expected, .integer got⟩
  | unknownSort index sort => some
      ⟨.unsupportedSort, s!"no record shape is known for {index}", .null, .null, .integer sort⟩
  | partitionAbsent name => some
      ⟨.missingPartition, s!"container has no partition '{name}'", .text name, .null, .null⟩
  | moduleAbsent name => some <|
      plainReport .unknownModule s!"module '{name}' is not loaded"
  | environmentAbsent => some <|
      plainReport .noModuleResolver "container was loaded without a module resolver"
  | _ => none

/-- The sort of failure. -/
def kind : Fault → FaultKind
  | signatureCut _ | wrongSignature _ => .reader .invalidSignature
  | headerCut _ | contentsOutside _ _ _ | totalDisagrees _ _ | stringTableOutside _ _
  | partitionOutside _ _ => .reader .sizeMismatch
  | nameOutside _ _ => .reader .corruptFormat
  | checksumDisagrees _ _ _ => .reader .checksumMismatch
  | elementSizeDisagrees _ _ _ _ => .reader .schemaMismatch
  | unknownSort _ _ => .reader .unsupportedSort
  | partitionAbsent _ => .reader .missingPartition
  | moduleAbsent _ => .reader .unknownModule
  | environmentAbsent => .reader .noModuleResolver
  | released | wrongKeySort _ _ _ | indexMisfit _ _ | partsNotTuple _ | nameTaken _
  | sortTaken _ _ _ | notNumeral _ | numeralOverlong _ | numberUnprintable
  | notMember _ _ | nanHasNoInteger | negativeLength | notHexadecimal _
  | recordNameNull | defaultShared | baseUnknown | itemsIncomplete | gridRowless => .badValue
  | wrongKeyKind _ _ _ | fieldCountDisagrees _ _ _ | notSpecification _
  | recordUnplaced _ | notFields _ | notInteger _ | notLength _ | notStart _ | notBound
  | notKey _
  | pairShapeless _ _ | pairOverfull _ _ | fieldMalformed _ | fieldReserved _
  | fieldRepeated _ | fieldAfterDefault _ | parameterUnknown _ | shapeReplaced _
  | setterReplaced _ | notCompared _ | notShifted _ | baseWithoutText | notOrdered _
  | notCallable _ | digitsMisgiven _
  | positionMissing _ | notItems _ | gridEmpty | gridIncomplete => .wrongType
  | parameterRepeated _ _ | parameterConstant _ _ => .badSyntax
  | nullScope | positionOutside _ _ _ | float64Outside _ _ _ | rangeOutside _ _ _ _
  | textOutsideTable _ _ | textOutsideBlob _ _ | startOutsideBlob _ _
  | versionIncomplete => .outOfRange
  | layoutViolated => .layoutViolated
  | offsetOverflow | lengthOverflow | infinityHasNoInteger => .overflow
  | memberAbsent _ _ | typeMemberAbsent _ _ | memberReadOnly _ _ | codecUnknown _
  | notCodec _ => .memberAbsent
  | nameUnknown _ => .nameUnknown
  | textUnencodable => .unencodable
  | fileAbsent => .fileAbsent
  | unbound _ => .unbound

/-- The wording of a misfit. -/
def misfitMessage (kind : TaggedKind) : TaggedIndex.Misfit → String
  | .sort number =>
      s!"{kind.label} sort {number} does not fit in {kind.sortBits} bits"
  | .position number =>
      s!"{kind.label} position {number} does not fit in {kind.positionBits} bits"
  | .float64 bits =>
      s!"{kind.label} position {Binary64.text bits} does not fit in {kind.positionBits} bits"

/-- The wording for a position that is not in a partition. -/
def positionMessage (position partition : String) (count : Nat) : String :=
  s!"position {position} out of range for partition '{partition}' of {count} elements"

/-- The wording for a start of a text that is not in the bytes. -/
def startMessage (start : String) (length : Nat) : String :=
  s!"text offset {start} outside blob of {length} bytes"

/-- The start of the wording for a number with too many digits. -/
def numeralLimitMessage : String :=
  s!"Exceeds the limit ({Numeral.digitLimit} digits) for integer string conversion"

/-- The end of the wording for a number with too many digits. -/
def numeralLimitAdvice : String :=
  "use sys.set_int_max_str_digits() to increase the limit"

/-- The wording of a fault, where it is worded. -/
def message? (fault : Fault) : Option String :=
  match fault with
  | released => some "operation forbidden on released memoryview object"
  | wrongKeyKind partition expected found =>
      some s!"partition '{partition}' is indexed by {expected}, not {found}"
  | wrongKeySort partition sort key =>
      some s!"partition '{partition}' holds {sort} records, got index {key}"
  | nullScope => some "null scope index does not designate a scope"
  | positionOutside position partition count =>
      some (positionMessage (toString position) partition count)
  | float64Outside bits partition count =>
      some (positionMessage (Binary64.text bits) partition count)
  | rangeOutside start stop partition count =>
      some <| s!"sequence [{start}, {stop}) out of range for partition '{partition}' " ++
        s!"of {count} elements"
  | textOutsideTable offset size =>
      some s!"text offset {offset} outside string table of {size} bytes"
  | textOutsideBlob offset length => some (startMessage (toString offset) length)
  | startOutsideBlob shown length => some (startMessage shown length)
  | indexMisfit kind misfit => some (misfitMessage kind misfit)
  | partsNotTuple elements =>
      some s!"qualified name elements must be a tuple expression, got {elements.render}"
  | fieldCountDisagrees record stored declared =>
      some s!"{record}: layout describes {stored} fields but the record declares {declared}"
  | nameTaken name => some s!"partition name '{name}' registered twice"
  | sortTaken kind sort holder => some s!"{kind} sort {sort} already maps to '{holder}'"
  | notSpecification shown =>
      some s!"{shown} is neither a PartitionSpec nor a partition record type"
  | memberAbsent typeName member =>
      some s!"'{typeName}' object has no attribute '{member}'"
  | notFields typeName => some s!"Value after * must be an iterable, not {typeName}"
  | notInteger typeName =>
      some <| "int() argument must be a string, a bytes-like object or a real number, " ++
        s!"not '{typeName}'"
  | notNumeral shown => some s!"invalid literal for int() with base 10: {shown}"
  | numeralOverlong digits =>
      some <| numeralLimitMessage ++ s!": value has {digits} digits; " ++ numeralLimitAdvice
  | numberUnprintable => some (numeralLimitMessage ++ "; " ++ numeralLimitAdvice)
  | notLength typeName => some s!"'{typeName}' object cannot be interpreted as an integer"
  | notStart typeName =>
      some s!"'<' not supported between instances of '{typeName}' and 'int'"
  | notBound =>
      some "slice indices must be integers or None or have an __index__ method"
  | notKey typeName => some s!"unhashable type: '{typeName}'"
  | notMember shown name => some s!"{shown} is not a valid {name}"
  | nameUnknown shown => some shown
  | notHexadecimal position =>
      some s!"non-hexadecimal number found in fromhex() arg at position {position}"
  | digitsMisgiven shown => some s!"fromhex() argument must be str, not {shown}"
  | typeMemberAbsent typeName member =>
      some s!"type object '{typeName}' has no attribute '{member}'"
  | pairShapeless typeName given =>
      some s!"ifc.index.{typeName}() argument after * must be an iterable, not {given}"
  | pairOverfull typeName given =>
      some <| s!"{typeName}.__init__() takes from 1 to 3 positional arguments but " ++
        s!"{given + 1} were given"
  | fieldMalformed shown => some s!"Field names must be valid identifiers: {shown}"
  | fieldReserved shown => some s!"Field names must not be keywords: {shown}"
  | fieldRepeated shown => some s!"Field name duplicated: {shown}"
  | fieldAfterDefault shown => some s!"non-default argument {shown} follows default argument"
  | parameterRepeated name line =>
      some s!"duplicate argument '{name}' in function definition (<string>, line {line})"
  | parameterConstant name line => some s!"cannot assign to {name} (<string>, line {line})"
  | parameterUnknown name =>
      some s!"__create_fn__() got an unexpected keyword argument '{name}'"
  | memberReadOnly member record =>
      some s!"attribute '{member}' of '{record}' objects is not writable"
  | shapeReplaced typeName =>
      some s!"__class__ must be set to a class, not '{typeName}' object"
  | setterReplaced none => some " expected 2 arguments, got 3"
  | setterReplaced (some typeName) =>
      some s!"{typeName}.__setattr__() takes 3 positional arguments but 4 were given"
  | codecUnknown name => some s!"module 'ifc.schema' has no attribute '{name}'"
  | notCodec none => some "arity"
  | notCodec (some described) => some s!"{described} has no attribute 'arity'"
  | positionMissing typeName =>
      some s!"{typeName}.__init__() missing 1 required positional argument: 'index'"
  | notCompared typeName =>
      some s!"'<=' not supported between instances of 'int' and '{typeName}'"
  | notShifted typeName =>
      some s!"unsupported operand type(s) for <<: '{typeName}' and 'int'"
  | baseWithoutText => some "int() can't convert non-string with explicit base"
  | baseUnknown => some "int() base must be >= 2 and <= 36, or 0"
  | notOrdered typeName =>
      some s!"'<' not supported between instances of 'int' and '{typeName}'"
  | notCallable typeName => some s!"'{typeName}' object is not callable"
  | versionIncomplete => some "tuple index out of range"
  | notItems typeName => some s!"'{typeName}' object is not iterable"
  | itemsIncomplete => some "bytes length not a multiple of item size"
  | gridEmpty => some "memoryview: cannot cast view with zeros in shape or strides"
  | gridRowless => some "memoryview.cast(): elements of shape must be integers > 0"
  | gridIncomplete => some "memoryview: product(shape) * itemsize != buffer size"
  | recordNameNull => some "type name must not contain null characters"
  | negativeLength => some "__len__() should return >= 0"
  | nanHasNoInteger => some "cannot convert float NaN to integer"
  | unbound name => some name
  | _ => fault.report?.map Report.human

/-- The numbers that a wording shows and that a caller's numbers make, which may
have any number of digits. -/
def numbers : Fault → List Int
  | positionOutside position _ _ => [position]
  | rangeOutside start stop _ _ => [start, stop]
  | textOutsideTable offset _ => [offset]
  | textOutsideBlob offset _ => [offset]
  | indexMisfit _ (.sort number) => [number]
  | indexMisfit _ (.position number) => [number]
  | _ => []

/-- The fault that is reported for a fault: that a number is unprintable, where
the wording would have to show such a number. -/
def shown (fault : Fault) : Fault :=
  if fault.numbers.all Numeral.isPrintable then fault else .numberUnprintable

end Fault
end ModuleInterface

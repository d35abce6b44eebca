import ModuleInterface.Codec.Basic
import ModuleInterface.Value.Vocabulary

/-!
# Names of codecs

The codecs that need nothing besides a name, those of a vocabulary, and the names
that stand for something else where a layout is described.
-/

namespace ModuleInterface
namespace Codec

/-- The codecs that have a name. -/
def standard : List (String × Codec) := [
  ("U8", .unsigned 1), ("U16", .unsigned 2), ("U32", .unsigned 4), ("U64", .unsigned 8),
  ("F64", .float64), ("BOOL", .boolean), ("PAD1", .padding 1), ("PAD2", .padding 2),
  ("PAD3", .padding 3), ("INDEX", .index (.plain .index)), ("SCOPE", .index (.plain .scope)),
  ("TEXT", .index (.plain .text)), ("DECL", .index (.tagged .decl)),
  ("TYPE", .index (.tagged .type)), ("EXPR", .index (.tagged .expr)),
  ("NAME", .index (.tagged .name)), ("CHART", .index (.tagged .chart)),
  ("SYNTAX", .index (.tagged .syntaxTree)), ("ATTR", .index (.tagged .attr)),
  ("UNIT", .index (.tagged .unit)), ("LIT", .index (.tagged .lit)),
  ("STRING", .index (.tagged .string)), ("SEQUENCE", .sequence), ("LOCUS", .location),
  ("MODULE_REFERENCE", .moduleReference)]

/-- The codec of a name, if one has it. -/
def ofName? (name : String) : Option Codec :=
  standard.lookup name

/-- A number of `width` bytes that a vocabulary may name. -/
def ofVocabulary (width : Nat) : Vocabulary → Codec
  | .enumeration known => .enumerator width known
  | .flags set => .flags width set

/-- A number of `width` bytes that a vocabulary has to name. Every number is some
flags. -/
def withinVocabulary (width : Nat) : Vocabulary → Codec
  | .enumeration known => .member width known
  | .flags set => .flags width set

/-- Names of types. -/
def typeNames : List (String × String) :=
  ([ "AbstractIndex", "AttrIndex", "ChartIndex", "DeclIndex", "ExprIndex", "Index",
    "LitIndex", "ModuleReference", "NameIndex", "ScopeIndex", "Sequence", "SourceLocation",
    "StringIndex", "SyntaxIndex", "TextOffset", "TypeIndex", "UnitIndex", "FieldCodec",
    "PartitionSpec", "Any", "Callable", "Iterable"].map fun name => (name, name)) ++
  [("Dict", "dict"), ("Tuple", "tuple"), ("Type", "type"), ("__class__", "module")]

/-- Names of rules. -/
def ruleNames : List String := [
  "index_codec", "_decode_fields", "register_partition", "partition_spec",
  "compile_layout", "partition_record", "spec_for_name", "spec_for_index",
  "registered_specs", "slot_count", "as_spec", "coerce_enum", "dataclass"]

/-- Names of collections of names. -/
def libraryNames : List String := ["dataclasses", "itertools", "struct"]

/-- Names of operations on the names of a collection. -/
def operationNames : List String := [
  "__delattr__", "__eq__", "__ge__", "__getattribute__", "__gt__", "__hash__", "__init__",
  "__le__", "__lt__", "__ne__", "__repr__", "__setattr__", "__str__"]

/-- Names of operations on everything. -/
def commonOperationNames : List String := [
  "__dir__", "__format__", "__getstate__", "__init_subclass__", "__new__", "__reduce__",
  "__reduce_ex__", "__sizeof__", "__subclasshook__"]

/-- Names of what a message does not describe. -/
def undescribedNames : List String := ["IntEnum", "IntFlag", "Optional"]

/-- Names of single things, each with what it is. -/
def thingNames : List (String × String) := [
  ("annotations", "_Feature"), ("_SLOT_COUNTER", "itertools.count"),
  ("_SPECS_BY_NAME", "dict"), ("_SPECS_BY_SORT", "dict"), ("__all__", "list"),
  ("__annotations__", "dict"), ("__builtins__", "dict"), ("__dict__", "dict"),
  ("__cached__", "str"), ("__doc__", "str"), ("__file__", "str"), ("__name__", "str"),
  ("__package__", "str"), ("__loader__", "SourceFileLoader"), ("__spec__", "ModuleSpec")]

/-- What a name stands for that is no codec, as a message describes it. -/
def described? (name : String) : Option String :=
  ((typeNames.lookup name).map fun type => s!"type object '{type}'").or <|
    ((thingNames.lookup name).map fun thing => s!"'{thing}' object").or <|
      if ruleNames.contains name then some "'function' object"
      else if operationNames.contains name then some "'method-wrapper' object"
      else if commonOperationNames.contains name then
        some "'builtin_function_or_method' object"
      else if libraryNames.contains name then some s!"module '{name}'"
      else none

/-- The fault of a name that stands for something that is no codec. -/
def otherwise? (name : String) : Option Fault :=
  if undescribedNames.contains name then some (.notCodec none)
  else (described? name).map fun described => .notCodec (some described)

end Codec
end ModuleInterface

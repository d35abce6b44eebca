/-!
# Enumerations

Many fields of a record hold a number that stands for a name. An enumeration
names the numbers 0, 1, 2, … in order; a number past the last name is kept as a
plain number.
-/

namespace ModuleInterface

/-- The enumerations that the format knows. -/
inductive Enumeration
  /-- Sorts of declarations. -/
  | declSort
  /-- Sorts of types. -/
  | typeSort
  /-- Sorts of expressions. -/
  | exprSort
  /-- Sorts of names. -/
  | nameSort
  /-- Sorts of template parameter lists. -/
  | chartSort
  /-- Sorts of attributes. -/
  | attrSort
  /-- Sorts of translation units. -/
  | unitSort
  /-- Sorts of literal constants. -/
  | literalSort
  /-- Encodings of string literals. -/
  | stringSort
  /-- Sorts of syntax trees. -/
  | syntaxSort
  /-- Bases of fundamental types. -/
  | typeBasis
  /-- Access of a member. -/
  | access
  /-- Sorts of the words of an attribute. -/
  | wordSort
  /-- Sorts of exception specifications. -/
  | noexceptSort
  /-- Sorts of parameters. -/
  | parameterSort
  /-- Precision of a fundamental type. -/
  | typePrecision
  /-- Sign of a fundamental type. -/
  | typeSign
  /-- Modes of a pack expansion. -/
  | expansionMode
  /-- Kinds of a read of an expression. -/
  | readKind
  /-- Delimiters of an expression list. -/
  | expressionListDelimiter
  deriving DecidableEq, Repr

namespace Enumeration

/-- Every enumeration. -/
def all : List Enumeration := [
  .declSort, .typeSort, .exprSort, .nameSort, .chartSort, .attrSort, .unitSort,
  .literalSort, .stringSort, .syntaxSort, .typeBasis, .access, .wordSort,
  .noexceptSort, .parameterSort, .typePrecision, .typeSign, .expansionMode, .readKind,
  .expressionListDelimiter
]

/-- The name of an enumeration. -/
def name : Enumeration → String
  | .declSort => "DeclSort"
  | .typeSort => "TypeSort"
  | .exprSort => "ExprSort"
  | .nameSort => "NameSort"
  | .chartSort => "ChartSort"
  | .attrSort => "AttrSort"
  | .unitSort => "UnitSort"
  | .literalSort => "LiteralSort"
  | .stringSort => "StringSort"
  | .syntaxSort => "SyntaxSort"
  | .typeBasis => "TypeBasis"
  | .access => "Access"
  | .wordSort => "WordSort"
  | .noexceptSort => "NoexceptSort"
  | .parameterSort => "ParameterSort"
  | .typePrecision => "TypePrecision"
  | .typeSign => "TypeSign"
  | .expansionMode => "ExpansionMode"
  | .readKind => "ReadKind"
  | .expressionListDelimiter => "ExpressionListDelimiter"

/-- The names of an enumeration, that of 0 first. -/
def members : Enumeration → List String
  | .declSort => [
      "VENDOR_EXTENSION", "ENUMERATOR", "VARIABLE", "PARAMETER", "FIELD", "BITFIELD",
      "SCOPE", "ENUMERATION", "ALIAS", "TEMPLOID", "TEMPLATE", "PARTIAL_SPECIALIZATION",
      "SPECIALIZATION", "DEFAULT_ARGUMENT", "CONCEPT", "FUNCTION", "METHOD", "CONSTRUCTOR",
      "INHERITED_CONSTRUCTOR", "DESTRUCTOR", "REFERENCE", "USING", "PROLONGATION",
      "FRIEND", "EXPANSION", "DEDUCTION_GUIDE", "BARREN", "TUPLE", "SYNTAX_TREE",
      "INTRINSIC", "PROPERTY", "OUTPUT_SEGMENT"]
  | .typeSort => [
      "VENDOR_EXTENSION", "FUNDAMENTAL", "DESIGNATED", "TOR", "SYNTACTIC", "EXPANSION",
      "POINTER", "POINTER_TO_MEMBER", "LVALUE_REFERENCE", "RVALUE_REFERENCE", "FUNCTION",
      "METHOD", "ARRAY", "TYPENAME", "QUALIFIED", "BASE", "DECLTYPE", "PLACEHOLDER",
      "TUPLE", "FORALL", "UNALIGNED", "SYNTAX_TREE"]
  | .exprSort => [
      "VENDOR_EXTENSION", "EMPTY", "LITERAL", "LAMBDA", "TYPE", "NAMED_DECL",
      "UNRESOLVED_ID", "TEMPLATE_ID", "UNQUALIFIED_ID", "SIMPLE_IDENTIFIER", "POINTER",
      "QUALIFIED_NAME", "PATH", "READ", "MONAD", "DYAD", "TRIAD", "STRING", "TEMPORARY",
      "CALL", "MEMBER_INITIALIZER", "MEMBER_ACCESS", "INHERITANCE_PATH",
      "INITIALIZER_LIST", "CAST", "CONDITION", "EXPRESSION_LIST", "SIZEOF_TYPE", "ALIGNOF",
      "LABEL", "UNUSED_SORT0", "TYPEID", "DESTRUCTOR_CALL", "SYNTAX_TREE",
      "FUNCTION_STRING", "COMPOUND_STRING", "STRING_SEQUENCE", "INITIALIZER", "REQUIRES",
      "UNARY_FOLD", "BINARY_FOLD", "HIERARCHY_CONVERSION", "PRODUCT_TYPE_VALUE",
      "SUM_TYPE_VALUE", "UNUSED_SORT1", "ARRAY_VALUE", "DYNAMIC_DISPATCH",
      "VIRTUAL_FUNCTION_CONVERSION", "PLACEHOLDER", "EXPANSION", "GENERIC", "TUPLE",
      "NULLPTR", "THIS", "TEMPLATE_REFERENCE", "STATEMENT", "TYPE_TRAIT_INTRINSIC",
      "DESIGNATED_INITIALIZER", "PACKED_TEMPLATE_ARGUMENTS", "TOKENS", "ASSIGN_INITIALIZER"]
  | .nameSort => [
      "IDENTIFIER", "OPERATOR", "CONVERSION", "LITERAL", "TEMPLATE", "SPECIALIZATION",
      "SOURCE_FILE", "GUIDE"]
  | .chartSort => [
      "NONE", "UNILEVEL", "MULTILEVEL"]
  | .attrSort => [
      "NOTHING", "BASIC", "SCOPED", "LABELED", "CALLED", "EXPANDED", "FACTORED",
      "ELABORATED", "TUPLE"]
  | .unitSort => [
      "SOURCE", "PRIMARY", "PARTITION", "HEADER", "EXPORTED_TU"]
  | .literalSort => [
      "IMMEDIATE", "INTEGER", "FLOATING_POINT"]
  | .stringSort => [
      "ORDINARY", "UTF8", "UTF16", "UTF32", "WIDE"]
  | .syntaxSort => [
      "VENDOR_EXTENSION", "SIMPLE_TYPE_SPECIFIER", "DECLTYPE_SPECIFIER",
      "PLACEHOLDER_TYPE_SPECIFIER", "TYPE_SPECIFIER_SEQ", "DECL_SPECIFIER_SEQ",
      "VIRTUAL_SPECIFIER_SEQ", "NOEXCEPT_SPECIFICATION", "EXPLICIT_SPECIFIER",
      "ENUM_SPECIFIER", "ENUMERATOR_DEFINITION", "CLASS_SPECIFIER", "MEMBER_SPECIFICATION",
      "MEMBER_DECLARATION", "MEMBER_DECLARATOR", "ACCESS_SPECIFIER", "BASE_SPECIFIER_LIST",
      "BASE_SPECIFIER", "TYPE_ID", "TRAILING_RETURN_TYPE", "DECLARATOR",
      "POINTER_DECLARATOR", "ARRAY_DECLARATOR", "FUNCTION_DECLARATOR",
      "ARRAY_OR_FUNCTION_DECLARATOR", "PARAMETER_DECLARATOR", "INIT_DECLARATOR",
      "NEW_DECLARATOR", "SIMPLE_DECLARATION", "EXCEPTION_DECLARATION",
      "CONDITION_DECLARATION", "STATIC_ASSERT_DECLARATION", "ALIAS_DECLARATION",
      "CONCEPT_DEFINITION", "COMPOUND_STATEMENT", "RETURN_STATEMENT", "IF_STATEMENT",
      "WHILE_STATEMENT", "DO_WHILE_STATEMENT", "FOR_STATEMENT", "INIT_STATEMENT",
      "RANGE_BASED_FOR_STATEMENT", "FOR_RANGE_DECLARATION", "LABELED_STATEMENT",
      "BREAK_STATEMENT", "CONTINUE_STATEMENT", "SWITCH_STATEMENT", "GOTO_STATEMENT",
      "DECLARATION_STATEMENT", "EXPRESSION_STATEMENT", "TRY_BLOCK", "HANDLER",
      "HANDLER_SEQ", "FUNCTION_TRY_BLOCK", "TYPE_ID_LIST_ELEMENT",
      "DYNAMIC_EXCEPTION_SPEC", "STATEMENT_SEQ", "FUNCTION_BODY", "EXPRESSION",
      "FUNCTION_DEFINITION", "MEMBER_FUNCTION_DECLARATION", "TEMPLATE_DECLARATION",
      "REQUIRES_CLAUSE", "SIMPLE_REQUIREMENT", "TYPE_REQUIREMENT", "COMPOUND_REQUIREMENT",
      "NESTED_REQUIREMENT", "REQUIREMENT_BODY", "TYPE_TEMPLATE_PARAMETER",
      "TEMPLATE_TEMPLATE_PARAMETER", "TYPE_TEMPLATE_ARGUMENT",
      "NON_TYPE_TEMPLATE_ARGUMENT", "TEMPLATE_PARAMETER_LIST", "TEMPLATE_ARGUMENT_LIST",
      "TEMPLATE_ID", "MEM_INITIALIZER", "CTOR_INITIALIZER", "LAMBDA_INTRODUCER",
      "LAMBDA_DECLARATOR", "CAPTURE_DEFAULT", "SIMPLE_CAPTURE", "INIT_CAPTURE",
      "THIS_CAPTURE", "ATTRIBUTED_STATEMENT", "ATTRIBUTED_DECLARATION",
      "ATTRIBUTE_SPECIFIER_SEQ", "ATTRIBUTE_SPECIFIER", "ATTRIBUTE_USING_PREFIX",
      "ATTRIBUTE", "ATTRIBUTE_ARGUMENT_CLAUSE", "ALIGNAS", "USING_DECLARATION",
      "USING_DECLARATOR", "USING_DIRECTIVE", "ARRAY_INDEX", "SEH_TRY", "SEH_EXCEPT",
      "SEH_FINALLY", "SEH_LEAVE", "TYPE_TRAIT_INTRINSIC", "TUPLE", "ASM_STATEMENT",
      "NAMESPACE_ALIAS_DEFINITION", "SUPER", "UNARY_FOLD_EXPRESSION",
      "BINARY_FOLD_EXPRESSION", "EMPTY_STATEMENT", "STRUCTURED_BINDING_DECLARATION",
      "STRUCTURED_BINDING_IDENTIFIER_LIST", "USING_ENUM_DECLARATION"]
  | .typeBasis => [
      "VOID", "BOOL", "CHAR", "WCHAR_T", "INT", "FLOAT", "DOUBLE", "NULLPTR", "ELLIPSIS",
      "SEGMENT_TYPE", "CLASS", "STRUCT", "UNION", "ENUM", "TYPENAME", "NAMESPACE",
      "INTERFACE", "FUNCTION", "EMPTY", "VARIABLE_TEMPLATE", "CONCEPT", "AUTO",
      "DECLTYPE_AUTO", "OVERLOAD"]
  | .access => [
      "NONE", "PRIVATE", "PROTECTED", "PUBLIC"]
  | .wordSort => [
      "UNKNOWN", "DIRECTIVE", "PUNCTUATOR", "LITERAL", "OPERATOR", "KEYWORD", "IDENTIFIER"]
  | .noexceptSort => [
      "NONE", "FALSE", "TRUE", "EXPRESSION", "INFERRED", "UNENFORCED"]
  | .parameterSort => [
      "OBJECT", "TYPE", "NON_TYPE", "TEMPLATE"]
  | .typePrecision => [
      "DEFAULT", "SHORT", "LONG", "BIT8", "BIT16", "BIT32", "BIT64", "BIT128"]
  | .typeSign => [
      "PLAIN", "SIGNED", "UNSIGNED"]
  | .expansionMode => [
      "FULL", "PARTIAL"]
  | .readKind => [
      "UNKNOWN", "INDIRECTION", "REMOVE_REFERENCE", "LVALUE_TO_RVALUE",
      "INTEGRAL_CONVERSION"]
  | .expressionListDelimiter => [
      "UNKNOWN", "BRACE", "PARENTHESIS"]

/-- The enumeration of a given name. -/
def ofName? (name : String) : Option Enumeration :=
  all.find? fun enumeration => enumeration.name = name

/-- The name of a number, when the enumeration has one. -/
def nameOf? (enumeration : Enumeration) (number : Nat) : Option String :=
  enumeration.members[number]?

/-- The number of a name, when the enumeration has it. -/
def numberOf? (enumeration : Enumeration) (name : String) : Option Nat :=
  enumeration.members.idxOf? name

/-- Whether a number has a name. -/
def Knows (enumeration : Enumeration) (number : Nat) : Prop :=
  number < enumeration.members.length

instance (enumeration : Enumeration) (number : Nat) :
    Decidable (enumeration.Knows number) :=
  inferInstanceAs (Decidable (number < enumeration.members.length))

/-- The name of a number, or the number itself in decimal. -/
def label (enumeration : Enumeration) (number : Nat) : String :=
  (enumeration.nameOf? number).getD (toString number)

/-- A member with its enumeration and its number, or the bare number. -/
def describe (enumeration : Enumeration) (number : Nat) : String :=
  match enumeration.nameOf? number with
  | some member => s!"<{enumeration.name}.{member}: {number}>"
  | none => toString number

end Enumeration
end ModuleInterface

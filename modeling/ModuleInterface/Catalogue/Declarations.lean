import ModuleInterface.Catalogue.Fields

/-!
# Declarations, types and names

What a module declares: members of scopes, declarations of every sort, the types
they have and the names that are no identifiers. An identifier needs no record:
the position of its index is a text offset.
-/

namespace ModuleInterface
namespace Catalogue

open Fields

/-- The exception specification of a function. -/
def noexceptSpecification : Schema where
  name := "NoexceptSpecification"
  fields := ["words", "sort"]
  layout := [u32, enumerated .noexceptSort, pad 3]

/-- The entity that a template declares. -/
def parameterizedEntity : Schema where
  name := "ParameterizedEntity"
  fields := ["decl", "head", "body", "attributes"]
  layout := [decl, u32, u32, u8, pad 3]

/-- Records of the partition `scope.member`. -/
def declaration : Schema where
  name := "Declaration"
  fields := ["index"]
  layout := [decl]

/-- Records of the partition `decl.scope`. -/
def scopeDeclaration : Schema where
  name := "ScopeDeclaration"
  fields := [
    "name", "locus", "type", "base", "initializer", "home_scope", "alignment",
    "pack_size", "specifiers", "traits", "access", "properties"]
  layout := [
    name, .location, type, type, scope, decl, u32, u16, specifiers, u8, access, u8, pad 2]

/-- Records of the partition `decl.template`. -/
def templateDeclaration : Schema where
  name := "TemplateDeclaration"
  fields := [
    "name", "locus", "home_scope", "chart", "entity", "type", "access", "specifiers",
    "properties"]
  layout := [
    name, .location, decl, chart, parameterizedEntity.codec, type, access, specifiers, u8,
    pad 1]

/-- Records of the partition `decl.using`. -/
def usingDeclaration : Schema where
  name := "UsingDeclaration"
  fields := [
    "name", "locus", "home_scope", "resolution", "parent", "member_name", "specifiers",
    "access", "hidden"]
  layout := [
    name, .location, decl, decl, expr, text, specifiers, access, .boolean, pad 1]

/-- Records of the partition `decl.enum`. -/
def enumeration : Schema where
  name := "Enumeration"
  fields := [
    "name", "locus", "type", "base", "initializer", "home_scope", "alignment",
    "specifiers", "access", "properties"]
  layout := [
    text, .location, type, type, .sequence, decl, u32, specifiers, access, u8, pad 1]

/-- Records of the partition `decl.enumerator`. -/
def enumerator : Schema where
  name := "Enumerator"
  fields := ["name", "locus", "type", "initializer", "specifiers", "access"]
  layout := [text, .location, type, expr, specifiers, access, pad 2]

/-- Records of the partition `decl.alias`. -/
def aliasDeclaration : Schema where
  name := "AliasDeclaration"
  fields := ["name", "locus", "type", "home_scope", "aliasee", "specifiers", "access"]
  layout := [text, .location, type, decl, type, specifiers, access, pad 2]

/-- Records of the partition `decl.reference`. -/
def declReference : Schema where
  name := "DeclReference"
  fields := ["unit", "local_index"]
  layout := [.moduleReference, decl]

/-- Records of the partition `decl.function`. -/
def functionDeclaration : Schema where
  name := "FunctionDeclaration"
  fields := [
    "name", "locus", "type", "home_scope", "chart", "traits", "specifiers", "access",
    "properties"]
  layout := [name, .location, type, decl, chart, u16, specifiers, access, u8, pad 3]

/-- Records of the partition `decl.method`. -/
def methodDeclaration : Schema where
  name := "MethodDeclaration"
  fields := [
    "name", "locus", "type", "home_scope", "chart", "traits", "specifiers", "access",
    "properties"]
  layout := [name, .location, type, decl, chart, u16, specifiers, access, u8, pad 3]

/-- Records of the partition `decl.constructor`. -/
def constructor : Schema where
  name := "Constructor"
  fields := [
    "name", "locus", "type", "home_scope", "chart", "traits", "specifiers", "access",
    "properties"]
  layout := [text, .location, type, decl, chart, u16, specifiers, access, u8, pad 3]

/-- Records of the partition `decl.destructor`. -/
def destructor : Schema where
  name := "Destructor"
  fields := [
    "name", "locus", "home_scope", "eh_spec", "specifiers", "access", "convention",
    "properties"]
  layout := [
    text, .location, decl, noexceptSpecification.codec, specifiers, access, u8, u8]

/-- Records of the partition `decl.variable`. -/
def variableDeclaration : Schema where
  name := "VariableDeclaration"
  fields := [
    "name", "locus", "type", "home_scope", "initializer", "alignment", "traits",
    "specifiers", "access", "properties"]
  layout := [name, .location, type, decl, expr, u32, u8, specifiers, access, u8]

/-- Records of the partition `decl.field`. -/
def fieldDeclaration : Schema where
  name := "FieldDeclaration"
  fields := [
    "name", "locus", "type", "home_scope", "initializer", "alignment", "traits",
    "specifiers", "access", "properties"]
  layout := [text, .location, type, decl, expr, u32, u8, specifiers, access, u8]

/-- Records of the partition `decl.parameter`. -/
def parameterDeclaration : Schema where
  name := "ParameterDeclaration"
  fields := [
    "name", "locus", "type", "constraint", "initializer", "level", "position", "sort",
    "properties"]
  layout := [
    text, .location, type, expr, decl, u32, u32, enumerated .parameterSort, u8, pad 2]

/-- Records of the partition `decl.concept`. -/
def concept : Schema where
  name := "Concept"
  fields := [
    "name", "locus", "home_scope", "type", "chart", "constraint", "specifiers", "access",
    "head", "body"]
  layout := [
    text, .location, decl, type, chart, expr, specifiers, access, pad 2, u32, u32]

/-- Records of the partition `decl.friend`. -/
def friendDeclaration : Schema where
  name := "FriendDeclaration"
  fields := ["entity"]
  layout := [expr]

/-- Records of the partition `decl.intrinsic`. -/
def intrinsicDeclaration : Schema where
  name := "IntrinsicDeclaration"
  fields := ["name", "locus", "type", "home_scope", "specifiers", "access"]
  layout := [text, .location, type, decl, specifiers, access, pad 2]

/-- The members of scopes, and the partitions of declarations. -/
def declarations : List Entry := [
  ⟨"scope.member", .record declaration, .plain .index, none⟩,
  ⟨"decl.scope", .record scopeDeclaration, .tagged .decl, some 6⟩,
  ⟨"decl.template", .record templateDeclaration, .tagged .decl, some 10⟩,
  ⟨"decl.using", .record usingDeclaration, .tagged .decl, some 21⟩,
  ⟨"decl.enum", .record enumeration, .tagged .decl, some 7⟩,
  ⟨"decl.enumerator", .record enumerator, .tagged .decl, some 1⟩,
  ⟨"decl.alias", .record aliasDeclaration, .tagged .decl, some 8⟩,
  ⟨"decl.reference", .record declReference, .tagged .decl, some 20⟩,
  ⟨"decl.function", .record functionDeclaration, .tagged .decl, some 15⟩,
  ⟨"decl.method", .record methodDeclaration, .tagged .decl, some 16⟩,
  ⟨"decl.constructor", .record constructor, .tagged .decl, some 17⟩,
  ⟨"decl.destructor", .record destructor, .tagged .decl, some 19⟩,
  ⟨"decl.variable", .record variableDeclaration, .tagged .decl, some 2⟩,
  ⟨"decl.field", .record fieldDeclaration, .tagged .decl, some 4⟩,
  ⟨"decl.parameter", .record parameterDeclaration, .tagged .decl, some 3⟩,
  ⟨"decl.concept", .record concept, .tagged .decl, some 14⟩,
  ⟨"decl.friend", .record friendDeclaration, .tagged .decl, some 23⟩,
  ⟨"decl.intrinsic", .record intrinsicDeclaration, .tagged .decl, some 29⟩
]

/-- Records of the partition `name.operator`. -/
def operatorFunctionName : Schema where
  name := "OperatorFunctionName"
  fields := ["encoded", "operator"]
  layout := [text, u16, pad 2]

/-- Records of the partition `name.conversion`. -/
def conversionFunctionName : Schema where
  name := "ConversionFunctionName"
  fields := ["target", "encoded"]
  layout := [type, text]

/-- Records of the partition `name.literal`. -/
def literalName : Schema where
  name := "LiteralName"
  fields := ["encoded"]
  layout := [text]

/-- Records of the partition `name.specialization`. -/
def specializationName : Schema where
  name := "SpecializationName"
  fields := ["primary_template", "template_arguments"]
  layout := [name, expr]

/-- The partitions of names that are no identifiers. -/
def names : List Entry := [
  ⟨"name.operator", .record operatorFunctionName, .tagged .name, some 1⟩,
  ⟨"name.conversion", .record conversionFunctionName, .tagged .name, some 2⟩,
  ⟨"name.literal", .record literalName, .tagged .name, some 3⟩,
  ⟨"name.specialization", .record specializationName, .tagged .name, some 5⟩
]

/-- Records of the partition `type.fundamental`. -/
def fundamentalType : Schema where
  name := "FundamentalType"
  fields := ["basis", "precision", "sign"]
  layout := [
    enumerated .typeBasis, enumerated .typePrecision, enumerated .typeSign, pad 1]

/-- Records of the partition `type.designated`. -/
def designatedType : Schema where
  name := "DesignatedType"
  fields := ["decl"]
  layout := [decl]

/-- Records of the partition `type.tor`. -/
def torType : Schema where
  name := "TorType"
  fields := ["source", "eh_spec", "convention"]
  layout := [type, noexceptSpecification.codec, u8, pad 3]

/-- Records of the partition `type.syntactic`. -/
def syntacticType : Schema where
  name := "SyntacticType"
  fields := ["expr"]
  layout := [expr]

/-- Records of the partition `type.expansion`. -/
def expansionType : Schema where
  name := "ExpansionType"
  fields := ["pack", "mode"]
  layout := [type, enumerated .expansionMode, pad 3]

/-- Records of the partition `type.pointer`. -/
def pointerType : Schema where
  name := "PointerType"
  fields := ["pointee"]
  layout := [type]

/-- Records of the partition `type.function`. -/
def functionType : Schema where
  name := "FunctionType"
  fields := ["target", "source", "eh_spec", "convention", "traits"]
  layout := [type, type, noexceptSpecification.codec, u8, u8, pad 2]

/-- Records of the partition `type.nonstatic-member-function`. -/
def methodType : Schema where
  name := "MethodType"
  fields := ["target", "source", "class_type", "eh_spec", "convention", "traits"]
  layout := [type, type, type, noexceptSpecification.codec, u8, u8, pad 2]

/-- Records of the partition `type.base`. -/
def baseType : Schema where
  name := "BaseType"
  fields := ["type", "access", "traits"]
  layout := [type, access, u8, pad 2]

/-- Records of the partition `type.tuple`. -/
def tupleType : Schema where
  name := "TupleType"
  fields := ["seq"]
  layout := [.sequence]

/-- Records of the partition `type.lvalue-reference`. -/
def lvalueReference : Schema where
  name := "LvalueReference"
  fields := ["referee"]
  layout := [type]

/-- Records of the partition `type.rvalue-reference`. -/
def rvalueReference : Schema where
  name := "RvalueReference"
  fields := ["referee"]
  layout := [type]

/-- Records of the partition `type.qualified`. -/
def qualifiedType : Schema where
  name := "QualifiedType"
  fields := ["unqualified_type", "qualifiers"]
  layout := [type, qualifiers, pad 3]

/-- Records of the partition `type.forall`. -/
def forallType : Schema where
  name := "ForallType"
  fields := ["chart", "subject"]
  layout := [chart, type]

/-- Records of the partition `type.syntax-tree`. -/
def syntaxType : Schema where
  name := "SyntaxType"
  fields := ["syntax"]
  layout := [syntaxTree]

/-- Records of the partition `type.placeholder`. -/
def placeholderType : Schema where
  name := "PlaceholderType"
  fields := ["constraint", "basis", "elaboration"]
  layout := [expr, enumerated .typeBasis, pad 3, type]

/-- Records of the partition `type.typename`. -/
def typenameType : Schema where
  name := "TypenameType"
  fields := ["path"]
  layout := [expr]

/-- Records of the partition `type.decltype`. -/
def decltypeType : Schema where
  name := "DecltypeType"
  fields := ["expression"]
  layout := [syntaxTree]

/-- The partitions of types. -/
def types : List Entry := [
  ⟨"type.fundamental", .record fundamentalType, .tagged .type, some 1⟩,
  ⟨"type.designated", .record designatedType, .tagged .type, some 2⟩,
  ⟨"type.tor", .record torType, .tagged .type, some 3⟩,
  ⟨"type.syntactic", .record syntacticType, .tagged .type, some 4⟩,
  ⟨"type.expansion", .record expansionType, .tagged .type, some 5⟩,
  ⟨"type.pointer", .record pointerType, .tagged .type, some 6⟩,
  ⟨"type.function", .record functionType, .tagged .type, some 10⟩,
  ⟨"type.nonstatic-member-function", .record methodType, .tagged .type, some 11⟩,
  ⟨"type.base", .record baseType, .tagged .type, some 15⟩,
  ⟨"type.tuple", .record tupleType, .tagged .type, some 18⟩,
  ⟨"type.lvalue-reference", .record lvalueReference, .tagged .type, some 8⟩,
  ⟨"type.rvalue-reference", .record rvalueReference, .tagged .type, some 9⟩,
  ⟨"type.qualified", .record qualifiedType, .tagged .type, some 14⟩,
  ⟨"type.forall", .record forallType, .tagged .type, some 19⟩,
  ⟨"type.syntax-tree", .record syntaxType, .tagged .type, some 21⟩,
  ⟨"type.placeholder", .record placeholderType, .tagged .type, some 17⟩,
  ⟨"type.typename", .record typenameType, .tagged .type, some 13⟩,
  ⟨"type.decltype", .record decltypeType, .tagged .type, some 16⟩
]

end Catalogue
end ModuleInterface

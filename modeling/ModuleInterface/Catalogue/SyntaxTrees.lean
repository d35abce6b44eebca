import ModuleInterface.Catalogue.Fields

/-!
# Syntax trees

What a module keeps as it was written: declarators, specifiers and requirements.
-/

namespace ModuleInterface
namespace Catalogue

open Fields

/-- Records of the partition `syntax.simple-type-specifier`. -/
def simpleTypeSpecifier : Schema where
  name := "SimpleTypeSpecifier"
  fields := ["type", "expr", "locus"]
  layout := [type, expr, .location]

/-- Records of the partition `syntax.decltype-specifier`. -/
def decltypeSpecifier : Schema where
  name := "DecltypeSpecifier"
  fields := ["argument", "decltype_keyword", "left_paren", "right_paren"]
  layout := [expr, .location, .location, .location]

/-- Records of the partition `syntax.type-specifier-seq`. -/
def typeSpecifierSeq : Schema where
  name := "TypeSpecifierSeq"
  fields := ["type_script", "type", "locus", "qualifiers", "is_unhashed"]
  layout := [syntaxTree, type, .location, qualifiers, .boolean, pad 2]

/-- Records of the partition `syntax.decl-specifier-seq`. -/
def declSpecifierSeq : Schema where
  name := "DeclSpecifierSeq"
  fields := [
    "type", "type_script", "locus", "storage_class", "declspec", "explicit_specifier",
    "qualifiers"]
  layout := [type, syntaxTree, .location, u32, text, syntaxTree, qualifiers, pad 3]

/-- Records of the partition `syntax.type-id`. -/
def typeIdSyntax : Schema where
  name := "TypeIdSyntax"
  fields := ["type", "type_specifier", "abstract_declarator", "locus"]
  layout := [type, syntaxTree, syntaxTree, .location]

/-- Records of the partition `syntax.declarator`. -/
def declaratorSyntax : Schema where
  name := "DeclaratorSyntax"
  fields := [
    "pointer", "parenthesized_declarator", "array_or_function_declarator",
    "trailing_return_type", "virtual_specifiers", "name", "ellipsis", "locus",
    "qualifiers", "calling_convention"]
  layout := [
    syntaxTree, syntaxTree, syntaxTree, syntaxTree, syntaxTree, expr, .location,
    .location, qualifiers, u8, pad 2]

/-- Records of the partition `syntax.pointer-declarator`. -/
def pointerDeclaratorSyntax : Schema where
  name := "PointerDeclaratorSyntax"
  fields := ["child", "locus", "kind", "qualifiers", "calling_convention"]
  layout := [syntaxTree, .location, u8, qualifiers, u8, pad 1]

/-- Records of the partition `syntax.function-declarator`. -/
def functionDeclaratorSyntax : Schema where
  name := "FunctionDeclaratorSyntax"
  fields := [
    "parameters", "exception_specification", "left_paren", "right_paren", "ellipsis",
    "ref_qualifier", "traits"]
  layout := [
    syntaxTree, syntaxTree, .location, .location, .location, .location, u8, pad 3]

/-- Records of the partition `syntax.parameter-declarator`. -/
def parameterDeclaratorSyntax : Schema where
  name := "ParameterDeclaratorSyntax"
  fields := ["decl_specifier_seq", "declarator", "default_argument", "locus", "sort"]
  layout := [syntaxTree, syntaxTree, expr, .location, u8, pad 3]

/-- Records of the partition `syntax.expression`. -/
def expressionSyntax : Schema where
  name := "ExpressionSyntax"
  fields := ["expression"]
  layout := [expr]

/-- Records of the partition `syntax.requires-clause`. -/
def requiresClauseSyntax : Schema where
  name := "RequiresClauseSyntax"
  fields := ["expression", "locus"]
  layout := [expr, .location]

/-- Records of the partition `syntax.simple-requirement`. -/
def simpleRequirementSyntax : Schema where
  name := "SimpleRequirementSyntax"
  fields := ["expression", "locus"]
  layout := [expr, .location]

/-- Records of the partition `syntax.type-requirement`. -/
def typeRequirementSyntax : Schema where
  name := "TypeRequirementSyntax"
  fields := ["type", "locus"]
  layout := [expr, .location]

/-- Records of the partition `syntax.nested-requirement`. -/
def nestedRequirementSyntax : Schema where
  name := "NestedRequirementSyntax"
  fields := ["condition", "locus"]
  layout := [expr, .location]

/-- Records of the partition `syntax.compound-requirement`. -/
def compoundRequirementSyntax : Schema where
  name := "CompoundRequirementSyntax"
  fields := [
    "expression", "type_constraint", "locus", "right_curly", "noexcept_keyword", "arrow"]
  layout := [expr, expr, .location, .location, .location, .location]

/-- Records of the partition `syntax.requirement-body`. -/
def requirementBodySyntax : Schema where
  name := "RequirementBodySyntax"
  fields := ["requirements", "locus", "right_curly"]
  layout := [syntaxTree, .location, .location]

/-- Records of the partition `syntax.type-template-argument`. -/
def typeTemplateArgumentSyntax : Schema where
  name := "TypeTemplateArgumentSyntax"
  fields := ["argument", "ellipsis", "comma"]
  layout := [syntaxTree, .location, .location]

/-- Records of the partition `syntax.template-argument-list`. -/
def templateArgumentListSyntax : Schema where
  name := "TemplateArgumentListSyntax"
  fields := ["arguments", "left_angle", "right_angle"]
  layout := [syntaxTree, .location, .location]

/-- Records of the partition `syntax.template-id`. -/
def templateIdSyntax : Schema where
  name := "TemplateIdSyntax"
  fields := ["name", "symbol", "arguments", "locus", "template_keyword"]
  layout := [syntaxTree, expr, syntaxTree, .location, .location]

/-- Records of the partition `syntax.type-trait-intrinsic`. -/
def typeTraitIntrinsicSyntax : Schema where
  name := "TypeTraitIntrinsicSyntax"
  fields := ["arguments", "locus", "intrinsic"]
  layout := [syntaxTree, .location, u32]

/-- Records of the partition `syntax.tuple`. -/
def tupleSyntax : Schema where
  name := "TupleSyntax"
  fields := ["seq"]
  layout := [.sequence]

/-- The partitions of syntax trees. -/
def syntaxTrees : List Entry := [
  ⟨"syntax.simple-type-specifier", .record simpleTypeSpecifier, .tagged .syntaxTree, some 1⟩,
  ⟨"syntax.decltype-specifier", .record decltypeSpecifier, .tagged .syntaxTree, some 2⟩,
  ⟨"syntax.type-specifier-seq", .record typeSpecifierSeq, .tagged .syntaxTree, some 4⟩,
  ⟨"syntax.decl-specifier-seq", .record declSpecifierSeq, .tagged .syntaxTree, some 5⟩,
  ⟨"syntax.type-id", .record typeIdSyntax, .tagged .syntaxTree, some 18⟩,
  ⟨"syntax.declarator", .record declaratorSyntax, .tagged .syntaxTree, some 20⟩,
  ⟨"syntax.pointer-declarator", .record pointerDeclaratorSyntax, .tagged .syntaxTree, some 21⟩,
  ⟨"syntax.function-declarator", .record functionDeclaratorSyntax,
    .tagged .syntaxTree, some 23⟩,
  ⟨"syntax.parameter-declarator", .record parameterDeclaratorSyntax,
    .tagged .syntaxTree, some 25⟩,
  ⟨"syntax.expression", .record expressionSyntax, .tagged .syntaxTree, some 58⟩,
  ⟨"syntax.requires-clause", .record requiresClauseSyntax, .tagged .syntaxTree, some 62⟩,
  ⟨"syntax.simple-requirement", .record simpleRequirementSyntax, .tagged .syntaxTree, some 63⟩,
  ⟨"syntax.type-requirement", .record typeRequirementSyntax, .tagged .syntaxTree, some 64⟩,
  ⟨"syntax.nested-requirement", .record nestedRequirementSyntax, .tagged .syntaxTree, some 66⟩,
  ⟨"syntax.compound-requirement", .record compoundRequirementSyntax,
    .tagged .syntaxTree, some 65⟩,
  ⟨"syntax.requirement-body", .record requirementBodySyntax, .tagged .syntaxTree, some 67⟩,
  ⟨"syntax.type-template-argument", .record typeTemplateArgumentSyntax,
    .tagged .syntaxTree, some 70⟩,
  ⟨"syntax.template-argument-list", .record templateArgumentListSyntax,
    .tagged .syntaxTree, some 73⟩,
  ⟨"syntax.template-id", .record templateIdSyntax, .tagged .syntaxTree, some 74⟩,
  ⟨"syntax.type-trait-intrinsic", .record typeTraitIntrinsicSyntax,
    .tagged .syntaxTree, some 99⟩,
  ⟨"syntax.tuple", .record tupleSyntax, .tagged .syntaxTree, some 100⟩
]

end Catalogue
end ModuleInterface

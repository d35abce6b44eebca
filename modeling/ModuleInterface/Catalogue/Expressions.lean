import ModuleInterface.Catalogue.Fields

/-!
# Expressions, constants and template parameters

The terms of a module: expressions of every sort, the constants that do not fit
into an index, and the parameter lists of templates.
-/

namespace ModuleInterface
namespace Catalogue

open Fields

/-- Records of the partition `chart.unilevel`. -/
def chartUnilevel : Schema where
  name := "ChartUnilevel"
  fields := ["start", "cardinality", "constraint"]
  layout := [u32, u32, expr]

/-- Records of the partition `chart.multilevel`. -/
def chartMultilevel : Schema where
  name := "ChartMultilevel"
  fields := ["start", "cardinality"]
  layout := [u32, u32]

/-- Records of the partition `const.i64`. -/
def integerLiteral : Schema where
  name := "IntegerLiteral"
  fields := ["value"]
  layout := [u64]

/-- Records of the partition `const.f64`. -/
def fPLiteral : Schema where
  name := "FPLiteral"
  fields := ["value", "size"]
  layout := [.float64, u16, pad 2, pad 4]

/-- Records of the partition `const.str`. -/
def stringLiteral : Schema where
  name := "StringLiteral"
  fields := ["start", "size", "suffix"]
  layout := [text, u32, text]

/-- The partitions of template parameter lists and of constants. -/
def constants : List Entry := [
  ⟨"chart.unilevel", .record chartUnilevel, .tagged .chart, some 1⟩,
  ⟨"chart.multilevel", .record chartMultilevel, .tagged .chart, some 2⟩,
  ⟨"const.i64", .record integerLiteral, .tagged .lit, some 1⟩,
  ⟨"const.f64", .record fPLiteral, .tagged .lit, some 2⟩,
  ⟨"const.str", .record stringLiteral, .tagged .string, none⟩
]

/-- Records of the partition `expr.literal`. -/
def literalExpression : Schema where
  name := "LiteralExpression"
  fields := ["locus", "type", "value"]
  layout := [.location, type, lit]

/-- Records of the partition `expr.type`. -/
def typeExpression : Schema where
  name := "TypeExpression"
  fields := ["locus", "type", "denotation"]
  layout := [.location, type, type]

/-- Records of the partition `expr.decl`. -/
def namedDecl : Schema where
  name := "NamedDecl"
  fields := ["locus", "type", "decl"]
  layout := [.location, type, decl]

/-- Records of the partition `expr.unqualified-id`. -/
def unqualifiedId : Schema where
  name := "UnqualifiedId"
  fields := ["locus", "type", "name", "symbol", "template_keyword"]
  layout := [.location, type, name, expr, .location]

/-- Records of the partition `expr.template-id`. -/
def templateId : Schema where
  name := "TemplateId"
  fields := ["locus", "type", "primary_template", "arguments"]
  layout := [.location, type, expr, expr]

/-- Records of the partition `expr.monad`. -/
def monadExpression : Schema where
  name := "MonadExpression"
  fields := ["locus", "type", "impl", "argument", "assort"]
  layout := [.location, type, decl, expr, u16, pad 2]

/-- Records of the partition `expr.dyad`. -/
def dyadExpression : Schema where
  name := "DyadExpression"
  fields := ["locus", "type", "impl", "left", "right", "assort"]
  layout := [.location, type, decl, expr, expr, u16, pad 2]

/-- Records of the partition `expr.call`. -/
def callExpression : Schema where
  name := "CallExpression"
  fields := ["locus", "type", "function", "arguments"]
  layout := [.location, type, expr, expr]

/-- Records of the partition `expr.sizeof`. -/
def sizeofExpression : Schema where
  name := "SizeofExpression"
  fields := ["locus", "type", "operand"]
  layout := [.location, type, type]

/-- Records of the partition `expr.alignof`. -/
def alignofExpression : Schema where
  name := "AlignofExpression"
  fields := ["locus", "type", "operand"]
  layout := [.location, type, type]

/-- Records of the partition `expr.requires`. -/
def requiresExpression : Schema where
  name := "RequiresExpression"
  fields := ["locus", "type", "parameters", "body"]
  layout := [.location, type, syntaxTree, syntaxTree]

/-- Records of the partition `expr.tuple`. -/
def tupleExpression : Schema where
  name := "TupleExpression"
  fields := ["locus", "type", "seq"]
  layout := [.location, type, .sequence]

/-- Records of the partition `expr.path`. -/
def pathExpression : Schema where
  name := "PathExpression"
  fields := ["locus", "type", "scope", "member"]
  layout := [.location, type, expr, expr]

/-- Records of the partition `expr.read`. -/
def readExpression : Schema where
  name := "ReadExpression"
  fields := ["locus", "type", "child", "kind"]
  layout := [.location, type, expr, enumerated .readKind, pad 3]

/-- Records of the partition `expr.syntax-tree`. -/
def syntaxTreeExpression : Schema where
  name := "SyntaxTreeExpression"
  fields := ["syntax"]
  layout := [syntaxTree]

/-- Records of the partition `expr.expression-list`. -/
def expressionListExpression : Schema where
  name := "ExpressionListExpression"
  fields := ["left", "right", "expressions", "delimiter"]
  layout := [.location, .location, expr, enumerated .expressionListDelimiter, pad 3]

/-- Records of the partition `expr.qualified-name`. -/
def qualifiedNameExpression : Schema where
  name := "QualifiedNameExpression"
  fields := ["locus", "type", "elements", "typename_keyword"]
  layout := [.location, type, expr, .location]

/-- Records of the partition `expr.packed-template-arguments`. -/
def packedTemplateArguments : Schema where
  name := "PackedTemplateArguments"
  fields := ["locus", "type", "arguments"]
  layout := [.location, type, expr]

/-- Records of the partition `expr.product-type-value`. -/
def productValueTypeExpression : Schema where
  name := "ProductValueTypeExpression"
  fields := ["locus", "type", "structure", "members", "base_class_values"]
  layout := [.location, type, type, expr, expr]

/-- The partitions of expressions. -/
def expressions : List Entry := [
  ⟨"expr.literal", .record literalExpression, .tagged .expr, some 2⟩,
  ⟨"expr.type", .record typeExpression, .tagged .expr, some 4⟩,
  ⟨"expr.decl", .record namedDecl, .tagged .expr, some 5⟩,
  ⟨"expr.unqualified-id", .record unqualifiedId, .tagged .expr, some 8⟩,
  ⟨"expr.template-id", .record templateId, .tagged .expr, some 7⟩,
  ⟨"expr.monad", .record monadExpression, .tagged .expr, some 14⟩,
  ⟨"expr.dyad", .record dyadExpression, .tagged .expr, some 15⟩,
  ⟨"expr.call", .record callExpression, .tagged .expr, some 19⟩,
  ⟨"expr.sizeof", .record sizeofExpression, .tagged .expr, some 27⟩,
  ⟨"expr.alignof", .record alignofExpression, .tagged .expr, some 28⟩,
  ⟨"expr.requires", .record requiresExpression, .tagged .expr, some 38⟩,
  ⟨"expr.tuple", .record tupleExpression, .tagged .expr, some 51⟩,
  ⟨"expr.path", .record pathExpression, .tagged .expr, some 12⟩,
  ⟨"expr.read", .record readExpression, .tagged .expr, some 13⟩,
  ⟨"expr.syntax-tree", .record syntaxTreeExpression, .tagged .expr, some 33⟩,
  ⟨"expr.expression-list", .record expressionListExpression, .tagged .expr, some 26⟩,
  ⟨"expr.qualified-name", .record qualifiedNameExpression, .tagged .expr, some 11⟩,
  ⟨"expr.packed-template-arguments", .record packedTemplateArguments, .tagged .expr, some 58⟩,
  ⟨"expr.product-type-value", .record productValueTypeExpression, .tagged .expr, some 42⟩
]

/-- The heaps, which tuples slice, the ranges of scopes, and the deduction guides. -/
def heaps : List Entry := [
  ⟨"heap.type", .index (.tagged .type), .plain .index, none⟩,
  ⟨"heap.expr", .index (.tagged .expr), .plain .index, none⟩,
  ⟨"heap.attr", .index (.tagged .attr), .plain .index, none⟩,
  ⟨"heap.syn", .index (.tagged .syntaxTree), .plain .index, none⟩,
  ⟨"scope.desc", .sequence, .plain .scope, none⟩,
  ⟨"name.guide", .index (.tagged .decl), .plain .index, none⟩
]

end Catalogue
end ModuleInterface

import ModuleInterface.Catalogue.All

/-!
# Partitions that queries rely on

The specifications that the queries of a container name. Each stands in the
catalogue at its slot.
-/

namespace ModuleInterface
namespace Catalogue

/-- The specification of the string literals. -/
def constStr : PartitionSpec :=
  ⟨"const.str", .record stringLiteral, .tagged .string, none, 12⟩

/-- The specification of the members of scopes. -/
def scopeMember : PartitionSpec :=
  ⟨"scope.member", .record declaration, .plain .index, none, 13⟩

/-- The specification of the declarations that are scopes. -/
def declScope : PartitionSpec :=
  ⟨"decl.scope", .record scopeDeclaration, .tagged .decl, some 6, 14⟩

/-- The specification of the expressions that are tuples. -/
def exprTuple : PartitionSpec :=
  ⟨"expr.tuple", .record tupleExpression, .tagged .expr, some 51, 42⟩

/-- The specification of the expressions that are qualified names. -/
def exprQualifiedName : PartitionSpec :=
  ⟨"expr.qualified-name", .record qualifiedNameExpression, .tagged .expr, some 11, 47⟩

/-- The specification of the heap of types. -/
def heapType : PartitionSpec :=
  ⟨"heap.type", .index (.tagged .type), .plain .index, none, 50⟩

/-- The specification of the heap of expressions. -/
def heapExpr : PartitionSpec :=
  ⟨"heap.expr", .index (.tagged .expr), .plain .index, none, 51⟩

/-- The specification of the heap of attributes. -/
def heapAttr : PartitionSpec :=
  ⟨"heap.attr", .index (.tagged .attr), .plain .index, none, 52⟩

/-- The specification of the heap of syntax trees. -/
def heapSyntax : PartitionSpec :=
  ⟨"heap.syn", .index (.tagged .syntaxTree), .plain .index, none, 53⟩

/-- The specification of the ranges of members of scopes. -/
def scopeDesc : PartitionSpec :=
  ⟨"scope.desc", .sequence, .plain .scope, none, 54⟩

/-- The specification of the deduction guides. -/
def nameGuide : PartitionSpec :=
  ⟨"name.guide", .index (.tagged .decl), .plain .index, none, 55⟩

/-- The specification of the attributes of declarations. -/
def traitAttribute : PartitionSpec :=
  ⟨"trait.attribute", .record attributeTrait, .plain .index, none, 81⟩

/-- The specification of the attributes that a vendor adds to declarations. -/
def vendorAttribute : PartitionSpec :=
  ⟨".msvc.trait.decl-attrs", .record attributeTrait, .plain .index, none, 82⟩

/-- The specification of the texts of deprecated declarations. -/
def traitDeprecated : PartitionSpec :=
  ⟨"trait.deprecated", .record deprecationTrait, .plain .index, none, 83⟩

/-- The specification of the friends of classes. -/
def traitFriend : PartitionSpec :=
  ⟨"trait.friend", .record friendshipTrait, .plain .index, none, 84⟩

/-- The specification of the specializations of templates. -/
def traitSpecialization : PartitionSpec :=
  ⟨"trait.specialization", .record specializationTrait, .plain .index, none, 85⟩

/-- The specification of the fundamental types. -/
def typeFundamental : PartitionSpec :=
  ⟨"type.fundamental", .record fundamentalType, .tagged .type, some 1, 86⟩

/-- The partitions that attributes of declarations are gathered from, in order. -/
def attributeSources : List PartitionSpec :=
  [traitAttribute, vendorAttribute]

/-- Every specification above. -/
def standard : List PartitionSpec := [
  constStr, scopeMember, declScope, exprTuple, exprQualifiedName, heapType, heapExpr,
  heapAttr, heapSyntax, scopeDesc, nameGuide, traitAttribute, vendorAttribute,
  traitDeprecated, traitFriend, traitSpecialization, typeFundamental]

/-- Each of them stands in the catalogue at its slot. -/
theorem specs_slot_of_mem_standard :
    ∀ spec ∈ standard, specs[spec.slot]? = some spec := by
  simp only [standard, List.forall_mem_cons, List.not_mem_nil, false_implies, implies_true,
    and_true]
  exact ⟨rfl, rfl, rfl, rfl, rfl, rfl, rfl, rfl, rfl, rfl, rfl, rfl, rfl, rfl, rfl, rfl, rfl⟩

end Catalogue
end ModuleInterface

import ModuleInterface.Catalogue.Fields

/-!
# Attributes and association tables

Attributes are trees of words. An association table pairs declarations with what
is attached to them; most declarations appear in none.
-/

namespace ModuleInterface
namespace Catalogue

open Fields

/-- One word of the text of an attribute. -/
def word : Schema where
  name := "Word"
  fields := ["locus", "index", "category", "sort"]
  layout := [.location, u32, u16, enumerated .wordSort, pad 1]

/-- Records of the partition `attr.basic`. -/
def attrBasic : Schema where
  name := "AttrBasic"
  fields := ["word"]
  layout := [word.codec]

/-- Records of the partition `attr.scoped`. -/
def attrScoped : Schema where
  name := "AttrScoped"
  fields := ["scope", "member"]
  layout := [word.codec, word.codec]

/-- Records of the partition `attr.labeled`. -/
def attrLabeled : Schema where
  name := "AttrLabeled"
  fields := ["label", "attribute"]
  layout := [word.codec, attr]

/-- Records of the partition `attr.called`. -/
def attrCalled : Schema where
  name := "AttrCalled"
  fields := ["function", "arguments"]
  layout := [attr, attr]

/-- Records of the partition `attr.expanded`. -/
def attrExpanded : Schema where
  name := "AttrExpanded"
  fields := ["operand"]
  layout := [attr]

/-- Records of the partition `attr.factored`. -/
def attrFactored : Schema where
  name := "AttrFactored"
  fields := ["factor", "terms"]
  layout := [word.codec, attr]

/-- Records of the partition `attr.elaborated`. -/
def attrElaborated : Schema where
  name := "AttrElaborated"
  fields := ["word"]
  layout := [word.codec]

/-- Records of the partition `attr.tuple`. -/
def attrTuple : Schema where
  name := "AttrTuple"
  fields := ["seq"]
  layout := [.sequence]

/-- The partitions of attributes, indexed by their sort. -/
def attributes : List Entry := [
  ⟨"attr.basic", .record attrBasic, .tagged .attr, some 1⟩,
  ⟨"attr.scoped", .record attrScoped, .tagged .attr, some 2⟩,
  ⟨"attr.labeled", .record attrLabeled, .tagged .attr, some 3⟩,
  ⟨"attr.called", .record attrCalled, .tagged .attr, some 4⟩,
  ⟨"attr.expanded", .record attrExpanded, .tagged .attr, some 5⟩,
  ⟨"attr.factored", .record attrFactored, .tagged .attr, some 6⟩,
  ⟨"attr.elaborated", .record attrElaborated, .tagged .attr, some 7⟩,
  ⟨"attr.tuple", .record attrTuple, .tagged .attr, some 8⟩
]

/-- Records of the partition `trait.attribute`. -/
def attributeTrait : Schema where
  name := "AttributeTrait"
  fields := ["decl", "trait"]
  layout := [decl, attr]

/-- Records of the partition `trait.deprecated`. -/
def deprecationTrait : Schema where
  name := "DeprecationTrait"
  fields := ["decl", "trait"]
  layout := [decl, text]

/-- Records of the partition `trait.friend`. -/
def friendshipTrait : Schema where
  name := "FriendshipTrait"
  fields := ["decl", "trait"]
  layout := [decl, .sequence]

/-- Records of the partition `trait.specialization`. -/
def specializationTrait : Schema where
  name := "SpecializationTrait"
  fields := ["decl", "trait"]
  layout := [decl, .sequence]

/-- The association tables. -/
def associations : List Entry := [
  ⟨"trait.attribute", .record attributeTrait, .plain .index, none⟩,
  ⟨".msvc.trait.decl-attrs", .record attributeTrait, .plain .index, none⟩,
  ⟨"trait.deprecated", .record deprecationTrait, .plain .index, none⟩,
  ⟨"trait.friend", .record friendshipTrait, .plain .index, none⟩,
  ⟨"trait.specialization", .record specializationTrait, .plain .index, none⟩
]

end Catalogue
end ModuleInterface

import ModuleInterface.Registry

/-!
# Fields and entries of the catalogue

The codecs that the records of the format are made of, and the form of a
catalogue entry.
-/

namespace ModuleInterface
namespace Catalogue

/-- A partition of the format, without a slot. -/
structure Entry where
  name : String
  element : Element
  indexKind : IndexKind
  sort : Option Nat
  deriving Repr

namespace Fields

/-- A number of one byte. -/
def u8 : Codec := .unsigned 1

/-- A number of two bytes. -/
def u16 : Codec := .unsigned 2

/-- A number of four bytes. -/
def u32 : Codec := .unsigned 4

/-- A number of eight bytes. -/
def u64 : Codec := .unsigned 8

/-- Padding. -/
def pad (length : Nat) : Codec := .padding length

/-- A byte that an enumeration may name. -/
def enumerated (enumeration : Enumeration) : Codec := .enumerator 1 enumeration

/-- The access of a member. -/
def access : Codec := enumerated .access

/-- Linkage and storage of a declaration. -/
def specifiers : Codec := .flags 1 .basicSpecifiers

/-- Qualifiers of a type. -/
def qualifiers : Codec := .flags 1 .qualifier

/-- An index of a declaration. -/
def decl : Codec := .index (.tagged .decl)

/-- An index of a type. -/
def type : Codec := .index (.tagged .type)

/-- An index of an expression. -/
def expr : Codec := .index (.tagged .expr)

/-- An index of a name. -/
def name : Codec := .index (.tagged .name)

/-- An index of a template parameter list. -/
def chart : Codec := .index (.tagged .chart)

/-- An index of a syntax tree. -/
def syntaxTree : Codec := .index (.tagged .syntaxTree)

/-- An index of an attribute. -/
def attr : Codec := .index (.tagged .attr)

/-- An index of a literal constant. -/
def lit : Codec := .index (.tagged .lit)

/-- An index of a scope. -/
def scope : Codec := .index (.plain .scope)

/-- An offset into the string table. -/
def text : Codec := .index (.plain .text)

end Fields
end Catalogue
end ModuleInterface

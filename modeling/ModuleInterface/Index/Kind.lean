import ModuleInterface.Enumeration

/-!
# Index kinds

Every cross reference is a 32-bit value of some kind. The value of a tagged
kind packs a sort into its low bits and a position into the rest; the value of
a plain kind is a bare position. One kind leaves it open which tagged kind an index
is of, so that nothing says how to divide its values.
-/

-- Powers are the core library's, whatever else a reader of this module imports.
attribute [local instance (1100)] instPowNat

namespace ModuleInterface

/-- Kinds of index that carry a sort. -/
inductive TaggedKind
  | decl
  | type
  | expr
  | name
  | chart
  | syntaxTree
  | attr
  | unit
  | lit
  | string
  deriving DecidableEq, Repr

namespace TaggedKind

/-- Every tagged kind. -/
def all : List TaggedKind :=
  [.decl, .type, .expr, .name, .chart, .syntaxTree, .attr, .unit, .lit, .string]

/-- The name of a tagged kind. -/
def label : TaggedKind → String
  | .decl => "DeclIndex"
  | .type => "TypeIndex"
  | .expr => "ExprIndex"
  | .name => "NameIndex"
  | .chart => "ChartIndex"
  | .syntaxTree => "SyntaxIndex"
  | .attr => "AttrIndex"
  | .unit => "UnitIndex"
  | .lit => "LitIndex"
  | .string => "StringIndex"

/-- The enumeration that names the sorts of a kind. -/
def sorts : TaggedKind → Enumeration
  | .decl => .declSort
  | .type => .typeSort
  | .expr => .exprSort
  | .name => .nameSort
  | .chart => .chartSort
  | .syntaxTree => .syntaxSort
  | .attr => .attrSort
  | .unit => .unitSort
  | .lit => .literalSort
  | .string => .stringSort

/-- The number of low bits that hold the sort. -/
def sortBits : TaggedKind → Nat
  | .decl => 5
  | .type => 5
  | .expr => 6
  | .name => 3
  | .chart => 2
  | .syntaxTree => 7
  | .attr => 4
  | .unit => 3
  | .lit => 2
  | .string => 3

/-- The number of high bits that hold the position. -/
def positionBits (kind : TaggedKind) : Nat :=
  32 - kind.sortBits

/-- Sort and position together fill 32 bits. -/
theorem two_pow_positionBits_mul (kind : TaggedKind) :
    2 ^ kind.positionBits * 2 ^ kind.sortBits = 4294967296 := by
  cases kind <;> rfl

end TaggedKind

/-- Kinds of index that carry a bare position. -/
inductive PlainKind
  /-- A position from 0 on. -/
  | index
  /-- A position from 1 on; 0 is the null scope. -/
  | scope
  /-- A byte offset into the string table; 0 is the null text. -/
  | text
  deriving DecidableEq, Repr

namespace PlainKind

/-- Every plain kind. -/
def all : List PlainKind := [.index, .scope, .text]

/-- The name of a plain kind. -/
def label : PlainKind → String
  | .index => "Index"
  | .scope => "ScopeIndex"
  | .text => "TextOffset"

end PlainKind

/-- The kind of a 32-bit cross reference. -/
inductive IndexKind
  | tagged (kind : TaggedKind)
  | plain (kind : PlainKind)
  /-- Whatever kind that carries a sort. -/
  | anyTagged
  deriving DecidableEq, Repr

namespace IndexKind

/-- Every index kind. -/
def all : List IndexKind :=
  TaggedKind.all.map .tagged ++ PlainKind.all.map .plain ++ [.anyTagged]

/-- The name of an index kind. -/
def label : IndexKind → String
  | .tagged kind => kind.label
  | .plain kind => kind.label
  | .anyTagged => "AbstractIndex"

/-- The index kind of a given name. -/
def ofLabel? (label : String) : Option IndexKind :=
  all.find? fun kind => kind.label = label

/-- Whether every index of a tagged kind is of this kind. -/
def includes : IndexKind → TaggedKind → Bool
  | .tagged kind, other => kind == other
  | .plain _, _ => false
  | .anyTagged, _ => true

@[simp] theorem includes_tagged (kind other : TaggedKind) :
    (tagged kind).includes other = (kind == other) := rfl

@[simp] theorem includes_plain (kind : PlainKind) (other : TaggedKind) :
    (plain kind).includes other = false := rfl

@[simp] theorem includes_anyTagged (other : TaggedKind) :
    anyTagged.includes other = true := rfl

end IndexKind
end ModuleInterface

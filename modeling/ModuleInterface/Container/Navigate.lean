import ModuleInterface.Catalogue.Standard
import ModuleInterface.Container.Locate

/-!
# Walking between partitions

Queries that go through more than one partition: from a scope to its members,
from a declaration to the kind of its scope, from a tuple to its elements and
from a qualified name to its parts.
-/

namespace ModuleInterface
namespace Query

/-- The member range of the unit's global scope. -/
def globalScope : Query Value := do
  let view ← partition Catalogue.scopeDesc
  element view (.plain (.scope (← get).header.globalScope))

/-- The declaration of a scope. -/
def scopeOf (declaration : Value) : Query Value := do
  element (← partition Catalogue.declScope) declaration

/-- The basis of the fundamental type of a scope: class, struct, union, namespace. -/
def kindOf (scope : Value) : Query Value := do
  let fundamental ← element (← partition Catalogue.typeFundamental) (scope.field "type")
  return fundamental.field "basis"

/-- The member slots of a range. -/
def declarationsOf (range : Value) : Query View := do
  ofExcept ((← partition Catalogue.scopeMember).sliceOf range)

/-- The declarations in a scope. The null scope has none. -/
def membersOf (scope : Value) : Query (List Value) := do
  if ← ofExcept (scope.holds "is_null") then return []
  else
    let range ← element (← partition Catalogue.scopeDesc) scope
    let members ← elements (← declarationsOf range)
    return members.map (Value.field "index")

/-- The entries of the heap of expressions that a tuple holds. -/
def tupleElements (tuple : Value) : Query View := do
  ofExcept ((← partition Catalogue.heapExpr).sliceOf (tuple.field "seq"))

/-- The sort of the expressions that are tuples. -/
def tupleSort : Nat := 51

/-- The entries of the heap of expressions that a qualified name consists of. -/
def qualifiedNameParts (qualifiedName : Value) : Query View := do
  match qualifiedName.field "elements" with
  | .tagged elements =>
      if elements.sort = tupleSort then
        tupleElements (← element (← partition Catalogue.exprTuple) (.tagged elements))
      else throw (.partsNotTuple elements)
  | value => throw (.memberAbsent value.typeName "sort")

end Query
end ModuleInterface

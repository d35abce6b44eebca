import ModuleInterface.Container.Import
import ModuleInterface.Container.Integrity
import ModuleInterface.Container.Navigate

/-!
# Requests to a container

Everything that a container can be asked, as data, and the answers it can give.
A request is generic in what stands for a partition, so that a caller may name
partitions first and have the names looked up later. `Request.answer` is the
query that answers a request with the registry and the environment of the
moment.
-/

namespace ModuleInterface

/-- What a container can be asked. -/
inductive Request (target : Type)
  | header
  | contents
  | summary (name : String)
  | render
  | released
  | string (offset : Value)
  | optionalString (offset : Value)
  | findPartition (target : target) (name : Option String)
  | requirePartition (target : target) (name : Option String)
  | partition (target : target)
  | globalScope
  | unitName
  | isPrimaryUnit
  | computeChecksum
  | verifyChecksum
  | close
  | closeAfterUse
  | clearContents
  | resolve (index : Value)
  | resolveHeap (heap : target) (range : Value)
  | attributesOf (declaration : Value)
  | traitOf (kind : SingleTrait) (declaration : Value)
  | deprecationText (declaration : Value)
  | importedModule (reference : Value)
  | importVia (index : Value)
  | scopeOf (declaration : Value)
  | kindOf (declaration : Value)
  | declarationsOf (range : Value)
  | membersOf (scope : Value)
  | tupleElements (key : Value)
  | qualifiedNameParts (key : Value)
  | element (view : View) (key : Value)
  | elements (view : View)
  | slice (view : View) (range : Value)
  deriving Repr

/-- What a container can answer. -/
inductive Answer
  | value (value : Value)
  | view (view : View)
  | header (header : Header)
  | contents (contents : Contents)
  | summary (summary : Summary)
  /-- The number of a container. -/
  | container (number : Nat)
  deriving Repr

namespace Answer

/-- The answer that there is nothing to say. -/
def nothing : Answer := .value .null

/-- A text as an answer. -/
def text (content : String) : Answer := .value (.text content)

/-- A truth value as an answer. -/
def truth (flag : Bool) : Answer := .value (.boolean flag)

/-- A text that may be absent as an answer. -/
def optionalText : Option String → Answer
  | none => nothing
  | some content => text content

/-- A list of values as an answer. -/
def list (items : List Value) : Answer := .value (.list items)

end Answer

namespace Request

/-- Look up what stands for a partition in a request. -/
def lookup {m : Type → Type} [Monad m] {name target : Type} (find : name → m target) :
    Request name → m (Request target)
  | .header => return .header
  | .contents => return .contents
  | .summary name => return .summary name
  | .render => return .render
  | .released => return .released
  | .string offset => return .string offset
  | .optionalString offset => return .optionalString offset
  | .findPartition target name => do return .findPartition (← find target) name
  | .requirePartition target name => do return .requirePartition (← find target) name
  | .partition target => do return .partition (← find target)
  | .globalScope => return .globalScope
  | .unitName => return .unitName
  | .isPrimaryUnit => return .isPrimaryUnit
  | .computeChecksum => return .computeChecksum
  | .verifyChecksum => return .verifyChecksum
  | .close => return .close
  | .closeAfterUse => return .closeAfterUse
  | .clearContents => return .clearContents
  | .resolve index => return .resolve index
  | .resolveHeap heap range => do return .resolveHeap (← find heap) range
  | .attributesOf declaration => return .attributesOf declaration
  | .traitOf kind declaration => return .traitOf kind declaration
  | .deprecationText declaration => return .deprecationText declaration
  | .importedModule reference => return .importedModule reference
  | .importVia index => return .importVia index
  | .scopeOf declaration => return .scopeOf declaration
  | .kindOf declaration => return .kindOf declaration
  | .declarationsOf range => return .declarationsOf range
  | .membersOf scope => return .membersOf scope
  | .tupleElements key => return .tupleElements key
  | .qualifiedNameParts key => return .qualifiedNameParts key
  | .element view key => return .element view key
  | .elements view => return .elements view
  | .slice view range => return .slice view range

open Query in
/-- The query that answers a request. -/
def answer (registry : Registry) (environment : Option Environment) :
    Request Target → Query Answer
  | .header => return .header (← get).header
  | .contents => return .contents (← get).contents
  | .summary name => do
      match (← get).summary? name with
      | none => return .nothing
      | some entry => return .summary entry
  | .render => return .text (← get).render
  | .released => return .truth (← get).blob.released
  | .string offset => do return .text (← stringAt (← ofExcept offset.toInteger))
  | .optionalString offset => do
      return .optionalText (← optionalStringAt (← ofExcept offset.toInteger))
  | .findPartition target name => do
      match ← Query.findPartition target name with
      | none => return .nothing
      | some view => return .view view
  | .requirePartition target name => return .view (← Query.requirePartition target name)
  | .partition target => do return .view (← Query.partition (← ofExcept target.resolve))
  | .globalScope => return .value (← Query.globalScope)
  | .unitName => return .optionalText (← Query.unitName)
  | .isPrimaryUnit => return .truth (← Query.isPrimaryUnit)
  | .computeChecksum => return .value (.bytes (← Query.computeChecksum))
  | .verifyChecksum => return .truth (← Query.verifyChecksum)
  | .close => do
      Query.close
      return .nothing
  | .closeAfterUse => do
      Query.close
      return .truth true
  | .clearContents => do
      Query.clearContents
      return .nothing
  | .resolve index => return .value (← Query.resolve registry index)
  | .resolveHeap heap range => return .list (← Query.resolveHeap registry heap range)
  | .attributesOf declaration =>
      return .list ((← Query.attributesOf declaration).map .tagged)
  | .traitOf kind declaration => return .value (← Query.traitOf kind declaration)
  | .deprecationText declaration =>
      return .optionalText (← Query.deprecationText declaration)
  | .importedModule reference =>
      return .container (← Query.importedModule environment reference)
  | .importVia index => do
      return .container (← importedUnit environment (← Query.resolve registry index))
  | .scopeOf declaration => return .value (← Query.scopeOf declaration)
  | .kindOf declaration => do
      return .value (← Query.kindOf (← Query.scopeOf declaration))
  | .declarationsOf range => return .view (← Query.declarationsOf range)
  | .membersOf scope => return .list (← Query.membersOf scope)
  | .tupleElements key => do
      let tuple ← Query.element (← Query.partition Catalogue.exprTuple) key
      return .list (← Query.elements (← Query.tupleElements tuple))
  | .qualifiedNameParts key => do
      let name ← Query.element (← Query.partition Catalogue.exprQualifiedName) key
      return .list (← Query.elements (← Query.qualifiedNameParts name))
  | .element part key => return .value (← Query.element part key)
  | .elements part => return .list (← Query.elements part)
  | .slice part range => return .view (← ofExcept (part.sliceOf range))

end Request
end ModuleInterface

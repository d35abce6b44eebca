import ModuleInterface.Schema.Construction
import ModuleInterface.Value.Shown
import ModuleInterface.Workspace.Naming

/-!
# Steps of a session

Everything that a session can do to a workspace, as data, and what it gets back.
`Step.perform` carries out a step; `Workspace.run` carries it out on a workspace
and tells what was reported meanwhile.
-/

namespace ModuleInterface

/-- What can be done with a blob. -/
inductive BlobRequest
  | length
  | slice (start stop : Value)
  | released
  | release
  | findNul (start : Value)
  | textAt (start : Value)
  | unpack (format : List FormatItem) (offset : Value)
  | signature
  | header
  | layout
  deriving Repr

/-- What can be done with a view. -/
inductive ViewRequest
  | element (key : Value)
  | elements
  | slice (range : Value) (name : Option String)
  | describe
  deriving Repr

/-- What can be done with an environment. -/
inductive EnvironmentRequest
  | add (module : String) (container : String)
  | find (module : String)
  | contains (module : String)
  | names
  | size
  deriving Repr

/-- What a session can do. -/
inductive Step
  | openContainer (name : String) (data : List UInt8) (backing : Backing)
      (environment : Option String)
  | loadFile (name path : String) (data : Option (List UInt8)) (verify : Bool)
      (environment : Option String)
  /-- Ask a container, and bind a name to the view that it answers. -/
  | ask (container : String) (request : Request TargetName) (name : Option String)
  | viewPart (part : String) (request : ViewRequest)
  | newEnvironment (name : String)
  | useEnvironment (environment : String) (request : EnvironmentRequest)
  | newBlob (name : String) (data : List UInt8) (backing : Backing)
  | useBlob (blob : String) (request : BlobRequest)
  | defineRecord (name : String) (fields : List String) (layout : List CodecName)
      (place : Option PlaceName)
  | createSpec (place : PlaceName) (element : String) (register : Bool) (binding : String)
  | registerSpec (target : TargetName)
  | describeSpec (target : TargetName)
  | specForName (name : String)
  | specForIndex (index : Value)
  | slotCount
  | registered
  | unpack (element : String) (data : List UInt8) (offset : Value)
  | pack (record : String) (fields : List Value)
  | packElement (element : String) (value : Value)
  | flatten (values : List Value)
  | addString (text : String)
  | addPartition (name : String) (entrySize : Int) (data : List UInt8)
      (cardinality : Option Int)
  | addElements (target : TargetName) (values : List Value) (name : Option String)
  /-- A step whose arguments stand for nothing: what it names is looked up before
  the arguments are read. -/
  | unreadable (subjects : List Subject) (fault : Fault)
  deriving Repr

/-- What a step gives back. -/
inductive Outcome
  | answer (answer : Answer)
  | spec (spec : PartitionSpec)
  | specs (specs : List PartitionSpec)
  /-- The header of a blob that need not be a container. -/
  | storedHeader (header : Header)
  /-- The entries of a table of contents, the size that header and entries
  declare, and how the check of that size ends. -/
  | layout (summaries : List Summary) (declared : Nat) (check : Except Fault Unit)

namespace Outcome

/-- A value as an outcome. -/
def value (value : Value) : Outcome := .answer (.value value)

/-- The outcome of a step that has nothing to say. -/
def nothing : Outcome := .answer .nothing

/-- A number as an outcome. -/
def number (number : Int) : Outcome := value (.integer number)

/-- Fail unless an outcome can be shown. -/
def requireShown : Outcome → Except Fault Unit
  | .answer (.value value) => value.requireShown
  | _ => .ok ()

/-- A specification that may be absent as an outcome. -/
def optionalSpec : Option PartitionSpec → Outcome
  | none => nothing
  | some found => spec found

end Outcome

namespace Session

/-- The name of a container as an answer, and every other answer as it is. -/
def nameAnswer : Answer → Session Answer
  | .container number => return .optionalText (← nameOfContainer number)
  | other => return other

/-- Bind a name to an answer that is a view. -/
def bindAnswer (name : Option String) (number : Nat) : Answer → Session Unit
  | .view view => bindView name number view
  | _ => return ()

/-- Ask the container of a number. -/
def askContainer (number : Nat) (request : Request Target) : Session Answer := do
  let environment ← environmentOf number
  onContainer number (request.answer (← get).registry environment)

/-- Open a container over a blob, and report what happened whether it opens or
not. -/
def openBlob (blob : Blob) (environment : Option Nat) : Session Container := do
  let (outcome, events) := Container.load blob environment
  report events
  ofExcept outcome

/-- Open a container over the bytes of a file, and check its digest if asked to. -/
def openFileWith (digest : List UInt8 → List UInt8) (path : String)
    (data : Option (List UInt8)) (verify : Bool) (environment : Option String) :
    Session Container := do
  let environment ← environment.mapM environmentNumber
  match data with
  | none => throw .fileAbsent
  | some data =>
      let container ← openBlob (.of data .bytes) environment
      if verify then
        let (verdict, after) := (Query.requireDigest digest path).on container
        report (after.journal.drop container.journal.length)
        ofExcept verdict
        return after
      else return container

/-- Open a container over the bytes of a file, and check its checksum if asked to. -/
def openFile (path : String) (data : Option (List UInt8)) (verify : Bool)
    (environment : Option String) : Session Container :=
  openFileWith Sha256.digest path data verify environment

/-- Carry out a request to an environment. -/
def useEnvironment (number : Nat) : EnvironmentRequest → Session Outcome
  | .add module container => do
      let container ← containerNumber container
      let environment ← environmentAt number
      report (environment.addEvents module container)
      modify fun workspace =>
        { workspace with
          environments :=
            workspace.environments.setIfInBounds number (environment.add module container) }
      return .nothing
  | .find module => do
      let container ← ofExcept ((← environmentAt number).require module)
      return .answer (.optionalText (← nameOfContainer container))
  | .contains module => do
      return .answer (.truth ((← environmentAt number).find? module).isSome)
  | .names => do
      return .value (.list ((← environmentAt number).names.map .text))
  | .size => return .number (← environmentAt number).modules.length

/-- Carry out a request to a blob. -/
def useBlob (name : String) (blob : Blob) : BlobRequest → Session Outcome
  | .length => do return .number (← ofExcept blob.length)
  | .slice start stop => do
      return .value (.bytes (← ofExcept (blob.slice start stop)))
  | .released => return .answer (.truth blob.released)
  | .release => do
      modify fun workspace =>
        { workspace with blobs := workspace.blobs.bind name blob.release }
      return .nothing
  | .findNul start => do return .number (← ofExcept (blob.findNul start))
  | .textAt start => do return .answer (.text (← ofExcept (blob.textAt start)))
  | .unpack format offset => do
      return .value (.list (← ofExcept (blob.unpack format offset)))
  | .signature => do
      return .value (.bytes (← ofExcept (Header.readSignature (← ofExcept blob.access))))
  | .header => do
      return .storedHeader (← ofExcept (Header.read (← ofExcept blob.access)))
  | .layout => do
      let bytes ← ofExcept blob.access
      let header ← ofExcept (Header.read bytes)
      let summaries ← ofExcept (header.readSummaries bytes)
      return .layout summaries (header.declaredSize summaries)
        (header.checkTotal bytes summaries)

/-- Carry out a request to a view of the container of a number. -/
def useView (number : Nat) (view : View) : ViewRequest → Session Outcome
  | .element key => do return .answer (← askContainer number (.element view key))
  | .elements => do return .answer (← askContainer number (.elements view))
  | .slice range name => do
      let answer ← askContainer number (.slice view range)
      bindAnswer name number answer
      return .answer answer
  | .describe => return .answer (.view view)

/-- A new specification for a place, registered if asked to. -/
def createSpec (place : Place) (element : Element) (register : Bool) :
    Session PartitionSpec := do
  let (spec, created) :=
    (← get).registry.create place.partition element place.indexKind place.sort
  setRegistry created
  if register then
    let (outcome, complete) := created.register spec
    setRegistry complete
    ofExcept outcome
  return spec

/-- The codecs of a record shape of given names, once its names have been judged. -/
def shapeCodecs (name : String) (fields : List String) (layout : List CodecName) :
    Session (List (Except Fault Codec)) := do
  let named ← layout.mapM codecNamed
  ofExcept (Schema.requireFieldNames fields)
  ofExcept (Schema.requireName name)
  ofExcept (Schema.requireConstruction fields)
  return named

/-- A new record shape, with a specification of its own if it has a place. -/
def newRecord (name : String) (fields : List String) (named : List (Except Fault Codec))
    (place : Option PlaceName) : Session KnownRecord := do
  let place ← place.mapM placeNamed
  let codecs ← ofExcept (named.mapM id)
  let schema ← ofExcept (Schema.compile name fields codecs)
  let spec ← place.mapM fun place => createSpec place (.record schema) true
  return ⟨schema, spec⟩

/-- Bind a name to a new record shape. What the name stood for is forgotten as soon as
the names of the shape have been judged, so that a layout or a place that is refused
after that leaves the name without meaning. -/
def defineRecord (name : String) (fields : List String) (layout : List CodecName)
    (place : Option PlaceName) : Session Schema := do
  let named ← shapeCodecs name fields layout
  modify fun workspace => { workspace with records := workspace.records.erase name }
  let record ← newRecord name fields named place
  modify fun workspace => { workspace with records := workspace.records.bind name record }
  return record.schema

end Session

namespace Step

open Session in
/-- Carry out a step. -/
def perform : Step → Session Outcome
  | .openContainer name data backing environment => do
      let environment ← environment.mapM environmentNumber
      ofExcept (backing.require data)
      let container ← openBlob (.of data backing) environment
      bindContainer name container
      return .answer (.text container.render)
  | .loadFile name path data verify environment => do
      let container ← openFile path data verify environment
      bindContainer name container
      return .answer (.text container.render)
  | .ask container request name => do
      let number ← containerNumber container
      let answer ← askContainer number (← request.lookup target)
      bindAnswer name number answer
      return .answer (← nameAnswer answer)
  | .viewPart part request => do
      let (number, view) ← bound (← get).views part
      useView number view request
  | .newEnvironment name => do
      modify fun workspace =>
        { workspace with
          environments := workspace.environments.push .empty
          environmentNames :=
            workspace.environmentNames.bind name workspace.environments.size }
      return .nothing
  | .useEnvironment environment request => do
      Session.useEnvironment (← environmentNumber environment) request
  | .newBlob name data backing => do
      ofExcept (backing.require data)
      modify fun workspace =>
        { workspace with blobs := workspace.blobs.bind name (.of data backing) }
      return .number data.length
  | .useBlob blob request => do
      Session.useBlob blob (← bound (← get).blobs blob) request
  | .defineRecord name fields layout place => do
      return .number (← Session.defineRecord name fields layout place).size
  | .createSpec place element register binding => do
      let place ← placeNamed place
      let spec ← Session.createSpec place (← elementNamed element) register
      modify fun workspace =>
        { workspace with specs := workspace.specs.bind binding spec }
      return .spec spec
  | .registerSpec target => do
      let spec ← specNamed target
      let (outcome, complete) := (← get).registry.register spec
      setRegistry complete
      ofExcept outcome
      return .spec spec
  | .describeSpec target => do return .spec (← specNamed target)
  | .specForName name => do return .optionalSpec ((← get).registry.forName? name)
  | .specForIndex (.tagged index) => do
      return .optionalSpec ((← get).registry.forIndex? index)
  | .specForIndex (.floating index) => do
      return .optionalSpec ((← get).registry.forSort? (.tagged index.kind) index.sort)
  | .specForIndex value => do
      discard <| ofExcept value.sortNumber
      return .nothing
  | .slotCount => return .number (← get).registry.slotCount
  | .registered => return .specs (← get).registry.bySlot
  | .unpack element data offset => do
      let element ← elementNamed element
      let offset ← ofExcept offset.toOffset
      return .value (← ofExcept (element.readFrom data.toArray offset))
  | .pack record fields => do
      return .value (.bytes (← ofExcept ((← recordNamed record).schema.pack fields)))
  | .packElement element value => do
      return .value (.bytes (← ofExcept ((← elementNamed element).pack value)))
  | .flatten values => do
      ofExcept (values.forM Value.requireEncoding)
      return .value (.list (Value.flatten values))
  | .addString text => do
      let (offset, builder) ← ofExcept ((← get).builder.addString text)
      modify fun workspace => { workspace with builder }
      return .value (.plain (.text offset))
  | .addPartition name entrySize data cardinality => do
      let builder ← ofExcept ((← get).builder.addPartition name entrySize data cardinality)
      modify fun workspace => { workspace with builder }
      return .nothing
  | .addElements target values name => do
      let spec ← specNamed target
      let builder ← ofExcept ((← get).builder.addElements spec values name)
      modify fun workspace => { workspace with builder }
      return .nothing
  | .unreadable subjects fault => do
      subjects.forM requireSubject
      throw fault

end Step

/-- Carry out a step on a workspace: the outcome if it can be shown, with the fault
that can be shown if it fails, the workspace afterwards, and what was reported
meanwhile. -/
def Workspace.run (workspace : Workspace) (step : Step) :
    Except Fault Outcome × Workspace × List Event :=
  let (outcome, after) := StateT.run (ExceptT.run step.perform) workspace
  let shown := do
    let outcome ← outcome
    outcome.requireShown
    return outcome
  (shown.mapError Fault.shown, after, after.log.drop workspace.log.length)

end ModuleInterface

import Mathlib
import ModuleInterface.Container.Request
import ModuleInterface.Proofs.Container.Reading

/-!
# What requests do to a container

A request can locate partitions, gather the two kinds of tables, add to the journal, close
the container and empty its table of contents. `Request.effects` lists what it does, in
order, up to the part that fails: it follows the request from access to access, and names
the accesses that go through the slots. `on_answer` says that this is all: the container is
afterwards what these effects make of it.
-/

namespace ModuleInterface

/-- Something that a query does to a container. -/
inductive Effect
  /-- A partition is located through the slot of its specification. -/
  | partition (spec : PartitionSpec)
  /-- The attributes of all declarations are gathered, unless they were. -/
  | attributes
  /-- A single trait of all declarations is gathered, unless it was. -/
  | trait (kind : SingleTrait)
  | importing (name : String)
  | compared (agrees : Bool)
  | closed
  /-- The table of contents is emptied. -/
  | emptied
  deriving Repr

namespace Container

/-- A container after an effect. -/
def apply (container : Container) : Effect → Container
  | .partition spec => ((Query.partition spec).on container).2
  | .attributes => (Query.attributeTable.on container).2
  | .trait kind => ((Query.traitTable kind).on container).2
  | .importing name => { container with journal := container.journal ++ [.importing name] }
  | .compared agrees =>
      { container with journal := container.journal ++ [.checksumCompared agrees] }
  | .closed => { container with blob := container.blob.release }
  | .emptied => { container with contents := [] }

/-- A container after some effects, one after another. -/
def applyAll (container : Container) (effects : List Effect) : Container :=
  effects.foldl apply container

@[simp] theorem applyAll_nil
    (container : Container) :
    container.applyAll [] = container := rfl

@[simp] theorem applyAll_cons
    (container : Container)
    (effect : Effect)
    (rest : List Effect) :
    container.applyAll (effect :: rest) = (container.apply effect).applyAll rest := rfl

theorem applyAll_append
    (container : Container)
    (earlier later : List Effect) :
    container.applyAll (earlier ++ later) = (container.applyAll earlier).applyAll later :=
  List.foldl_append

end Container

/-! ## Effects of requests -/

namespace Query

/-- The element of the partition of a specification that a key designates. -/
def elementOf (spec : PartitionSpec) (key : Value) : Query Value := do
  element (← partition spec) key

/-- The locations that resolving a value asks for: those of one partition, if it is an index
that is not null and has a known sort. -/
def resolveEffects (registry : Registry) : Value → List Effect
  | .tagged index =>
      if index.isNull then []
      else
        match registry.forIndex? index with
        | none => []
        | some spec => [.partition spec]
  | _ => []

/-- What resolving the entries of a view does, up to the first that fails. -/
def entriesEffects (registry : Registry) (view : View) :
    Container → Nat → Nat → List Effect
  | _, 0, _ => []
  | container, remaining + 1, position =>
      match view.read container.blob position with
      | .error _ => []
      | .ok entry =>
          resolveEffects registry entry ++
            match (resolve registry entry).on container with
            | (.ok _, after) => entriesEffects registry view after remaining (position + 1)
            | (.error _, _) => []

/-- What resolving a range of a heap does. -/
def heapEffects (registry : Registry) (container : Container) (heap : Target)
    (range : Value) : List Effect :=
  match range.holds "is_empty", heap.resolve with
  | .ok false, .ok spec =>
      .partition spec ::
        match (do ofExcept ((← partition spec).sliceOf range) : Query View).on container with
        | (.ok view, after) => entriesEffects registry view after view.count 0
        | (.error _, _) => []
  | _, _ => []

/-- What looking up a module does: the name is reported, if there is one. -/
def importEffects (environment : Option Environment) (container : Container)
    (reference : Value) : List Effect :=
  match environment, ((moduleName reference).on container).1 with
  | some _, .ok name => [.importing name]
  | _, _ => []

/-- What looking up the module of the unit of a record does. -/
def unitEffects (environment : Option Environment) (container : Container)
    (record : Value) : List Effect :=
  match record.part "unit" with
  | .ok reference => importEffects environment container reference
  | .error _ => []

/-- What looking up the parts of a qualified name does. -/
def partsEffects (container : Container) (qualifiedName : Value) : List Effect :=
  match qualifiedName.field "elements" with
  | .tagged elements =>
      if elements.sort = tupleSort then
        .partition Catalogue.exprTuple ::
          match ((elementOf Catalogue.exprTuple (.tagged elements)).on container).1 with
          | .ok _ => [.partition Catalogue.heapExpr]
          | .error _ => []
      else []
  | _ => []

end Query

open Query in
/-- What a request does to a container, in order. Looking for a partition by its name, or
for the records of a trait, asks for no slot; reading elements and slicing views does
nothing. -/
def Request.effects (registry : Registry) (environment : Option Environment)
    (container : Container) : Request Target → List Effect
  | .partition target =>
      match target.resolve with
      | .ok spec => [.partition spec]
      | .error _ => []
  | .globalScope => [.partition Catalogue.scopeDesc]
  | .verifyChecksum =>
      match (Query.computeChecksum.on container).1 with
      | .ok computed => [.compared (computed == container.header.checksum)]
      | .error _ => []
  | .close => [.closed]
  | .closeAfterUse => [.closed]
  | .clearContents => [.emptied]
  | .resolve index => resolveEffects registry index
  | .resolveHeap heap range => heapEffects registry container heap range
  | .attributesOf _ => [.attributes]
  | .traitOf kind _ => [.trait kind]
  | .deprecationText _ => [.trait .deprecation]
  | .importedModule reference => importEffects environment container reference
  | .importVia index =>
      resolveEffects registry index ++
        match (Query.resolve registry index).on container with
        | (.ok record, after) => unitEffects environment after record
        | (.error _, _) => []
  | .scopeOf _ => [.partition Catalogue.declScope]
  | .kindOf declaration =>
      .partition Catalogue.declScope ::
        match ((Query.scopeOf declaration).on container).1 with
        | .ok _ => [.partition Catalogue.typeFundamental]
        | .error _ => []
  | .declarationsOf _ => [.partition Catalogue.scopeMember]
  | .membersOf scope =>
      match scope.holds "is_null" with
      | .ok false =>
          .partition Catalogue.scopeDesc ::
            match ((elementOf Catalogue.scopeDesc scope).on container).1 with
            | .ok _ => [.partition Catalogue.scopeMember]
            | .error _ => []
      | _ => []
  | .tupleElements key =>
      .partition Catalogue.exprTuple ::
        match ((elementOf Catalogue.exprTuple key).on container).1 with
        | .ok _ => [.partition Catalogue.heapExpr]
        | .error _ => []
  | .qualifiedNameParts key =>
      .partition Catalogue.exprQualifiedName ::
        match (elementOf Catalogue.exprQualifiedName key).on container with
        | (.ok name, after) => partsEffects after name
        | (.error _, _) => []
  | _ => []

namespace Query

variable {α β : Type}

/-! ## Queries with effects -/

/-- A query does to a container what some effects do. -/
def Does (query : Query α) (container : Container) (effects : List Effect) : Prop :=
  (query.on container).2 = container.applyAll effects

/-- A query that only reads has no effects. -/
theorem Reads.does
    {query : Query α}
    (reads : Reads query)
    (container : Container) :
    query.Does container [] :=
  reads.still container

namespace Does

variable {container : Container} {effects : List Effect}

theorem partition
    (spec : PartitionSpec) :
    (Query.partition spec).Does container [.partition spec] := rfl

/-- What follows adds its own effects, which are none if the first part fails. -/
theorem bind
    {first : Query α}
    {next : α → Query β}
    {later : List Effect}
    (does : first.Does container effects)
    (following : ∀ value after, first.on container = (.ok value, after) →
      (next value).Does after later)
    (stopped : ∀ fault after, first.on container = (.error fault, after) → later = []) :
    (first >>= next).Does container (effects ++ later) := by
  unfold Does at does following ⊢
  rw [on_bind, Container.applyAll_append, ← does]
  cases ran : first.on container with
  | mk outcome after =>
      cases outcome with
      | error fault =>
          rw [stopped fault after ran]
          rfl
      | ok value => exact following value after ran

/-- What comes before may only read. -/
theorem reads_bind
    {first : Query α}
    {next : α → Query β}
    (reads : Reads first)
    (following : ∀ value, (first.on container).1 = .ok value →
      (next value).Does container effects)
    (stopped : ∀ fault, (first.on container).1 = .error fault → effects = []) :
    (first >>= next).Does container effects := by
  have kept := reads.still container
  refine (reads.does container).bind (fun value after ran => ?_) fun fault after ran => ?_
  · rw [ran] at kept following
    obtain rfl : after = container := kept
    exact following value rfl
  · rw [ran] at stopped
    exact stopped fault rfl

/-- What follows may only read. -/
theorem bind_reads
    {first : Query α}
    {next : α → Query β}
    (does : first.Does container effects)
    (reads : ∀ value, Reads (next value)) :
    (first >>= next).Does container effects := by
  unfold Does at does ⊢
  rw [on_bind, ← does]
  cases first.on container with
  | mk outcome after =>
      cases outcome with
      | error fault => rfl
      | ok value => exact (reads value).still after

theorem elementOf
    (spec : PartitionSpec)
    (key : Value) :
    (Query.elementOf spec key).Does container [.partition spec] :=
  (partition spec).bind_reads fun view => Reads.element view key

/-- What follows an element adds its own effects, which are none if the element is
refused. -/
theorem access
    {spec : PartitionSpec}
    {key : Value}
    {next : Value → Query β}
    {later : List Effect}
    (following : ∀ value after, (Query.elementOf spec key).on container = (.ok value, after) →
      (next value).Does after later)
    (stopped : ∀ fault after, (Query.elementOf spec key).on container = (.error fault, after) →
      later = []) :
    (Query.partition spec >>= fun view => Query.element view key >>= next).Does container
      (.partition spec :: later) := by
  rw [← bind_assoc]
  exact (elementOf spec key).bind following stopped

/-! ## Traits -/

theorem attributesOf
    (declaration : Value) :
    (Query.attributesOf declaration).Does container [.attributes] := by
  have does : Query.attributeTable.Does container [.attributes] := rfl
  exact does.bind_reads fun _ => (Reads.ofOutcome _).bind fun _ => .pure _

theorem traitOf
    (kind : SingleTrait)
    (declaration : Value) :
    (Query.traitOf kind declaration).Does container [.trait kind] := by
  have does : (Query.traitTable kind).Does container [.trait kind] := rfl
  exact does.bind_reads fun _ => (Reads.ofOutcome _).bind fun _ => .pure _

theorem deprecationText
    (declaration : Value) :
    (Query.deprecationText declaration).Does container [.trait .deprecation] :=
  (traitOf .deprecation declaration).bind_reads fun _ => (Reads.ofOutcome _).bind fun _ =>
    Reads.optionalStringAt _

/-! ## Walking between partitions -/

theorem globalScope : Query.globalScope.Does container [.partition Catalogue.scopeDesc] :=
  (partition _).bind_reads fun view =>
    .read (fun _ => rfl) (fun _ => rfl) fun _ => Reads.element view _

theorem scopeOf
    (declaration : Value) :
    (Query.scopeOf declaration).Does container [.partition Catalogue.declScope] :=
  elementOf _ _

theorem declarationsOf
    (range : Value) :
    (Query.declarationsOf range).Does container [.partition Catalogue.scopeMember] :=
  (partition _).bind_reads fun _ => .ofOutcome _

theorem heapExpr
    (tuple : Value) :
    (Query.tupleElements tuple).Does container [.partition Catalogue.heapExpr] :=
  (partition _).bind_reads fun _ => .ofOutcome _

theorem kindOf
    (declaration : Value) :
    (Query.scopeOf declaration >>= Query.kindOf).Does container
      (.partition Catalogue.declScope ::
        match ((Query.scopeOf declaration).on container).1 with
        | .ok _ => [.partition Catalogue.typeFundamental]
        | .error _ => []) := by
  refine (scopeOf declaration).bind (fun scope after ran => ?_) fun fault after ran => ?_
  · rw [ran]
    exact (partition Catalogue.typeFundamental).bind_reads fun view =>
      (Reads.element view _).bind fun _ => .pure _
  · rw [ran]

theorem membersOf
    (scope : Value) :
    (Query.membersOf scope).Does container
      (match scope.holds "is_null" with
        | .ok false =>
            .partition Catalogue.scopeDesc ::
              match ((Query.elementOf Catalogue.scopeDesc scope).on container).1 with
              | .ok _ => [.partition Catalogue.scopeMember]
              | .error _ => []
        | _ => []) := by
  unfold Query.membersOf
  cases scope.holds "is_null" with
  | error fault => rfl
  | ok isNull =>
      cases isNull with
      | true => rfl
      | false =>
          refine access (fun range after ran => ?_) fun fault after ran => ?_
          · rw [ran]
            exact (declarationsOf range).bind_reads fun view =>
              (Reads.elements view).bind fun _ => .pure _
          · rw [ran]

theorem qualifiedNameParts
    (qualifiedName : Value) :
    (Query.qualifiedNameParts qualifiedName).Does container
      (partsEffects container qualifiedName) := by
  unfold Query.qualifiedNameParts partsEffects
  generalize qualifiedName.field "elements" = part
  cases part with
  | tagged elements =>
      simp only
      by_cases tuple : elements.sort = tupleSort
      · rw [if_pos tuple, if_pos tuple]
        refine access (fun value after ran => ?_) fun fault after ran => ?_
        · rw [ran]
          exact heapExpr value
        · rw [ran]
      · rw [if_neg tuple, if_neg tuple]
        rfl
  | _ => rfl

/-! ## Resolving indices -/

theorem resolve
    (registry : Registry)
    (value : Value) :
    (Query.resolve registry value).Does container (resolveEffects registry value) := by
  have refused : ∀ other : Value, (do
      if ← ofExcept (other.holds "is_null") then return Value.null
      else throw (.unknownSort other.render (← ofExcept other.sortNumber)) :
        Query Value).Does container [] := fun other =>
    Reads.does ((Reads.ofOutcome _).bind fun _ => .choice (.pure _)
      ((Reads.ofOutcome _).bind fun _ => .throw _)) container
  cases value with
  | tagged index =>
      unfold Query.resolve Query.resolveIndex resolveEffects
      simp only
      by_cases null : index.isNull
      · rw [if_pos null, if_pos null]
        rfl
      · rw [if_neg null, if_neg null]
        cases registry.forIndex? index with
        | none => rfl
        | some spec => exact elementOf spec (.tagged index)
  | _ => exact refused _

theorem resolveEntries
    (registry : Registry)
    (view : View)
    (count position : Nat) :
    (Query.resolveEntries registry view count position).Does container
      (entriesEffects registry view container count position) := by
  induction count generalizing container position with
  | zero => rfl
  | succ remaining inductionHypothesis =>
      unfold Query.Does Query.resolveEntries entriesEffects
      rw [on_get_bind]
      cases view.read container.blob position with
      | error fault => rfl
      | ok entry =>
          refine (resolve registry entry).bind (fun record after ran => ?_)
            fun fault after ran => ?_
          · rw [ran]
            exact (inductionHypothesis (position + 1)).bind_reads fun _ => .pure _
          · rw [ran]

theorem resolveHeap
    (registry : Registry)
    (heap : Target)
    (range : Value) :
    (Query.resolveHeap registry heap range).Does container
      (heapEffects registry container heap range) := by
  unfold Query.resolveHeap heapEffects
  cases range.holds "is_empty" with
  | error fault => rfl
  | ok isEmpty =>
      cases isEmpty with
      | true => rfl
      | false =>
          cases heap.resolve with
          | error fault => rfl
          | ok spec =>
              have sliced : (do ofExcept ((← Query.partition spec).sliceOf range) :
                  Query View).Does container [.partition spec] :=
                (partition spec).bind_reads fun _ => .ofOutcome _
              have split : (do
                  let view ← ofExcept ((← Query.partition spec).sliceOf range)
                  Query.resolveEntries registry view view.count 0 : Query (List Value)) =
                    ((do ofExcept ((← Query.partition spec).sliceOf range) : Query View) >>=
                      fun view => Query.resolveEntries registry view view.count 0) := by
                rw [bind_assoc]
              change Query.Does (do
                let view ← ofExcept ((← Query.partition spec).sliceOf range)
                Query.resolveEntries registry view view.count 0) container _
              rw [split]
              refine sliced.bind (fun view after ran => ?_) fun fault after ran => ?_
              · rw [ran]
                exact resolveEntries registry view view.count 0
              · rw [ran]

/-! ## Imported modules -/

theorem importedModule
    (environment : Option Environment)
    (reference : Value) :
    (Query.importedModule environment reference).Does container
      (importEffects environment container reference) := by
  unfold Query.importedModule importEffects
  cases environment with
  | none => rfl
  | some environment =>
      refine reads_bind (.moduleName reference) (fun name answered => ?_)
        fun fault answered => ?_
      · rw [answered]
        have does : (Query.record (.importing name)).Does container [.importing name] := rfl
        exact does.bind_reads fun _ => .ofOutcome _
      · rw [answered]

theorem importedUnit
    (environment : Option Environment)
    (record : Value) :
    (Query.importedUnit environment record).Does container
      (unitEffects environment container record) := by
  unfold Query.importedUnit unitEffects
  cases record.part "unit" with
  | error fault => rfl
  | ok reference => exact importedModule environment reference

/-! ## Integrity -/

theorem verifyDigest
    (digest : List UInt8 → List UInt8) :
    (Query.verifyDigest digest).Does container
      (match ((Query.computeDigest digest).on container).1 with
        | .ok computed => [.compared (computed == container.header.checksum)]
        | .error _ => []) := by
  refine reads_bind (.computeDigest digest) (fun computed answered => ?_) fun fault answered => ?_
  · rw [answered]
    rfl
  · rw [answered]

theorem requireDigest
    (digest : List UInt8 → List UInt8)
    (path : String) :
    (Query.requireDigest digest path).Does container
      (match ((Query.computeDigest digest).on container).1 with
        | .ok computed => [.compared (computed == container.header.checksum)]
        | .error _ => []) :=
  (verifyDigest digest).bind_reads fun _ => .choice (.pure _) <|
    .read (fun _ => rfl) (fun _ => rfl) fun _ =>
      (Reads.computeDigest digest).bind fun _ => .throw _

end Does

/-! ## Requests -/

/-- A request does to a container what its effects do, and nothing else. -/
theorem does_answer
    (registry : Registry)
    (environment : Option Environment)
    (container : Container)
    (request : Request Target) :
    (request.answer registry environment).Does container
      (request.effects registry environment container) := by
  cases request with
  | header => rfl
  | contents => rfl
  | summary name =>
      refine Reads.does (.read (fun _ => rfl) (fun _ => rfl) fun container => ?_) container
      cases container.summary? name with
      | none => exact .pure _
      | some summary => exact .pure _
  | render => rfl
  | released => rfl
  | string offset =>
      exact ((Reads.ofOutcome _).bind fun _ => (Reads.stringAt _).bind fun _ => .pure _).does
        container
  | optionalString offset =>
      exact ((Reads.ofOutcome _).bind fun _ => (Reads.optionalStringAt _).bind fun _ =>
        .pure _).does container
  | findPartition target name =>
      refine Reads.does ((Reads.findPartition target name).bind fun found => ?_) container
      cases found with
      | none => exact .pure _
      | some view => exact .pure _
  | requirePartition target name =>
      exact ((Reads.requirePartition target name).bind fun _ => .pure _).does container
  | partition target =>
      simp only [Request.answer, Request.effects]
      cases target.resolve with
      | error fault => rfl
      | ok spec => exact (Does.partition spec).bind_reads fun _ => .pure _
  | globalScope => exact Does.globalScope.bind_reads fun _ => .pure _
  | unitName =>
      exact (Reads.unitName.bind fun _ => .pure _).does container
  | isPrimaryUnit => rfl
  | computeChecksum => exact ((Reads.computeDigest _).bind fun _ => .pure _).does container
  | verifyChecksum => exact (Does.verifyDigest _).bind_reads fun _ => .pure _
  | close => rfl
  | closeAfterUse => rfl
  | clearContents => rfl
  | resolve index => exact (Does.resolve registry index).bind_reads fun _ => .pure _
  | resolveHeap heap range =>
      exact (Does.resolveHeap registry heap range).bind_reads fun _ => .pure _
  | attributesOf declaration =>
      exact (Does.attributesOf declaration).bind_reads fun _ => .pure _
  | traitOf kind declaration =>
      exact (Does.traitOf kind declaration).bind_reads fun _ => .pure _
  | deprecationText declaration =>
      exact (Does.deprecationText declaration).bind_reads fun _ => .pure _
  | importedModule reference =>
      exact (Does.importedModule environment reference).bind_reads fun _ => .pure _
  | importVia index =>
      refine (Does.resolve registry index).bind (fun record after ran => ?_)
        fun fault after ran => ?_
      · rw [ran]
        exact (Does.importedUnit environment record).bind_reads fun _ => .pure _
      · rw [ran]
  | scopeOf declaration => exact (Does.scopeOf declaration).bind_reads fun _ => .pure _
  | kindOf declaration =>
      simp only [Request.answer, ← bind_assoc]
      exact (Does.kindOf declaration).bind_reads fun _ => .pure _
  | declarationsOf range => exact (Does.declarationsOf range).bind_reads fun _ => .pure _
  | membersOf scope => exact (Does.membersOf scope).bind_reads fun _ => .pure _
  | tupleElements key =>
      refine Does.access (fun tuple after ran => ?_) fun fault after ran => ?_
      · rw [ran]
        exact (Does.heapExpr tuple).bind_reads fun view =>
          (Reads.elements view).bind fun _ => .pure _
      · rw [ran]
  | qualifiedNameParts key =>
      refine Does.access (fun name after ran => ?_) fun fault after ran => ?_
      · rw [ran]
        exact (Does.qualifiedNameParts name).bind_reads fun view =>
          (Reads.elements view).bind fun _ => .pure _
      · rw [ran]
  | element view key => exact ((Reads.element view key).bind fun _ => .pure _).does container
  | elements view => exact ((Reads.elements view).bind fun _ => .pure _).does container
  | slice view range => exact ((Reads.ofOutcome _).bind fun _ => .pure _).does container

end Query
end ModuleInterface

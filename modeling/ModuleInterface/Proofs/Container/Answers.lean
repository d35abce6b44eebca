import Mathlib
import ModuleInterface.Container.Request
import ModuleInterface.Proofs.Container.Memory

/-!
# Answers of containers that are compared

Two containers can be compared while they are asked the same: they may differ in what they
remember, or in whether they were closed. What a comparison has to say is only how queries
that read, queries that remember something and reports go on related containers
(`Comparison.Lawful`). Then every query respects it, as long as the specifications that it
is asked with are among those that were made (`Query.Respects.answer`): all others are put
together from these. So what a container answers does not depend on what was asked before,
unless it was closed or its table of contents was emptied (`Query.Steady.answer`).
-/

namespace ModuleInterface

/-! ## Comparisons -/

/-- How two containers are compared: how they are related, and whether the second one may
fail where the first one goes on, since its bytes are released. -/
structure Comparison where
  related : Container → Container → Prop
  lenient : Prop

namespace Query

variable {α β : Type} {comparison : Comparison}

/-- Related containers answer a query in the same way and are left related. Where the second
one may fail, the first one may be asked alone. -/
structure Respects (query : Query α) (comparison : Comparison) : Prop where
  together : ∀ {left right : Container}, comparison.related left right →
    ((query.on right).1 = (query.on left).1 ∨
      comparison.lenient ∧ (query.on right).1 = .error .released) ∧
    comparison.related (query.on left).2 (query.on right).2
  alone : ∀ {left right : Container}, comparison.lenient → comparison.related left right →
    comparison.related (query.on left).2 right

namespace Respects

theorem ofOutcome
    (outcome : Except Fault α) :
    (ofExcept outcome : Query α).Respects comparison := by
  refine ⟨fun related => ?_, fun _ related => ?_⟩
  · rw [on_ofExcept, on_ofExcept]
    exact ⟨.inl rfl, related⟩
  · rw [on_ofExcept]
    exact related

theorem pure
    (value : α) :
    (Pure.pure value : Query α).Respects comparison :=
  ofOutcome (.ok value)

theorem throw
    (fault : Fault) :
    (MonadExcept.throw fault : Query α).Respects comparison :=
  ofOutcome (.error fault)

/-- A query may look at what related containers have in common. -/
theorem read
    {next : Container → Query α}
    (same : ∀ left right, comparison.related left right → next left = next right)
    (respects : ∀ container, (next container).Respects comparison) :
    (get >>= next).Respects comparison := by
  refine ⟨fun {left right} related => ?_, fun {left right} lenient related => ?_⟩
  · rw [on_get_bind, on_get_bind, ← same left right related]
    exact (respects left).together related
  · rw [on_get_bind]
    exact (respects left).alone lenient related

/-- When the second container fails, the first one goes on alone with what follows. -/
theorem bind
    {first : Query α}
    {next : α → Query β}
    (respectsFirst : first.Respects comparison)
    (respectsNext : ∀ value, (next value).Respects comparison) :
    (first >>= next).Respects comparison := by
  refine ⟨fun {left right} related => ?_, fun {left right} lenient related => ?_⟩
  · obtain ⟨answer, after⟩ := respectsFirst.together related
    rw [on_bind, on_bind]
    generalize first.on left = ranLeft at answer after
    generalize first.on right = ranRight at answer after
    obtain ⟨outcome, afterLeft⟩ := ranLeft
    obtain ⟨outcomeRight, afterRight⟩ := ranRight
    obtain rfl | ⟨lenient, rfl⟩ := answer
    · cases outcomeRight with
      | error fault => exact ⟨.inl rfl, after⟩
      | ok value => exact (respectsNext value).together after
    · refine ⟨.inr ⟨lenient, rfl⟩, ?_⟩
      cases outcome with
      | error fault => exact after
      | ok value => exact (respectsNext value).alone lenient after
  · have after := respectsFirst.alone lenient related
    rw [on_bind]
    generalize first.on left = ran at after
    obtain ⟨outcome, afterLeft⟩ := ran
    cases outcome with
    | error fault => exact after
    | ok value => exact (respectsNext value).alone lenient after

theorem choice
    {condition : Prop}
    [Decidable condition]
    {yes no : Query α}
    (respectsYes : yes.Respects comparison)
    (respectsNo : no.Respects comparison) :
    (if condition then yes else no).Respects comparison := by
  split
  · exact respectsYes
  · exact respectsNo

/-- A choice that a part of a value makes. -/
theorem given
    {outcome : Except Fault Bool}
    {yes no : Query α}
    (respectsYes : yes.Respects comparison)
    (respectsNo : no.Respects comparison) :
    (do if ← ofExcept outcome then yes else no).Respects comparison :=
  (ofOutcome _).bind fun _ => choice respectsYes respectsNo

end Respects
end Query

/-- What a comparison has to say: related containers have the same header, and the queries
that all others are put together from respect it. -/
structure Comparison.Lawful (comparison : Comparison) (made : List PartitionSpec) : Prop where
  header : ∀ {left right : Container}, comparison.related left right →
    left.header = right.header
  reads : ∀ {α : Type} {query : Query α}, query.Reads → query.Respects comparison
  partition : ∀ {spec : PartitionSpec}, spec.MadeIn made →
    (Query.partition spec).Respects comparison
  attributeTable : Query.attributeTable.Respects comparison
  traitTable : ∀ kind, (Query.traitTable kind).Respects comparison
  record : ∀ event, (Query.record event).Respects comparison

namespace Query
namespace Respects

variable {comparison : Comparison} {made : List PartitionSpec}
variable (lawful : comparison.Lawful made)

include lawful

/-! ## Traits -/

theorem attributesOf
    (declaration : Value) :
    (Query.attributesOf declaration).Respects comparison :=
  lawful.attributeTable.bind fun _ => (ofOutcome _).bind fun _ => pure _

theorem traitOf
    (kind : SingleTrait)
    (declaration : Value) :
    (Query.traitOf kind declaration).Respects comparison :=
  (lawful.traitTable kind).bind fun _ => (ofOutcome _).bind fun _ => pure _

theorem deprecationText
    (declaration : Value) :
    (Query.deprecationText declaration).Respects comparison :=
  (traitOf lawful .deprecation declaration).bind fun _ =>
    (ofOutcome _).bind fun _ => lawful.reads (.optionalStringAt _)

/-! ## Walking between partitions -/

section Walking

variable (grown : Catalogue.specs <+: made)

include grown

theorem standard
    {spec : PartitionSpec}
    (member : spec ∈ Catalogue.standard) :
    (Query.partition spec).Respects comparison :=
  lawful.partition (Catalogue.madeIn_of_mem_standard member grown)

/-- An element of one of the partitions that every container must have. -/
theorem access
    {spec : PartitionSpec}
    (member : spec ∈ Catalogue.standard)
    (key : Value)
    {α : Type}
    {next : Value → Query α}
    (respects : ∀ value, (next value).Respects comparison) :
    (Query.partition spec >>= fun view => Query.element view key >>= next).Respects
      comparison :=
  (standard lawful grown member).bind fun view =>
    (lawful.reads (.element view key)).bind respects

theorem globalScope : Query.globalScope.Respects comparison :=
  (standard lawful grown (by simp [Catalogue.standard])).bind fun _ =>
    lawful.reads (.read (fun _ => rfl) (fun _ => rfl) fun _ => .element _ _)

theorem scopeOf
    (declaration : Value) :
    (Query.scopeOf declaration).Respects comparison :=
  (standard lawful grown (by simp [Catalogue.standard])).bind fun _ =>
    lawful.reads (.element _ _)

theorem kindOf
    (scope : Value) :
    (Query.kindOf scope).Respects comparison :=
  access lawful grown (by simp [Catalogue.standard]) _ fun _ => pure _

theorem declarationsOf
    (range : Value) :
    (Query.declarationsOf range).Respects comparison :=
  (standard lawful grown (by simp [Catalogue.standard])).bind fun _ => ofOutcome _

theorem membersOf
    (scope : Value) :
    (Query.membersOf scope).Respects comparison :=
  given (pure _) <| access lawful grown (by simp [Catalogue.standard]) _ fun _ =>
    (declarationsOf lawful grown _).bind fun _ =>
      (lawful.reads (.elements _)).bind fun _ => pure _

theorem tupleElements
    (tuple : Value) :
    (Query.tupleElements tuple).Respects comparison :=
  (standard lawful grown (by simp [Catalogue.standard])).bind fun _ => ofOutcome _

theorem qualifiedNameParts
    (qualifiedName : Value) :
    (Query.qualifiedNameParts qualifiedName).Respects comparison := by
  unfold Query.qualifiedNameParts
  split
  · refine choice ?_ (throw _)
    exact access lawful grown (by simp [Catalogue.standard]) _ fun _ =>
      tupleElements lawful grown _
  · exact throw _

end Walking

/-! ## Resolving indices -/

section Resolving

variable {registry : Registry} (known : ∀ spec ∈ registry.sorted, spec.MadeIn made)

include known

theorem resolveIndex
    (index : TaggedIndex) :
    (Query.resolveIndex registry index).Respects comparison := by
  refine choice (pure _) ?_
  cases found : registry.forIndex? index with
  | none => exact throw _
  | some spec =>
      have own : spec.MadeIn made := known spec (List.mem_of_find?_eq_some found)
      exact (lawful.partition own).bind fun _ => lawful.reads (.element _ _)

theorem resolve
    (value : Value) :
    (Query.resolve registry value).Respects comparison := by
  unfold Query.resolve
  split
  · exact resolveIndex lawful known _
  · exact given (pure _) ((ofOutcome _).bind fun _ => throw _)

theorem resolveEntries
    (view : View)
    (count position : Nat) :
    (Query.resolveEntries registry view count position).Respects comparison := by
  induction count generalizing position with
  | zero => exact pure _
  | succ remaining inductionHypothesis =>
      have split : Query.resolveEntries registry view (remaining + 1) position =
          ((do ofExcept (view.read (← get).blob position)) >>= fun entry =>
            Query.resolve registry entry >>= fun record =>
              Query.resolveEntries registry view remaining (position + 1) >>= fun rest =>
                Pure.pure (record :: rest)) := by
        rw [Query.resolveEntries, bind_assoc]
      rw [split]
      exact (lawful.reads (.entry view position)).bind fun entry =>
        (resolve lawful known entry).bind fun _ =>
          (inductionHypothesis (position + 1)).bind fun _ => pure _

theorem resolveHeap
    {heap : Target}
    (own : ∀ spec, heap.resolve = .ok spec → spec.MadeIn made)
    (range : Value) :
    (Query.resolveHeap registry heap range).Respects comparison := by
  refine given (pure _) ?_
  cases resolved : heap.resolve with
  | error fault => exact throw fault
  | ok spec =>
      exact (lawful.partition (own spec resolved)).bind fun _ => (ofOutcome _).bind fun _ =>
        resolveEntries lawful known _ _ _

end Resolving

/-! ## Imported modules -/

theorem importedModule
    (environment : Option Environment)
    (reference : Value) :
    (Query.importedModule environment reference).Respects comparison := by
  cases environment with
  | none => exact throw _
  | some environment =>
      exact (lawful.reads (.moduleName reference)).bind fun _ =>
        (lawful.record _).bind fun _ => ofOutcome _

theorem importedUnit
    (environment : Option Environment)
    (record : Value) :
    (Query.importedUnit environment record).Respects comparison :=
  (ofOutcome _).bind fun _ => importedModule lawful _ _

/-! ## Integrity -/

theorem verifyDigest
    (digest : List UInt8 → List UInt8) :
    (Query.verifyDigest digest).Respects comparison :=
  (lawful.reads (.computeDigest digest)).bind fun _ =>
    read (fun _ _ related => by rw [lawful.header related]) fun _ =>
      (lawful.record _).bind fun _ => pure _

end Respects
end Query

/-! ## Requests -/

/-- The specification that a target stands for is one that was made. -/
def Target.MadeIn (target : Target) (made : List PartitionSpec) : Prop :=
  ∀ spec, target.resolve = .ok spec → spec.MadeIn made

theorem Target.MadeIn.mono
    {target : Target}
    {made later : List PartitionSpec}
    (own : target.MadeIn made)
    (grown : made <+: later) :
    target.MadeIn later :=
  fun spec resolved => getElem?_of_isPrefix grown (own spec resolved)

namespace Request

/-- A condition on what stands for the partition of a request, if it names one. -/
def OnTarget {target : Type} (condition : target → Prop) : Request target → Prop
  | .findPartition target _ => condition target
  | .requirePartition target _ => condition target
  | .partition target => condition target
  | .resolveHeap target _ => condition target
  | _ => True

theorem OnTarget.imp
    {target : Type}
    {condition weaker : target → Prop}
    {request : Request target}
    (holds : request.OnTarget condition)
    (implied : ∀ target, condition target → weaker target) :
    request.OnTarget weaker := by
  cases request with
  | findPartition target _ => exact implied target holds
  | requirePartition target _ => exact implied target holds
  | partition target => exact implied target holds
  | resolveHeap target _ => exact implied target holds
  | _ => trivial

/-- Whether a container is the same after a request: it is not closed, and keeps its
table of contents. -/
def keepsContainer {target : Type} : Request target → Bool
  | .close => false
  | .closeAfterUse => false
  | .clearContents => false
  | _ => true

end Request

namespace Request

/-- Whether a request asks if the bytes are released. -/
def asksReleased {target : Type} : Request target → Bool
  | .released => true
  | _ => false

/-- The view that a request is to. -/
def view? {target : Type} : Request target → Option View
  | .element view _ => some view
  | .elements view => some view
  | .slice view _ => some view
  | _ => none

end Request

namespace Query.Respects

/-- Related containers answer every request in the same way, if it does not change them and
names partitions that were made. -/
theorem answer
    {comparison : Comparison}
    {made : List PartitionSpec}
    (lawful : comparison.Lawful made)
    (grown : Catalogue.specs <+: made)
    {registry : Registry}
    (known : ∀ spec ∈ registry.sorted, spec.MadeIn made)
    (environment : Option Environment)
    {request : Request Target}
    (own : request.OnTarget fun target => target.MadeIn made)
    (keeps : request.keepsContainer)
    (plain : request.asksReleased = false) :
    (request.answer registry environment).Respects comparison := by
  cases request with
  | header => exact lawful.reads (.read (fun _ => rfl) (fun _ => rfl) fun _ => .pure _)
  | contents => exact lawful.reads (.read (fun _ => rfl) (fun _ => rfl) fun _ => .pure _)
  | summary name =>
      refine lawful.reads (.read (fun _ => rfl) (fun _ => rfl) fun container => ?_)
      cases container.summary? name with
      | none => exact .pure _
      | some summary => exact .pure _
  | render => exact lawful.reads (.read (fun _ => rfl) (fun _ => rfl) fun _ => .pure _)
  | released => contradiction
  | string offset =>
      exact (ofOutcome _).bind fun _ => (lawful.reads (.stringAt _)).bind fun _ => pure _
  | optionalString offset =>
      exact (ofOutcome _).bind fun _ => (lawful.reads (.optionalStringAt _)).bind fun _ =>
        pure _
  | findPartition target name =>
      refine (lawful.reads (.findPartition target name)).bind fun found => ?_
      cases found with
      | none => exact pure _
      | some view => exact pure _
  | requirePartition target name =>
      exact (lawful.reads (.requirePartition target name)).bind fun _ => pure _
  | partition target =>
      simp only [Request.answer]
      cases resolved : target.resolve with
      | error fault => exact throw fault
      | ok spec => exact (lawful.partition (own spec resolved)).bind fun _ => pure _
  | globalScope => exact (globalScope lawful grown).bind fun _ => pure _
  | unitName => exact (lawful.reads .unitName).bind fun _ => pure _
  | isPrimaryUnit => exact (lawful.reads .isPrimaryUnit).bind fun _ => pure _
  | computeChecksum => exact (lawful.reads (.computeDigest _)).bind fun _ => pure _
  | verifyChecksum => exact (verifyDigest lawful _).bind fun _ => pure _
  | close => contradiction
  | closeAfterUse => contradiction
  | clearContents => contradiction
  | resolve index => exact (resolve lawful known index).bind fun _ => pure _
  | resolveHeap heap range => exact (resolveHeap lawful known own range).bind fun _ => pure _
  | attributesOf declaration => exact (attributesOf lawful declaration).bind fun _ => pure _
  | traitOf kind declaration => exact (traitOf lawful kind declaration).bind fun _ => pure _
  | deprecationText declaration =>
      exact (deprecationText lawful declaration).bind fun _ => pure _
  | importedModule reference =>
      exact (importedModule lawful environment reference).bind fun _ => pure _
  | importVia index =>
      exact (resolve lawful known index).bind fun _ =>
        (importedUnit lawful environment _).bind fun _ => pure _
  | scopeOf declaration => exact (scopeOf lawful grown declaration).bind fun _ => pure _
  | kindOf declaration =>
      exact (scopeOf lawful grown declaration).bind fun _ =>
        (kindOf lawful grown _).bind fun _ => pure _
  | declarationsOf range => exact (declarationsOf lawful grown range).bind fun _ => pure _
  | membersOf scope => exact (membersOf lawful grown scope).bind fun _ => pure _
  | tupleElements key =>
      exact access lawful grown (by simp [Catalogue.standard]) _ fun _ =>
        (tupleElements lawful grown _).bind fun _ =>
          (lawful.reads (.elements _)).bind fun _ => pure _
  | qualifiedNameParts key =>
      exact access lawful grown (by simp [Catalogue.standard]) _ fun _ =>
        (qualifiedNameParts lawful grown _).bind fun _ =>
          (lawful.reads (.elements _)).bind fun _ => pure _
  | element view key => exact (lawful.reads (.element view key)).bind fun _ => pure _
  | elements view => exact (lawful.reads (.elements view)).bind fun _ => pure _
  | slice view range => exact (ofOutcome _).bind fun _ => pure _

end Query.Respects

/-! ## Memory -/

/-- Two containers with the same tables, which may differ in what they remember, as long as
it is right. -/
def Comparison.memory (made : List PartitionSpec) (tables : Container) : Comparison where
  related left right :=
    (left.bare = tables ∧ left.Remembers made) ∧ right.bare = tables ∧ right.Remembers made
  lenient := False

namespace Query

variable {α : Type} {made : List PartitionSpec}

theorem Steady.respects
    {query : Query α}
    (steady : Steady made query)
    (tables : Container) :
    query.Respects (.memory made tables) := by
  refine ⟨?_, fun lenient => lenient.elim⟩
  rintro left right ⟨⟨tablesLeft, remembersLeft⟩, tablesRight, remembersRight⟩
  obtain ⟨answerLeft, keptLeft, rightLeft⟩ := steady left remembersLeft
  obtain ⟨answerRight, keptRight, rightRight⟩ := steady right remembersRight
  refine ⟨.inl ?_, ⟨keptLeft.trans tablesLeft, rightLeft⟩, keptRight.trans tablesRight,
    rightRight⟩
  rw [answerLeft, answerRight, tablesLeft, tablesRight]

/-- A query is steady if the memory of containers does not matter to it. -/
theorem Steady.of_respects
    {query : Query α}
    (respects : ∀ tables, query.Respects (.memory made tables)) :
    Steady made query := by
  intro container remembers
  have related : (Comparison.memory made container.bare).related container container.bare :=
    ⟨⟨rfl, remembers⟩, rfl, container.remembers_bare made⟩
  obtain ⟨answer, ⟨tables, kept⟩, _⟩ := (respects container.bare).together related
  exact ⟨(answer.resolve_right fun lenient => lenient.1).symm, tables, kept⟩

end Query

theorem Comparison.lawful_memory
    (made : List PartitionSpec)
    (tables : Container) :
    (Comparison.memory made tables).Lawful made where
  header {left right} related := by
    obtain ⟨⟨tablesLeft, _⟩, tablesRight, _⟩ := related
    change left.bare.header = right.bare.header
    rw [tablesLeft, tablesRight]
  reads reads := reads.steady.respects tables
  partition own := (Query.Steady.partition own).respects tables
  attributeTable := Query.memo_attributes.steady.respects tables
  traitTable kind := (Query.memo_traits kind).steady.respects tables
  record event := (Query.Steady.record event).respects tables

namespace Query.Steady

variable {made : List PartitionSpec}

theorem attributesOf
    (declaration : Value) :
    Steady made (Query.attributesOf declaration) :=
  .of_respects fun tables => .attributesOf (Comparison.lawful_memory made tables) declaration

theorem traitOf
    (kind : SingleTrait)
    (declaration : Value) :
    Steady made (Query.traitOf kind declaration) :=
  .of_respects fun tables => .traitOf (Comparison.lawful_memory made tables) kind declaration

/-- What a container answers does not depend on what was asked before. -/
theorem answer
    (grown : Catalogue.specs <+: made)
    {registry : Registry}
    (known : ∀ spec ∈ registry.sorted, spec.MadeIn made)
    (environment : Option Environment)
    {request : Request Target}
    (own : request.OnTarget fun target => target.MadeIn made)
    (keeps : request.keepsContainer) :
    Steady made (request.answer registry environment) := by
  cases asks : request.asksReleased with
  | false =>
      exact .of_respects fun tables =>
        .answer (Comparison.lawful_memory made tables) grown known environment own keeps asks
  | true =>
      cases request with
      | released => exact fun _ remembers => ⟨rfl, rfl, remembers⟩
      | _ => contradiction

end Query.Steady
end ModuleInterface

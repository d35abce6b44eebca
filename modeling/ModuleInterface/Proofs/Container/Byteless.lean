import Mathlib
import ModuleInterface.Proofs.Container.Release

/-!
# Answers that need no byte

A query needs no byte for its answer if the answer is the same whatever the blob of the
container is, be it released or not (`Query.NeedsNoByte`). The requests that are such are
the ones for the header and the table of contents, for views and slices of views, and those
that are refused before any byte is used, or answered by a table that is gathered already
(`Request.Byteless`). A closed container answers them as one that outlasts it does.
-/

namespace ModuleInterface

/-! ## Keys that are refused -/

/-- A key designates no element of a view: it is of another kind or another sort, or null, or
its position lies outside. -/
def View.Refuses (view : View) : Value → Prop
  | .floating index =>
      view.spec.indexKind.includes index.kind →
        view.requireSort index.sort index.render = .ok () →
          ¬Binary64.isBelow index.position view.count
  | key => ∀ position, view.position key = .ok position →
      ¬(0 ≤ position ∧ position < view.count)

/-- A key that designates no element is refused in the same way whatever the bytes are. -/
theorem View.Refuses.get_eq
    {view : View}
    {key : Value}
    (refuses : view.Refuses key) :
    ∃ fault, ∀ blob, view.get blob key = .error fault := by
  have outside : ∀ position : Except Fault Int,
      (∀ found, position = .ok found → ¬(0 ≤ found ∧ found < view.count)) →
      ∃ fault, ∀ blob : Blob, (do
        let position ← position
        if 0 ≤ position ∧ position < view.count then view.read blob position.toNat
        else .error (.positionOutside position view.name view.count) : Except Fault Value) =
          .error fault := by
    intro position refused
    cases position with
    | error fault => exact ⟨fault, fun _ => rfl⟩
    | ok found => exact ⟨_, fun _ => if_neg (refused found rfl)⟩
  cases key with
  | floating index =>
      simp only [get]
      by_cases kind : view.spec.indexKind.includes index.kind
      · simp only [if_pos kind, getFloating]
        cases sorted : view.requireSort index.sort index.render with
        | error fault => exact ⟨fault, fun _ => rfl⟩
        | ok found => exact ⟨_, fun _ => if_neg (refuses kind sorted)⟩
      · simp only [if_neg kind]
        exact ⟨_, fun _ => rfl⟩
  | _ => exact outside _ refuses

namespace Container

/-- A key designates no element of the partition of a specification, or there is no such
partition. -/
def Refuses (container : Container) (spec : PartitionSpec) (key : Value) : Prop :=
  ∀ view, ((Query.partition spec).on container).1 = .ok view → view.Refuses key

/-- An offset lies outside the string table. -/
def OutsideTable (container : Container) (offset : Int) : Prop :=
  ¬(0 ≤ offset ∧ offset < container.header.stringTableSize)

theorem OutsideTable.tableText_eq
    {container : Container}
    {offset : Int}
    (outside : container.OutsideTable offset)
    (blob other : Blob) :
    tableText container.header blob offset = tableText container.header other offset := by
  unfold tableText
  split
  · rfl
  · rw [if_neg outside, if_neg outside]

end Container

/-- The requests that need no byte: those for header, table of contents and views, those
that are answered by a table that is gathered already, those of null and of an empty range,
those of a key, an offset or a partition that is not there, and closing. -/
def Request.Byteless (registry : Registry) (container : Container) : Request Target → Prop
  | .header => True
  | .contents => True
  | .summary _ => True
  | .render => True
  | .isPrimaryUnit => True
  | .close => True
  | .closeAfterUse => True
  | .findPartition _ _ => True
  | .requirePartition _ _ => True
  | .partition _ => True
  | .declarationsOf _ => True
  | .slice _ _ => True
  | .string offset => ∀ number, offset.toInteger = .ok number → container.OutsideTable number
  | .optionalString offset => ∀ number, offset.toInteger = .ok number →
      number = 0 ∨ container.OutsideTable number
  | .attributesOf _ => container.attributes.isSome
  | .traitOf kind _ => (container.traits.find? kind).isSome
  | .resolve (.tagged index) => index.isNull ∨ ∀ spec, registry.forIndex? index = some spec →
      container.Refuses spec (.tagged index)
  | .resolve _ => True
  | .resolveHeap _ range => range.holds "is_empty" ≠ .ok false
  | .globalScope => container.Refuses Catalogue.scopeDesc
      (.plain (.scope container.header.globalScope))
  | .scopeOf declaration => container.Refuses Catalogue.declScope declaration
  | .kindOf declaration => container.Refuses Catalogue.declScope declaration
  | .membersOf scope => scope.holds "is_null" = .ok false →
      container.Refuses Catalogue.scopeDesc scope
  | .tupleElements key => container.Refuses Catalogue.exprTuple key
  | .qualifiedNameParts key => container.Refuses Catalogue.exprQualifiedName key
  | .element view key => view.Refuses key
  | .elements view => view.count = 0
  | _ => False

namespace Query

variable {α β : Type}

/-! ## Queries that never use the bytes -/

/-- A query does the same whatever the blob of a container is. -/
def Blind (query : Query α) : Prop :=
  ∀ (container : Container) blob, query.on { container with blob } =
    ((query.on container).1, { (query.on container).2 with blob })

namespace Blind

theorem ofOutcome
    (outcome : Except Fault α) :
    Blind (ofExcept outcome : Query α) := by
  intro container blob
  rw [on_ofExcept, on_ofExcept]

theorem pure
    (value : α) :
    Blind (Pure.pure value : Query α) :=
  ofOutcome (.ok value)

theorem read
    {next : Container → Query α}
    (same : ∀ (container : Container) blob, next { container with blob } = next container)
    (blind : ∀ container, Blind (next container)) :
    Blind (get >>= next) := by
  intro container blob
  rw [on_get_bind, on_get_bind, same]
  exact blind container container blob

theorem bind
    {first : Query α}
    {next : α → Query β}
    (blindFirst : Blind first)
    (blindNext : ∀ value, Blind (next value)) :
    Blind (first >>= next) := by
  intro container blob
  rw [on_bind, on_bind, blindFirst]
  generalize first.on container = ran
  obtain ⟨outcome, after⟩ := ran
  cases outcome with
  | error fault => rfl
  | ok value => exact blindNext value after blob

theorem partition
    (spec : PartitionSpec) :
    Blind (Query.partition spec) := by
  intro container blob
  have located : Container.located? { container with blob } spec.slot =
      container.located? spec.slot := rfl
  have required : Container.requirePartition { container with blob } spec spec.name =
      container.requirePartition spec spec.name := rfl
  rw [on_partition_eq, on_partition_eq, located, required]
  cases container.located? spec.slot with
  | some location => rfl
  | none => cases container.requirePartition spec spec.name <;> rfl

theorem findPartition
    (target : Target)
    (name : Option String) :
    Blind (Query.findPartition target name) :=
  (ofOutcome _).bind fun _ => read (fun _ _ => rfl) fun _ => ofOutcome _

theorem requirePartition
    (target : Target)
    (name : Option String) :
    Blind (Query.requirePartition target name) :=
  (ofOutcome _).bind fun _ => read (fun _ _ => rfl) fun _ => ofOutcome _

end Blind

/-! ## Answers that need no byte -/

/-- A query has the same answer from a container whatever its blob is. -/
def NeedsNoByte (query : Query α) (container : Container) : Prop :=
  ∀ blob, (query.on { container with blob }).1 = (query.on container).1

variable {container : Container}

theorem Blind.needsNoByte
    {query : Query α}
    (blind : Blind query)
    (container : Container) :
    query.NeedsNoByte container := by
  intro blob
  rw [blind]

namespace NeedsNoByte

/-- What follows is asked only if there is something to ask it for. -/
theorem bind
    {first : Query α}
    {next : α → Query β}
    (blind : Blind first)
    (needs : ∀ value after, first.on container = (.ok value, after) →
      (next value).NeedsNoByte after) :
    (first >>= next).NeedsNoByte container := by
  intro blob
  rw [on_bind, on_bind, blind]
  cases ran : first.on container with
  | mk outcome after =>
      cases outcome with
      | error fault => rfl
      | ok value => exact needs value after ran blob

/-- Nothing follows an element that is refused. -/
theorem element
    {view : View}
    {key : Value}
    (refuses : view.Refuses key)
    (next : Value → Query α)
    (container : Container) :
    (Query.element view key >>= next).NeedsNoByte container := by
  obtain ⟨fault, refused⟩ := refuses.get_eq
  intro blob
  rw [on_bind, on_bind, Query.element, on_get_bind, on_get_bind, on_ofExcept, on_ofExcept,
    refused, refused]

theorem access
    {spec : PartitionSpec}
    {key : Value}
    (refuses : container.Refuses spec key)
    (next : Value → Query α) :
    (Query.partition spec >>= fun view => Query.element view key >>= next).NeedsNoByte
      container :=
  bind (.partition spec) fun view _ ran =>
    element (refuses view (congrArg Prod.fst ran)) next _

theorem stringAt
    {offset : Int}
    (outside : container.OutsideTable offset)
    {next : String → Query α}
    (blind : ∀ text, Blind (next text)) :
    (Query.stringAt offset >>= next).NeedsNoByte container := by
  intro blob
  rw [on_bind, on_bind, Query.stringAt, on_get_bind, on_get_bind, on_ofExcept, on_ofExcept,
    outside.tableText_eq blob container.blob]
  cases Container.tableText container.header container.blob offset with
  | error fault => rfl
  | ok text => exact (blind text).needsNoByte container blob

/-- The global scope is refused by the partition of scopes. -/
theorem globalScope
    (refuses : container.Refuses Catalogue.scopeDesc
      (.plain (.scope container.header.globalScope)))
    (next : Value → Query α) :
    (Query.globalScope >>= next).NeedsNoByte container := by
  simp only [Query.globalScope, bind_assoc]
  refine .bind (.partition _) fun view after ran => ?_
  -- Locating the partition leaves the header that names the scope.
  have header : after.header = container.header := by
    have kept := congrArg (fun ran => ran.2.header) ran
    rw [← kept, on_partition_eq]
    cases container.located? Catalogue.scopeDesc.slot with
    | some location => rfl
    | none => cases container.requirePartition Catalogue.scopeDesc _ <;> rfl
  have refused := refuses view (congrArg Prod.fst ran)
  rw [← header] at refused
  intro blob
  rw [on_get_bind, on_get_bind]
  exact element refused next after blob

/-- A table that is remembered is answered without the bytes it was gathered from. -/
theorem memo
    {made : List PartitionSpec}
    {query gather : Query α}
    {recalled : Container → Option α}
    {store : α → Container → Container}
    (memo : Memo made query gather recalled store)
    {found : α}
    (remembered : recalled container = some found)
    (same : ∀ blob, recalled { container with blob } = recalled container)
    {next : α → Query β}
    (blind : ∀ value, Blind (next value)) :
    (query >>= next).NeedsNoByte container := by
  intro blob
  rw [on_bind, on_bind, memo.on_of_some remembered,
    memo.on_of_some ((same blob).trans remembered)]
  exact (blind found).needsNoByte container blob

theorem resolve
    {registry : Registry}
    {value : Value}
    (byteless : (Request.resolve value : Request Target).Byteless registry container)
    {next : Value → Query α}
    (blind : ∀ value, Blind (next value)) :
    (Query.resolve registry value >>= next).NeedsNoByte container := by
  have others : ∀ other : Value, Blind (do
      if ← ofExcept (other.holds "is_null") then return Value.null
      else throw (.unknownSort other.render (← ofExcept other.sortNumber)) : Query Value) := by
    refine fun other => (Blind.ofOutcome _).bind fun isNull => ?_
    split
    · exact .pure _
    · exact (Blind.ofOutcome _).bind fun _ => Blind.ofOutcome (.error _)
  cases value with
  | tagged index =>
      simp only [Query.resolve, Query.resolveIndex]
      by_cases null : index.isNull
      · rw [if_pos null]
        exact ((Blind.pure _).bind blind).needsNoByte container
      · rw [if_neg null]
        have refuses := byteless.resolve_left null
        cases found : registry.forIndex? index with
        | none => exact ((Blind.ofOutcome (.error _)).bind blind).needsNoByte container
        | some spec =>
            simp only [bind_assoc]
            exact access (refuses spec found) next
  | _ => exact ((others _).bind blind).needsNoByte container

end NeedsNoByte

/-- The requests that are byteless need no byte. -/
theorem needsNoByte_of_byteless
    {registry : Registry}
    (environment : Option Environment)
    {request : Request Target}
    (byteless : request.Byteless registry container) :
    (request.answer registry environment).NeedsNoByte container := by
  cases request with
  | header => exact fun _ => rfl
  | contents => exact fun _ => rfl
  | summary name =>
      refine (Blind.read (fun _ _ => rfl) fun other => ?_).needsNoByte container
      cases other.summary? name with
      | none => exact .pure _
      | some summary => exact .pure _
  | render => exact fun _ => rfl
  | isPrimaryUnit => exact fun _ => rfl
  | close => exact fun _ => rfl
  | closeAfterUse => exact fun _ => rfl
  | findPartition target name =>
      refine ((Blind.findPartition target name).bind fun found => ?_).needsNoByte container
      cases found with
      | none => exact .pure _
      | some view => exact .pure _
  | requirePartition target name =>
      exact ((Blind.requirePartition target name).bind fun _ => .pure _).needsNoByte container
  | partition target =>
      exact ((Blind.ofOutcome _).bind fun spec => (Blind.partition spec).bind fun _ =>
        .pure _).needsNoByte container
  | declarationsOf range =>
      exact (((Blind.partition _).bind fun _ => .ofOutcome _).bind fun _ =>
        .pure _).needsNoByte container
  | slice view range =>
      exact ((Blind.ofOutcome _).bind fun _ => .pure _).needsNoByte container
  | string offset =>
      refine .bind (.ofOutcome _) fun number after ran => ?_
      rw [on_ofExcept, Prod.mk.injEq] at ran
      obtain ⟨given, rfl⟩ := ran
      exact .stringAt (byteless number given) fun _ => .pure _
  | optionalString offset =>
      refine .bind (.ofOutcome _) fun number after ran => ?_
      rw [on_ofExcept, Prod.mk.injEq] at ran
      obtain ⟨given, rfl⟩ := ran
      unfold Query.optionalStringAt
      by_cases null : number = 0
      · rw [if_pos null]
        exact fun _ => rfl
      · rw [if_neg null, bind_assoc]
        exact .stringAt ((byteless number given).resolve_left null) fun _ =>
          (Blind.pure _).bind fun _ => .pure _
  | attributesOf declaration =>
      obtain ⟨table, remembered⟩ := Option.isSome_iff_exists.mp byteless
      simp only [Request.answer, Query.attributesOf, bind_assoc]
      exact .memo (memo_attributes : Memo [] _ _ _ _) remembered (fun _ => rfl) fun _ =>
        (Blind.ofOutcome _).bind fun _ => (Blind.pure _).bind fun _ => .pure _
  | traitOf kind declaration =>
      obtain ⟨table, remembered⟩ := Option.isSome_iff_exists.mp byteless
      simp only [Request.answer, Query.traitOf, bind_assoc]
      exact .memo (memo_traits kind : Memo [] _ _ _ _) remembered (fun _ => rfl) fun _ =>
        (Blind.ofOutcome _).bind fun _ => (Blind.pure _).bind fun _ => .pure _
  | resolve index => exact .resolve byteless fun _ => .pure _
  | resolveHeap heap range =>
      simp only [Request.answer, Query.resolveHeap]
      cases holds : range.holds "is_empty" with
      | error fault => exact fun _ => rfl
      | ok isEmpty =>
          cases isEmpty with
          | true => exact fun _ => rfl
          | false => exact absurd holds byteless
  | globalScope => exact .globalScope byteless _
  | scopeOf declaration =>
      simp only [Request.answer, Query.scopeOf, bind_assoc]
      exact .access byteless _
  | kindOf declaration =>
      simp only [Request.answer, Query.scopeOf, bind_assoc]
      exact .access byteless _
  | membersOf scope =>
      simp only [Request.answer, Query.membersOf, bind_assoc]
      refine .bind (.ofOutcome _) fun isNull after ran => ?_
      rw [on_ofExcept, Prod.mk.injEq] at ran
      obtain ⟨holds, rfl⟩ := ran
      cases isNull with
      | true => exact fun _ => rfl
      | false =>
          simp only [Bool.false_eq_true, if_false, bind_assoc]
          exact .access (byteless holds) _
  | tupleElements key => exact .access byteless _
  | qualifiedNameParts key => exact .access byteless _
  | element view key => exact .element byteless _ container
  | elements view =>
      intro blob
      have empty : ∀ blob, view.list blob = .ok [] := by
        intro blob
        rw [View.list, byteless]
        rfl
      simp only [Request.answer, on_bind, Query.elements, on_ofExcept, empty]
      rfl
  | _ => contradiction

end Query

/-- What needs no byte is answered by a closed container as by one that outlasts it: both
are answered as if they had not been closed, by what they remember or else by what they
would find. -/
theorem Container.Outlasts.same_answer
    {left right : Container}
    {made : List PartitionSpec}
    (outlasts : left.Outlasts right made)
    {α : Type}
    {query : Query α}
    (steady : query.Steady made)
    (respects : query.Respects (.release made))
    (needs : query.NeedsNoByte right) :
    (query.on right).1 = (query.on left).1 := by
  have opened : (query.on left.reopened).1 = (query.on right).1 := by
    rw [← needs right.reopened.blob, (steady left.reopened outlasts.remembers).1,
      ← outlasts.tables]
    exact (steady right.reopened outlasts.remembers_other).1.symm
  obtain same | leftClosed := left.reopened_or_closed
  · rw [← opened, ← same]
  · have itself : left.reopened.Outlasts left made := by
      have outlastsClosed : left.reopened.Outlasts left.reopened.closed made :=
        Container.outlasts_closed outlasts.remembers
      rwa [← leftClosed] at outlastsClosed
    obtain same | ⟨_, released⟩ := (respects.together itself).1
    · rw [same, opened]
    · obtain answer | ⟨_, failed⟩ := (respects.together outlasts).1
      · exact answer
      · rw [released, failed]

/-- A partition is located by a closed container as by one that outlasts it. -/
theorem Container.Outlasts.partition
    {left right : Container}
    {made : List PartitionSpec}
    (outlasts : left.Outlasts right made)
    {spec : PartitionSpec}
    (own : spec.MadeIn made) :
    ((Query.partition spec).on right).1 = ((Query.partition spec).on left).1 :=
  outlasts.same_answer (.partition own) (Query.memo_partition own).respects_release
    ((Query.Blind.partition spec).needsNoByte right)

/-- What a request needs no byte for is answered by a closed container as by one that
outlasts it. -/
theorem Container.Outlasts.answer_eq
    {left right : Container}
    {made : List PartitionSpec}
    (outlasts : left.Outlasts right made)
    (grown : Catalogue.specs <+: made)
    {registry : Registry}
    (known : ∀ spec ∈ registry.sorted, spec.MadeIn made)
    (environment : Option Environment)
    {request : Request Target}
    (own : request.OnTarget fun target => target.MadeIn made)
    (keeps : request.keepsContainer)
    (needs : (request.answer registry environment).NeedsNoByte right) :
    ((request.answer registry environment).on right).1 =
      ((request.answer registry environment).on left).1 := by
  have plain : request.asksReleased = false := by
    cases request with
    | released =>
        have flags : (Except.ok (Answer.truth false) : Except Fault Answer) =
            .ok (.truth right.blob.released) := needs right.reopened.blob
        rw [outlasts.released] at flags
        cases flags
    | _ => rfl
  exact outlasts.same_answer (.answer grown known environment own keeps)
    (.answer (Comparison.lawful_release made) grown known environment own keeps plain) needs

/-! ## Answers that are views -/

namespace Request

/-- Whether a request is answered by a view. -/
def answersView {target : Type} : Request target → Bool
  | .findPartition .. => true
  | .requirePartition .. => true
  | .partition _ => true
  | .declarationsOf _ => true
  | .slice .. => true
  | _ => false

theorem byteless_of_answersView
    {request : Request Target}
    (answersView : request.answersView)
    (registry : Registry)
    (container : Container) :
    request.Byteless registry container := by
  cases request with
  | findPartition target name => trivial
  | requirePartition target name => trivial
  | partition target => trivial
  | declarationsOf range => trivial
  | slice view range => trivial
  | _ => contradiction

end Request

namespace Query

variable {α : Type}

/-- A query is never answered by a view. -/
def NeverView (query : Query Answer) : Prop :=
  ∀ container view, (query.on container).1 ≠ .ok (.view view)

namespace NeverView

theorem pure
    {answer : Answer}
    (apart : ∀ view, answer ≠ .view view) :
    NeverView (Pure.pure answer) :=
  fun _ view same => apart view (Except.ok.inj same)

theorem bind
    {first : Query α}
    {next : α → Query Answer}
    (never : ∀ value, NeverView (next value)) :
    NeverView (first >>= next) := by
  intro container view
  rw [on_bind]
  generalize first.on container = ran
  obtain ⟨outcome, after⟩ := ran
  cases outcome with
  | error fault => exact fun same => by contradiction
  | ok value => exact never value after view

end NeverView

open NeverView in
theorem neverView_answer
    {registry : Registry}
    {environment : Option Environment}
    {request : Request Target}
    (apart : request.answersView = false) :
    NeverView (request.answer registry environment) := by
  have text : ∀ text : Option String, ∀ view, Answer.optionalText text ≠ .view view := by
    intro text view same
    cases text <;> cases same
  cases request with
  | findPartition target name => contradiction
  | requirePartition target name => contradiction
  | partition target => contradiction
  | declarationsOf range => contradiction
  | slice view range => contradiction
  | summary name =>
      refine bind fun container => ?_
      cases container.summary? name with
      | none => exact pure fun _ same => by cases same
      | some summary => exact pure fun _ same => by cases same
  | optionalString offset => exact bind fun _ => bind fun found => pure (text found)
  | unitName => exact bind fun found => pure (text found)
  | deprecationText declaration => exact bind fun found => pure (text found)
  | string offset => exact bind fun _ => bind fun _ => pure fun _ same => by cases same
  | importVia index => exact bind fun _ => bind fun _ => pure fun _ same => by cases same
  | kindOf declaration => exact bind fun _ => bind fun _ => pure fun _ same => by cases same
  | tupleElements key =>
      exact bind fun _ => bind fun _ => bind fun _ => bind fun _ =>
        pure fun _ same => by cases same
  | qualifiedNameParts key =>
      exact bind fun _ => bind fun _ => bind fun _ => bind fun _ =>
        pure fun _ same => by cases same
  | _ => exact bind fun _ => pure fun _ same => by cases same

end Query
end ModuleInterface

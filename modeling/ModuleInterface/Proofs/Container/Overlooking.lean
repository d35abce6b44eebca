import Mathlib
import ModuleInterface.Container.Request
import ModuleInterface.Proofs.Container.Navigation
import ModuleInterface.Proofs.Container.Resealing

/-!
# What overlooks the recorded checksum

The checksum that a header records is looked at by two requests only. Every other request
is answered in the same way by a container over the same bytes with another checksum
(`Query.Overlooks.answer`), since what it reads starts in the string table or in a
partition. Views that a container answers start in a partition, so that what is asked of
them later overlooks the difference as well.
-/

namespace ModuleInterface

open Acceptance

/-- A view starts after the recorded checksum. -/
def View.Clear (view : View) : Prop :=
  36 ≤ view.base

/-! ## Queries -/

namespace Query

variable {α β : Type} {data altered : List UInt8} {promise : α → Prop} {next : β → Prop}

/-- A query of a container is answered in the same way over other bytes, and leaves the same
container over these, apart from its journal. It promises something of its value. -/
def Overlooks (data altered : List UInt8) (promise : α → Prop) (query : Query α) : Prop :=
  ∀ (container : Container) (journal : List Event), container.Based data →
    (∃ later, query.on (container.rebased altered journal) =
      ((query.on container).1, (query.on container).2.rebased altered later)) ∧
    (query.on container).2.Based data ∧
    ∀ value, (query.on container).1 = .ok value → promise value

/-- Nothing is promised. -/
def Anything : α → Prop := fun _ => True

namespace Overlooks

/-! ### Queries that are put together -/

theorem ofOutcome
    {outcome : Except Fault α}
    (kept : ∀ value, outcome = .ok value → promise value) :
    Overlooks data altered promise (ofExcept outcome) := by
  intro container journal based
  rw [on_ofExcept, on_ofExcept]
  exact ⟨⟨journal, rfl⟩, based, kept⟩

theorem plain
    (outcome : Except Fault α) :
    Overlooks data altered Anything (ofExcept outcome) :=
  ofOutcome fun _ _ => trivial

theorem pure
    {value : α}
    (kept : promise value) :
    Overlooks data altered promise (Pure.pure value) :=
  fun _ journal based => ⟨⟨journal, rfl⟩, based, fun _ answered => by cases answered; exact kept⟩

theorem throw
    (fault : Fault) :
    Overlooks data altered promise (MonadExcept.throw fault) :=
  fun _ journal based => ⟨⟨journal, rfl⟩, based, fun _ answered => by contradiction⟩

theorem bind
    {first : Query α}
    {rest : α → Query β}
    (overlooksFirst : Overlooks data altered promise first)
    (overlooksRest : ∀ value, promise value → Overlooks data altered next (rest value)) :
    Overlooks data altered next (first >>= rest) := by
  intro container journal based
  obtain ⟨⟨between, same⟩, basedAfter, promised⟩ := overlooksFirst container journal based
  rw [on_bind, on_bind, same]
  generalize first.on container = ran at basedAfter promised
  obtain ⟨outcome, after⟩ := ran
  cases outcome with
  | error fault => exact ⟨⟨between, rfl⟩, basedAfter, fun _ answered => by contradiction⟩
  | ok value => exact overlooksRest value (promised value rfl) after between basedAfter

/-- A query may look at what is the same over the other bytes. -/
theorem read
    {rest : Container → Query α}
    (same : ∀ (container : Container) journal, container.Based data →
      rest (container.rebased altered journal) = rest container)
    (overlooks : ∀ container, container.Based data → Overlooks data altered promise (rest container)) :
    Overlooks data altered promise (get >>= rest) := by
  intro container journal based
  rw [on_get_bind, on_get_bind, same container journal based]
  exact overlooks container based container journal based

theorem choice
    {condition : Prop}
    [Decidable condition]
    {yes no : Query α}
    (overlooksYes : Overlooks data altered promise yes)
    (overlooksNo : Overlooks data altered promise no) :
    Overlooks data altered promise (if condition then yes else no) := by
  split
  · exact overlooksYes
  · exact overlooksNo

/-- A choice that a part of a value makes. -/
theorem given
    {outcome : Except Fault Bool}
    {yes no : Query α}
    (overlooksYes : Overlooks data altered promise yes)
    (overlooksNo : Overlooks data altered promise no) :
    Overlooks data altered promise (do if ← ofExcept outcome then yes else no) :=
  (plain outcome).bind fun _ _ => choice overlooksYes overlooksNo

theorem record
    (event : Event) :
    Overlooks data altered Anything (Query.record event) :=
  fun _ journal based =>
    ⟨⟨journal ++ [event], rfl⟩, ⟨based.bytes, based.header, based.contents, based.locations⟩,
      fun _ _ => trivial⟩

/-- What is remembered changes in the same way, unless it is about partitions. -/
theorem change
    {update : Container → Container}
    (same : ∀ (container : Container) journal,
      update (container.rebased altered journal) = (update container).rebased altered journal)
    (based : ∀ container : Container, container.Based data → (update container).Based data) :
    Overlooks data altered Anything (modify update : Query Unit) :=
  fun container journal basedBefore =>
    ⟨⟨journal, congrArg (Prod.mk (Except.ok ())) (same container journal)⟩,
      based container basedBefore, fun _ _ => trivial⟩

/-! ### Partitions -/

theorem remember
    {view : View}
    (clear : view.Clear) :
    Overlooks data altered Anything (Query.remember view) := by
  refine (change (fun _ _ => rfl) fun container based => ?_).bind fun _ _ => record _
  refine ⟨based.bytes, based.header, based.contents, fun slot location found => ?_⟩
  rw [Container.located?, Bindings.find?_bind] at found
  split at found
  · cases found
    exact clear
  · exact based.locations slot location found

/-- A partition that is found starts where its entry says. -/
theorem clear_of_findPartition
    {container : Container}
    (based : container.Based data)
    {spec : PartitionSpec}
    {name : String}
    {found : Option View}
    (located : container.findPartition spec name = .ok found) :
    ∀ view, found = some view → view.Clear := by
  unfold Container.findPartition Container.viewOf at located
  cases listed : container.summary? name with
  | none =>
      rw [listed] at located
      cases located
      exact fun _ absent => by contradiction
  | some summary =>
      rw [listed] at located
      obtain ⟨view, sized, final⟩ := Fallible.bind_eq_ok.mp located
      cases final
      split at sized
      · cases sized
        rintro _ ⟨⟩
        exact based.contents name summary listed
      · contradiction

theorem clear_of_requirePartition
    {container : Container}
    (based : container.Based data)
    {spec : PartitionSpec}
    {name : String}
    {view : View}
    (located : container.requirePartition spec name = .ok view) :
    view.Clear :=
  clear_of_findPartition based (Container.findPartition_of_requirePartition located) view rfl

theorem findPartition
    (target : Target)
    (name : Option String) :
    Overlooks data altered (fun found => ∀ view, found = some view → view.Clear)
      (Query.findPartition target name) :=
  (plain _).bind fun _ _ => read (fun _ _ _ => rfl) fun _ based =>
    ofOutcome fun _ => clear_of_findPartition based

theorem requirePartition
    (target : Target)
    (name : Option String) :
    Overlooks data altered View.Clear (Query.requirePartition target name) :=
  (plain _).bind fun _ _ => read (fun _ _ _ => rfl) fun _ based =>
    ofOutcome fun _ => clear_of_requirePartition based

theorem partition
    (spec : PartitionSpec) :
    Overlooks data altered View.Clear (Query.partition spec) := by
  refine read (fun _ _ _ => rfl) fun container based => ?_
  cases located : container.located? spec.slot with
  | some location => exact pure (based.locations _ _ located)
  | none =>
      refine (read (fun _ _ _ => rfl) fun _ based => ?_ :
        Overlooks data altered View.Clear _).bind fun _ clear =>
          (remember clear).bind fun _ _ => pure clear
      exact ofOutcome fun _ => clear_of_requirePartition based

/-- A slice of a view starts in the view. -/
theorem sliceOf
    {view : View}
    (clear : view.Clear)
    (range : Value) :
    Overlooks data altered View.Clear (ofExcept (view.sliceOf range)) := by
  refine ofOutcome fun part sliced => ?_
  obtain ⟨start, _, sliced⟩ := Fallible.bind_eq_ok.mp sliced
  obtain ⟨cardinality, _, sliced⟩ := Fallible.bind_eq_ok.mp sliced
  simp only [View.slice] at sliced
  split at sliced
  · contradiction
  · cases sliced
    exact clear.trans (Nat.le_add_right _ _)

/-! ### Reading bytes -/

section Reading

variable (resealed : Resealed data altered)

include resealed

theorem entry
    {view : View}
    (clear : view.Clear)
    (position : Nat) :
    Overlooks data altered Anything (do ofExcept (view.read (← get).blob position)) :=
  read (fun _ _ based => congrArg ofExcept (resealed.read_eq based.bytes clear position))
    fun _ _ => plain _

theorem element
    {view : View}
    (clear : view.Clear)
    (key : Value) :
    Overlooks data altered Anything (Query.element view key) :=
  read (fun _ _ based => congrArg ofExcept (resealed.get_eq based.bytes clear key))
    fun _ _ => plain _

theorem elements
    {view : View}
    (clear : view.Clear) :
    Overlooks data altered Anything (Query.elements view) :=
  read (fun _ _ based => congrArg ofExcept (resealed.list_eq based.bytes clear))
    fun _ _ => plain _

/-- An element of a partition. -/
theorem access
    (spec : PartitionSpec)
    (key : Value)
    {rest : Value → Query α}
    (overlooks : ∀ value, Overlooks data altered promise (rest value)) :
    Overlooks data altered promise
      (Query.partition spec >>= fun view => Query.element view key >>= rest) :=
  (partition spec).bind fun _ clear => (element resealed clear key).bind fun value _ =>
    overlooks value

theorem computeDigest
    (digest : List UInt8 → List UInt8) :
    Overlooks data altered Anything (Query.computeDigest digest) := by
  intro container journal based
  rw [on_computeDigest, on_computeDigest]
  exact ⟨⟨journal, congrArg (Prod.mk · _) (resealed.digest_eq based.bytes digest)⟩, based,
    fun _ _ => trivial⟩

/-! ### Texts -/

section Texts

variable (table : 36 ≤ tableStart data)

include table

theorem stringAt
    (offset : Int) :
    Overlooks data altered Anything (Query.stringAt offset) := by
  refine read (fun container _ based => ?_) fun _ _ => plain _
  have text := resealed.tableText_eq based.bytes table offset
  rw [← based.header] at text
  exact congrArg ofExcept text

theorem optionalStringAt
    (offset : Int) :
    Overlooks data altered Anything (Query.optionalStringAt offset) :=
  choice (pure trivial) ((stringAt resealed table offset).bind fun _ _ => pure trivial)

theorem unitName : Overlooks data altered Anything Query.unitName := by
  refine read (fun container journal based => ?_) fun _ _ => optionalStringAt resealed table _
  have unit := congrArg Header.unit (based.header_eq resealed journal)
  rw [unit]

theorem textOf
    (offset : Value) :
    Overlooks data altered Anything (Query.textOf offset) :=
  (plain _).bind fun number _ => stringAt resealed table number

theorem moduleName
    (reference : Value) :
    Overlooks data altered Anything (Query.moduleName reference) := by
  refine (plain _).bind fun owner _ => given ?_ ?_
  · exact (plain _).bind fun _ _ => textOf resealed table _
  · refine (textOf resealed table owner).bind fun _ _ => (plain _).bind fun partition _ => ?_
    exact given (pure trivial)
      ((textOf resealed table partition).bind fun _ _ => pure trivial)

theorem importedModule
    (environment : Option Environment)
    (reference : Value) :
    Overlooks data altered Anything (Query.importedModule environment reference) := by
  cases environment with
  | none => exact throw _
  | some environment =>
      exact (moduleName resealed table reference).bind fun _ _ =>
        (record _).bind fun _ _ => plain _

theorem importedUnit
    (environment : Option Environment)
    (value : Value) :
    Overlooks data altered Anything (Query.importedUnit environment value) :=
  (plain _).bind fun _ _ => importedModule resealed table _ _

end Texts

/-! ### Traits -/

theorem records
    (spec : PartitionSpec) :
    Overlooks data altered Anything (Query.records spec) := by
  refine read (fun _ _ _ => rfl) fun container based => ?_
  refine (ofOutcome fun _ => clear_of_findPartition based :
    Overlooks data altered (fun found => ∀ view, found = some view → view.Clear) _).bind ?_
  intro found clear
  cases found with
  | none => exact pure trivial
  | some view => exact elements resealed (clear view rfl)

theorem allRecords
    (specs : List PartitionSpec) :
    Overlooks data altered Anything (Query.allRecords specs) := by
  induction specs with
  | nil => exact pure trivial
  | cons spec rest inductionHypothesis =>
      exact (records resealed spec).bind fun _ _ => inductionHypothesis.bind fun _ _ =>
        pure trivial

theorem attributeTable : Overlooks data altered Anything Query.attributeTable := by
  refine read (fun _ _ _ => rfl) fun container _ => ?_
  cases container.attributes with
  | some table => exact pure trivial
  | none =>
      refine (allRecords resealed _).bind fun _ _ => (record _).bind fun _ _ => ?_
      refine (change (fun _ _ => rfl) fun _ based => ?_).bind fun _ _ => pure trivial
      exact ⟨based.bytes, based.header, based.contents, based.locations⟩

theorem traitTable
    (kind : SingleTrait) :
    Overlooks data altered Anything (Query.traitTable kind) := by
  refine read (fun _ _ _ => rfl) fun container _ => ?_
  cases container.traits.find? kind with
  | some table => exact pure trivial
  | none =>
      refine (records resealed _).bind fun _ _ => (record _).bind fun _ _ => ?_
      refine (change (fun _ _ => rfl) fun _ based => ?_).bind fun _ _ => pure trivial
      exact ⟨based.bytes, based.header, based.contents, based.locations⟩

theorem attributesOf
    (declaration : Value) :
    Overlooks data altered Anything (Query.attributesOf declaration) :=
  (attributeTable resealed).bind fun _ _ => (plain _).bind fun _ _ => pure trivial

theorem traitOf
    (kind : SingleTrait)
    (declaration : Value) :
    Overlooks data altered Anything (Query.traitOf kind declaration) :=
  (traitTable resealed kind).bind fun _ _ => (plain _).bind fun _ _ => pure trivial

theorem deprecationText
    (table : 36 ≤ tableStart data)
    (declaration : Value) :
    Overlooks data altered Anything (Query.deprecationText declaration) :=
  (traitOf resealed .deprecation declaration).bind fun _ _ =>
    (plain _).bind fun _ _ => optionalStringAt resealed table _

/-! ### Walking between partitions -/

theorem isPrimaryUnit : Overlooks data altered Anything Query.isPrimaryUnit := by
  refine read (fun container journal based => ?_) fun _ _ => pure trivial
  have unit := congrArg Header.unit (based.header_eq resealed journal)
  rw [unit]

theorem globalScope : Overlooks data altered Anything Query.globalScope := by
  refine (partition _).bind fun view clear => ?_
  refine read (fun container journal based => ?_) fun _ _ => element resealed clear _
  have scope := congrArg Header.globalScope (based.header_eq resealed journal)
  rw [scope]

theorem scopeOf
    (declaration : Value) :
    Overlooks data altered Anything (Query.scopeOf declaration) :=
  (partition _).bind fun _ clear => element resealed clear _

theorem kindOf
    (scope : Value) :
    Overlooks data altered Anything (Query.kindOf scope) :=
  access resealed _ _ fun _ => pure trivial

omit resealed in
theorem declarationsOf
    (range : Value) :
    Overlooks data altered View.Clear (Query.declarationsOf range) :=
  (partition _).bind fun _ clear => sliceOf clear range

theorem membersOf
    (scope : Value) :
    Overlooks data altered Anything (Query.membersOf scope) := by
  refine given (pure trivial) (access resealed _ _ fun _ => ?_)
  exact (declarationsOf _).bind fun _ clear => (elements resealed clear).bind fun _ _ =>
    pure trivial

omit resealed in
theorem tupleElements
    (tuple : Value) :
    Overlooks data altered View.Clear (Query.tupleElements tuple) :=
  (partition _).bind fun _ clear => sliceOf clear _

theorem qualifiedNameParts
    (qualifiedName : Value) :
    Overlooks data altered View.Clear (Query.qualifiedNameParts qualifiedName) := by
  unfold Query.qualifiedNameParts
  split
  · exact choice (access resealed _ _ fun _ => tupleElements _) (throw _)
  · exact throw _

/-! ### Resolving indices -/

theorem resolveIndex
    (registry : Registry)
    (index : TaggedIndex) :
    Overlooks data altered Anything (Query.resolveIndex registry index) := by
  refine choice (pure trivial) ?_
  cases registry.forIndex? index with
  | none => exact throw _
  | some spec => exact (partition spec).bind fun _ clear => element resealed clear _

theorem resolve
    (registry : Registry)
    (value : Value) :
    Overlooks data altered Anything (Query.resolve registry value) := by
  unfold Query.resolve
  split
  · exact resolveIndex resealed registry _
  · exact given (pure trivial) ((plain _).bind fun _ _ => throw _)

theorem resolveEntries
    (registry : Registry)
    {view : View}
    (clear : view.Clear)
    (count position : Nat) :
    Overlooks data altered Anything (Query.resolveEntries registry view count position) := by
  induction count generalizing position with
  | zero => exact pure trivial
  | succ remaining inductionHypothesis =>
      have split : Query.resolveEntries registry view (remaining + 1) position =
          ((do ofExcept (view.read (← get).blob position)) >>= fun entry =>
            Query.resolve registry entry >>= fun record =>
              Query.resolveEntries registry view remaining (position + 1) >>= fun rest =>
                Pure.pure (record :: rest)) := by
        rw [Query.resolveEntries, bind_assoc]
      rw [split]
      exact (entry resealed clear position).bind fun entry _ =>
        (resolve resealed registry entry).bind fun _ _ =>
          (inductionHypothesis (position + 1)).bind fun _ _ => pure trivial

theorem resolveHeap
    (registry : Registry)
    (heap : Target)
    (range : Value) :
    Overlooks data altered Anything (Query.resolveHeap registry heap range) := by
  refine given (pure trivial) ((plain _).bind fun spec _ => (partition spec).bind ?_)
  intro _ clear
  exact (sliceOf clear range).bind fun _ clear => resolveEntries resealed registry clear _ _

end Reading

/-! ### Lifetime -/

theorem close : Overlooks data altered Anything Query.close :=
  change (fun _ _ => rfl) fun _ based =>
    ⟨based.bytes, based.header, based.contents, based.locations⟩

/-- A table of contents that is forgotten names no partition. -/
theorem clearContents : Overlooks data altered Anything Query.clearContents :=
  change (fun _ _ => rfl) fun _ based =>
    ⟨based.bytes, based.header, fun _ _ found => by contradiction, based.locations⟩

end Overlooks
end Query

/-! ## Requests -/

namespace Request

variable {target : Type}

/-- A request is to no view that starts before the end of the recorded checksum. -/
def Clear (request : Request target) : Prop :=
  ∀ view, request.view? = some view → view.Clear

/-- Whether a request asks for the recorded checksum. -/
def asksChecksum : Request target → Bool
  | .header => true
  | .verifyChecksum => true
  | _ => false

end Request

/-- A view that is answered starts after the recorded checksum. -/
def Answer.Clear : Answer → Prop
  | .view part => part.Clear
  | _ => True

theorem Answer.clear_optionalText
    (text? : Option String) :
    (optionalText text?).Clear := by
  cases text? <;> trivial

/-- Every request overlooks the recorded checksum unless it asks for it. -/
theorem Query.Overlooks.answer
    {data altered : List UInt8}
    (resealed : Resealed data altered)
    (table : 36 ≤ tableStart data)
    (registry : Registry)
    (environment : Option Environment)
    {request : Request Target}
    (clear : request.Clear)
    (quiet : request.asksChecksum = false) :
    Overlooks data altered Answer.Clear (request.answer registry environment) := by
  cases request with
  | header => contradiction
  | contents => exact read (fun _ _ _ => rfl) fun _ _ => pure trivial
  | summary name =>
      refine read (fun _ _ _ => rfl) fun container _ => ?_
      cases container.summary? name with
      | none => exact pure trivial
      | some summary => exact pure trivial
  | render =>
      refine read (fun container journal based => ?_) fun _ _ => pure trivial
      rw [based.render_rebased resealed]
  | released => exact read (fun _ _ _ => rfl) fun _ _ => pure trivial
  | string offset =>
      exact (plain _).bind fun _ _ => (stringAt resealed table _).bind fun _ _ => pure trivial
  | optionalString offset =>
      exact (plain _).bind fun _ _ => (optionalStringAt resealed table _).bind fun _ _ =>
        pure (Answer.clear_optionalText _)
  | findPartition target name =>
      refine (findPartition target name).bind fun found clear => ?_
      cases found with
      | none => exact pure trivial
      | some view => exact pure (clear view rfl)
  | requirePartition target name =>
      exact (requirePartition target name).bind fun _ clear => pure clear
  | partition target =>
      exact (plain _).bind fun _ _ => (partition _).bind fun _ clear => pure clear
  | globalScope => exact (globalScope resealed).bind fun _ _ => pure trivial
  | unitName =>
      exact (unitName resealed table).bind fun _ _ => pure (Answer.clear_optionalText _)
  | isPrimaryUnit => exact (isPrimaryUnit resealed).bind fun _ _ => pure trivial
  | computeChecksum =>
      exact (computeDigest resealed Sha256.digest).bind fun _ _ => pure trivial
  | verifyChecksum => contradiction
  | close => exact close.bind fun _ _ => pure trivial
  | closeAfterUse => exact close.bind fun _ _ => pure trivial
  | clearContents => exact clearContents.bind fun _ _ => pure trivial
  | resolve index => exact (resolve resealed registry index).bind fun _ _ => pure trivial
  | resolveHeap heap range =>
      exact (resolveHeap resealed registry heap range).bind fun _ _ => pure trivial
  | attributesOf declaration =>
      exact (attributesOf resealed declaration).bind fun _ _ => pure trivial
  | traitOf kind declaration =>
      exact (traitOf resealed kind declaration).bind fun _ _ => pure trivial
  | deprecationText declaration =>
      exact (deprecationText resealed table declaration).bind fun _ _ =>
        pure (Answer.clear_optionalText _)
  | importedModule reference =>
      exact (importedModule resealed table environment reference).bind fun _ _ => pure trivial
  | importVia index =>
      exact (resolve resealed registry index).bind fun _ _ =>
        (importedUnit resealed table environment _).bind fun _ _ => pure trivial
  | scopeOf declaration => exact (scopeOf resealed declaration).bind fun _ _ => pure trivial
  | kindOf declaration =>
      exact (scopeOf resealed declaration).bind fun _ _ => (kindOf resealed _).bind fun _ _ =>
        pure trivial
  | declarationsOf range => exact (declarationsOf range).bind fun _ clear => pure clear
  | membersOf scope => exact (membersOf resealed scope).bind fun _ _ => pure trivial
  | tupleElements key =>
      exact access resealed _ _ fun _ => (tupleElements _).bind fun _ clear =>
        (elements resealed clear).bind fun _ _ => pure trivial
  | qualifiedNameParts key =>
      exact access resealed _ _ fun _ => (qualifiedNameParts resealed _).bind fun _ clear =>
        (elements resealed clear).bind fun _ _ => pure trivial
  | element view key =>
      exact (element resealed (clear view rfl) key).bind fun _ _ => pure trivial
  | elements view => exact (elements resealed (clear view rfl)).bind fun _ _ => pure trivial
  | slice view range => exact (sliceOf (clear view rfl) range).bind fun _ clear => pure clear

/-! ## Comparing checksums -/

namespace Container.Based

variable {container : Container} {data altered : List UInt8} (based : container.Based data)

include based

/-- Over other bytes a container has these and their header. -/
theorem rebased
    (altered : List UInt8)
    (journal : List Event) :
    (container.rebased altered journal).Based altered :=
  ⟨rfl, rfl, based.contents, based.locations⟩

theorem access_eq :
    container.blob.access =
      if container.blob.released then .error .released else .ok data.toArray := by
  rw [Blob.access, based.bytes]

/-- The checksum is compared with the digest of what follows it, as long as the bytes are
not released. -/
theorem outcome_verifyDigest
    (digest : List UInt8 → List UInt8) :
    ((Query.verifyDigest digest).on container).1 =
      if container.blob.released then .error .released
      else .ok (digest (data.drop 36) == (storedHeader data).checksum) := by
  rw [Query.on_verifyDigest, based.access_eq, based.header]
  cases container.blob.released with
  | true => rfl
  | false =>
      have content : Bytes.tail data.toArray 36 = data.drop 36 := Bytes.tail_eq _ _
      rw [← content]
      rfl

/-- Unless the bytes are released, a container is refused just when its checksum is not the
digest of what follows it. -/
theorem outcome_requireDigest
    (available : container.blob.released = false)
    (digest : List UInt8 → List UInt8)
    (path : String) :
    ((Query.requireDigest digest path).on container).1 =
      if digest (data.drop 36) = (storedHeader data).checksum then .ok ()
      else .error (.checksumDisagrees path (storedHeader data).checksum
        (digest (data.drop 36))) := by
  have access : container.blob.access = .ok data.toArray := by
    rw [based.access_eq, available]
    rfl
  have content : Bytes.tail data.toArray Dimensions.checksumStart = data.drop 36 :=
    Bytes.tail_eq _ _
  rw [Query.requireDigest, Query.on_bind, Query.on_verifyDigest, access, based.header]
  simp only [content]
  split
  next agrees =>
    rw [if_pos (beq_iff_eq.mp agrees)]
    rfl
  next differs =>
    rw [if_neg (mt beq_iff_eq.mpr differs), Query.on_get_bind, Query.on_bind,
      Query.on_computeDigest, access]
    simp only [Except.map, content]
    rfl

/-- A request for the checksum leaves the same container over other bytes, apart from its
journal. -/
theorem exists_rebased_of_asksChecksum
    (altered : List UInt8)
    {request : Request Target}
    (asks : request.asksChecksum)
    (registry : Registry)
    (environment : Option Environment)
    (journal : List Event) :
    (∃ later, ((request.answer registry environment).on
        (container.rebased altered journal)).2 =
      ((request.answer registry environment).on container).2.rebased altered later) ∧
    ((request.answer registry environment).on container).2.Based data := by
  cases request with
  | header => exact ⟨⟨journal, rfl⟩, based⟩
  | verifyChecksum =>
      have answer : (Request.verifyChecksum : Request Target).answer registry environment =
          Query.verifyDigest Sha256.digest >>= fun agrees => Pure.pure (.truth agrees) := rfl
      have released : (container.rebased altered journal).blob.released =
          container.blob.released := rfl
      simp only [answer, bind_pure_comp, Query.on_map, Query.on_verifyDigest,
        based.access_eq, (based.rebased altered journal).access_eq, released]
      cases container.blob.released with
      | true => exact ⟨⟨journal, rfl⟩, based⟩
      | false =>
          exact ⟨⟨_, rfl⟩, based.bytes, based.header, based.contents, based.locations⟩
  | _ => contradiction

end Container.Based
end ModuleInterface

import Mathlib
import ModuleInterface.Container.Import
import ModuleInterface.Container.Integrity
import ModuleInterface.Container.Navigate
import ModuleInterface.Proofs.Container.Running

/-!
# Queries that only read

A query that only reads leaves a container as it is, and does not look at what the
container remembers. On a closed container it is answered as on the open one, unless it
needs the bytes: these are released (`Query.Reads`). Every check of a key, a range or an
offset comes before the bytes are used, so a refusal is the same on both. Whatever is put
together from queries that only read only reads.
-/

namespace ModuleInterface

/-! ## Bytes that are released -/

namespace View

/-- A position is refused before the bytes are used. -/
theorem readInside_release
    (view : View)
    (blob : Blob)
    (position : Except Fault Int) :
    (do
      let position ← position
      if 0 ≤ position ∧ position < view.count then view.read blob.release position.toNat
      else .error (.positionOutside position view.name view.count) : Except Fault Value) =
      (do
        let position ← position
        if 0 ≤ position ∧ position < view.count then view.read blob position.toNat
        else .error (.positionOutside position view.name view.count)) ∨
    (do
      let position ← position
      if 0 ≤ position ∧ position < view.count then view.read blob.release position.toNat
      else .error (.positionOutside position view.name view.count) : Except Fault Value) =
      .error .released := by
  cases position with
  | error fault => exact .inl rfl
  | ok position =>
      by_cases inside : 0 ≤ position ∧ position < view.count
      · exact .inr (if_pos inside)
      · exact .inl ((if_neg inside).trans (if_neg inside).symm)

theorem getFloating_release
    (view : View)
    (blob : Blob)
    (key : FloatingIndex) :
    view.getFloating blob.release key = view.getFloating blob key ∨
      view.getFloating blob.release key = .error .released := by
  rw [getFloating, getFloating]
  cases view.requireSort key.sort key.render with
  | error fault => exact .inl rfl
  | ok sorted =>
      by_cases below : Binary64.isBelow key.position view.count
      · exact .inr (if_pos below)
      · exact .inl ((if_neg below).trans (if_neg below).symm)

/-- A key is refused before the bytes are used. -/
theorem get_release
    (view : View)
    (blob : Blob)
    (key : Value) :
    view.get blob.release key = view.get blob key ∨
      view.get blob.release key = .error .released := by
  cases key with
  | floating index =>
      rw [get, get]
      by_cases kind : view.spec.indexKind.includes index.kind
      · rw [if_pos kind, if_pos kind]
        exact view.getFloating_release blob index
      · rw [if_neg kind, if_neg kind]
        exact .inl rfl
  | _ => exact view.readInside_release blob (view.position _)

/-- An empty view is listed without its bytes. -/
theorem list_release
    (view : View)
    (blob : Blob) :
    view.list blob.release = view.list blob ∨ view.list blob.release = .error .released := by
  rw [list, list]
  cases view.count with
  | zero => exact .inl rfl
  | succ remaining => exact .inr rfl

end View

namespace Container

theorem tableText_release
    (header : Header)
    (blob : Blob)
    (offset : Int) :
    tableText header blob.release offset = tableText header blob offset ∨
      tableText header blob.release offset = .error .released := by
  unfold tableText
  split
  · exact .inl rfl
  · split
    · exact .inr rfl
    · exact .inl rfl

/-- A container with the same tables that remembers nothing and has done nothing. -/
def bare (container : Container) : Container :=
  { container with locations := [], attributes := none, traits := [], journal := [] }

@[simp] theorem bare_bare
    (container : Container) :
    container.bare.bare = container.bare := rfl

/-- A container once it is closed. -/
def closed (container : Container) : Container :=
  { container with blob := container.blob.release }

end Container

namespace Query

variable {α β : Type}

/-- A query leaves every container as it is, does not look at what is remembered, and is
answered by a closed container as by an open one, unless it needs the bytes. -/
structure Reads (query : Query α) : Prop where
  still : ∀ container, (query.on container).2 = container
  forgetful : ∀ container : Container, (query.on container.bare).1 = (query.on container).1
  released : ∀ container : Container,
    (query.on container.closed).1 = (query.on container).1 ∨
      (query.on container.closed).1 = .error .released

/-- A text is read from the string table. -/
theorem outcome_stringAt
    (offset : Int)
    (container : Container) :
    ((stringAt offset).on container).1 =
      Container.tableText container.header container.blob offset := by
  rw [stringAt, on_get_bind, on_ofExcept]

/-- There is no text at the null offset, and at all others the text is there that is read. -/
theorem outcome_optionalStringAt
    (offset : Int)
    (container : Container) :
    ((optionalStringAt offset).on container).1 =
      if offset = 0 then .ok none else ((stringAt offset).on container).1.map some := by
  unfold optionalStringAt
  split
  next => rfl
  next =>
    rw [on_bind]
    cases (stringAt offset).on container with
    | mk outcome after => cases outcome <;> rfl

end Query

namespace Container

/-- Two containers answer with the same texts at all offsets. -/
structure SharesTexts (left right : Container) : Prop where
  strings : ∀ offset,
    ((Query.stringAt offset).on left).1 = ((Query.stringAt offset).on right).1
  optionalStrings : ∀ offset,
    ((Query.optionalStringAt offset).on left).1 = ((Query.optionalStringAt offset).on right).1

/-- What may be absent is the same where the texts are. -/
theorem sharesTexts_of_strings
    {left right : Container}
    (strings : ∀ offset,
      ((Query.stringAt offset).on left).1 = ((Query.stringAt offset).on right).1) :
    SharesTexts left right := by
  refine ⟨strings, ?_⟩
  intro offset
  rw [Query.outcome_optionalStringAt, Query.outcome_optionalStringAt, strings]

end Container

namespace Query

variable {α β : Type}

namespace Reads

/-! ## Putting queries together -/

theorem ofOutcome
    (outcome : Except Fault α) :
    Reads (ofExcept outcome : Query α) := by
  refine ⟨fun container => ?_, fun container => ?_, fun container => .inl ?_⟩
  · rw [on_ofExcept]
  · rw [on_ofExcept, on_ofExcept]
  · rw [on_ofExcept, on_ofExcept]

theorem pure
    (value : α) :
    Reads (Pure.pure value : Query α) :=
  ofOutcome (.ok value)

theorem throw
    (fault : Fault) :
    Reads (MonadExcept.throw fault : Query α) :=
  ofOutcome (.error fault)

/-- A query may look at the tables of a container. -/
theorem read
    {next : Container → Query α}
    (bare : ∀ container : Container, next container.bare = next container)
    (closed : ∀ container : Container, next container.closed = next container)
    (reads : ∀ container, Reads (next container)) :
    Reads (get >>= next) := by
  refine ⟨fun container => (reads container).still container, fun container => ?_,
    fun container => ?_⟩
  · rw [on_get_bind, on_get_bind, bare]
    exact (reads container).forgetful container
  · rw [on_get_bind, on_get_bind, closed]
    exact (reads container).released container

/-- A query may use the bytes of a container. -/
theorem bytes
    {answer : Container → Except Fault α}
    (bare : ∀ container : Container, answer container.bare = answer container)
    (released : ∀ container : Container, answer container.closed = answer container ∨
      answer container.closed = .error .released) :
    Reads (get >>= fun container => ofExcept (answer container)) := by
  refine ⟨fun container => ?_, fun container => ?_, fun container => ?_⟩
  · rw [on_get_bind, on_ofExcept]
  · rw [on_get_bind, on_get_bind, on_ofExcept, on_ofExcept]
    exact bare container
  · rw [on_get_bind, on_get_bind, on_ofExcept, on_ofExcept]
    exact released container

/-- What follows a query that only reads runs on the same container. -/
theorem on_bind
    {first : Query α}
    (reads : Reads first)
    (next : α → Query β)
    (container : Container) :
    (first >>= next).on container =
      match (first.on container).1 with
      | .ok value => (next value).on container
      | .error fault => (.error fault, container) := by
  have kept := reads.still container
  rw [Query.on_bind]
  generalize first.on container = ran at kept
  obtain ⟨outcome, after⟩ := ran
  obtain rfl : after = container := kept
  cases outcome <;> rfl

theorem bind
    {first : Query α}
    {next : α → Query β}
    (readsFirst : Reads first)
    (readsNext : ∀ value, Reads (next value)) :
    Reads (first >>= next) := by
  refine ⟨fun container => ?_, fun container => ?_, fun container => ?_⟩
  · rw [readsFirst.on_bind]
    cases (first.on container).1 with
    | error fault => rfl
    | ok value => exact (readsNext value).still container
  · rw [readsFirst.on_bind, readsFirst.on_bind, readsFirst.forgetful]
    cases (first.on container).1 with
    | error fault => rfl
    | ok value => exact (readsNext value).forgetful container
  · rw [readsFirst.on_bind, readsFirst.on_bind]
    obtain same | released := readsFirst.released container
    · rw [same]
      cases (first.on container).1 with
      | error fault => exact .inl rfl
      | ok value => exact (readsNext value).released container
    · rw [released]
      exact .inr rfl

theorem map
    {query : Query α}
    (reads : Reads query)
    (change : α → β) :
    Reads (change <$> query) := by
  rw [map_eq_pure_bind]
  exact reads.bind fun _ => pure _

theorem choice
    {condition : Prop}
    [Decidable condition]
    {yes no : Query α}
    (readsYes : Reads yes)
    (readsNo : Reads no) :
    Reads (if condition then yes else no) := by
  split
  · exact readsYes
  · exact readsNo

/-- A choice that a part of a value makes. -/
theorem given
    {outcome : Except Fault Bool}
    {yes no : Query α}
    (readsYes : Reads yes)
    (readsNo : Reads no) :
    Reads (do if ← ofExcept outcome then yes else no) :=
  (ofOutcome _).bind fun _ => choice readsYes readsNo

/-! ## Elements of views -/

theorem element
    (view : View)
    (key : Value) :
    Reads (Query.element view key) :=
  bytes (fun _ => rfl) fun container => view.get_release container.blob key

theorem elements
    (view : View) :
    Reads (Query.elements view) :=
  bytes (fun _ => rfl) fun container => view.list_release container.blob

/-- The element at a position that is known to be in a view. -/
theorem entry
    (view : View)
    (position : Nat) :
    Reads (do ofExcept (view.read (← get).blob position) : Query Value) :=
  bytes (fun _ => rfl) fun _ => .inr rfl

theorem findPartition
    (target : Target)
    (name : Option String) :
    Reads (Query.findPartition target name) :=
  (ofOutcome _).bind fun _ => read (fun _ => rfl) (fun _ => rfl) fun _ => ofOutcome _

theorem requirePartition
    (target : Target)
    (name : Option String) :
    Reads (Query.requirePartition target name) :=
  (ofOutcome _).bind fun _ => read (fun _ => rfl) (fun _ => rfl) fun _ => ofOutcome _

/-! ## Texts -/

theorem stringAt
    (offset : Int) :
    Reads (Query.stringAt offset) :=
  bytes (fun _ => rfl) fun container =>
    Container.tableText_release container.header container.blob offset

theorem optionalStringAt
    (offset : Int) :
    Reads (Query.optionalStringAt offset) :=
  choice (pure _) ((stringAt offset).bind fun _ => pure _)

theorem textOf
    (offset : Value) :
    Reads (Query.textOf offset) :=
  (ofOutcome _).bind fun _ => stringAt _

theorem moduleName
    (reference : Value) :
    Reads (Query.moduleName reference) := by
  refine (ofOutcome _).bind fun owner => given ?_ ?_
  · exact (ofOutcome _).bind fun _ => textOf _
  · exact (textOf _).bind fun _ => (ofOutcome _).bind fun _ =>
      given (pure _) ((textOf _).bind fun _ => pure _)

theorem unitName : Reads Query.unitName :=
  read (fun _ => rfl) (fun _ => rfl) fun _ => optionalStringAt _

theorem isPrimaryUnit : Reads Query.isPrimaryUnit :=
  read (fun _ => rfl) (fun _ => rfl) fun _ => pure _

theorem computeDigest
    (digest : List UInt8 → List UInt8) :
    Reads (Query.computeDigest digest) := by
  have bytes : Reads (do ofExcept (← get).blob.access : Query Bytes) :=
    bytes (fun _ => rfl) fun _ => .inr rfl
  have split : Query.computeDigest digest =
      ((do ofExcept (← get).blob.access) >>= fun bytes =>
        return digest (bytes.tail Dimensions.checksumStart)) := by
    rw [Query.computeDigest, bind_assoc]
  rw [split]
  exact bytes.bind fun _ => pure _

/-! ## Records -/

theorem records
    (spec : PartitionSpec) :
    Reads (Query.records spec) := by
  refine read (fun _ => rfl) (fun _ => rfl) fun _ => (ofOutcome _).bind fun found => ?_
  cases found with
  | none => exact pure _
  | some view => exact elements view

theorem allRecords
    (specs : List PartitionSpec) :
    Reads (Query.allRecords specs) := by
  induction specs with
  | nil => exact pure _
  | cons spec rest inductionHypothesis =>
      exact (records spec).bind fun _ => inductionHypothesis.bind fun _ => pure _

end Reads

/-- The attributes of all declarations, gathered from their records. -/
def gatherAttributes : Query (AssociationTable (List TaggedIndex)) :=
  (List.foldl AssociationTable.addAttribute []) <$> allRecords Catalogue.attributeSources

/-- A single trait of all declarations, gathered from its records. -/
def gatherTraits (kind : SingleTrait) : Query (AssociationTable Value) :=
  (List.foldl AssociationTable.putTrait []) <$> records kind.spec

namespace Reads

theorem gatherAttributes : Reads Query.gatherAttributes :=
  (allRecords _).map _

theorem gatherTraits
    (kind : SingleTrait) :
    Reads (Query.gatherTraits kind) :=
  (records _).map _

end Reads
end Query
end ModuleInterface

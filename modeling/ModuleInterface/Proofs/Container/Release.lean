import Mathlib
import ModuleInterface.Proofs.Container.Answers

/-!
# Containers that are closed

A container outlasts another one if it has the same tables, remembers at least as much, and
the other one is closed (`Container.Outlasts`): so it is when the same is asked of both and
one is closed at some time, while the other one is not, or later. This is a comparison, in
which the closed container may fail where the other one goes on, since its bytes are
released. A table that the closed container fails to gather it cannot remember, so from then
on the two remember different things; but what the closed one remembers the other one
remembers too, and this is all that a later answer depends on.
-/

namespace ModuleInterface
namespace Container

/-- A container as if it had never been closed. -/
def reopened (container : Container) : Container :=
  { container with blob := { container.blob with released := false } }

@[simp] theorem reopened_closed
    (container : Container) :
    container.closed.reopened = container.reopened := rfl

/-- A container is open, or it is closed. -/
theorem reopened_or_closed
    (container : Container) :
    container = container.reopened ∨ container = container.reopened.closed := by
  obtain ⟨⟨bytes, backing, released⟩, header, contents, environment, locations, attributes,
    traits, journal⟩ := container
  cases released with
  | false => exact .inl rfl
  | true => exact .inr rfl

theorem eq_closed_of_released
    {container : Container}
    (released : container.blob.released = true) :
    container = container.reopened.closed := by
  obtain same | closed := container.reopened_or_closed
  · rw [same] at released
    contradiction
  · exact closed

/-- A container remembers right what another one with the same tables does that remembers at
least as much. -/
theorem Remembers.of_retains
    {container start : Container}
    {made : List PartitionSpec}
    (remembers : container.Remembers made)
    (retains : container.Retains start)
    (tables : start.bare = container.bare) :
    start.Remembers made := by
  refine ⟨fun slot location found => ?_, fun table found => ?_, fun kind table found => ?_⟩
  · obtain ⟨spec, own, required⟩ :=
      remembers.located slot location (retains.located slot location found)
    refine ⟨spec, own, ?_⟩
    change start.bare.requirePartition spec spec.name = _
    rw [tables]
    exact required
  · rw [tables]
    exact remembers.attributes table (retains.attributes table found)
  · rw [tables]
    exact remembers.traits kind table (retains.traits kind table found)

/-- A container has the same tables as one that is closed, and remembers at least as much.
What it remembers is what it would find if it had not been closed. -/
structure Outlasts (container other : Container) (made : List PartitionSpec) : Prop where
  tables : other.reopened.bare = container.reopened.bare
  remembers : container.reopened.Remembers made
  retains : container.Retains other
  released : other.blob.released = true

theorem Outlasts.mono
    {container other : Container}
    {made later : List PartitionSpec}
    (outlasts : container.Outlasts other made)
    (grown : made <+: later) :
    container.Outlasts other later :=
  { outlasts with remembers := outlasts.remembers.mono grown }

/-- What the closed container remembers is right as well. -/
theorem Outlasts.remembers_other
    {container other : Container}
    {made : List PartitionSpec}
    (outlasts : container.Outlasts other made) :
    other.reopened.Remembers made :=
  outlasts.remembers.of_retains
    ⟨outlasts.retains.located, outlasts.retains.attributes, outlasts.retains.traits⟩
    outlasts.tables

/-- A container outlasts another one also if it is closed itself, or had never been. -/
theorem Outlasts.closed
    {container other : Container}
    {made : List PartitionSpec}
    (outlasts : container.Outlasts other made) :
    container.closed.Outlasts other made :=
  ⟨outlasts.tables, outlasts.remembers, ⟨outlasts.retains.located,
    outlasts.retains.attributes, outlasts.retains.traits⟩, outlasts.released⟩

theorem Outlasts.reopened
    {container other : Container}
    {made : List PartitionSpec}
    (outlasts : container.Outlasts other made) :
    container.reopened.Outlasts other made :=
  ⟨outlasts.tables, outlasts.remembers, ⟨outlasts.retains.located,
    outlasts.retains.attributes, outlasts.retains.traits⟩, outlasts.released⟩

theorem Outlasts.closed_other
    {container other : Container}
    {made : List PartitionSpec}
    (outlasts : container.Outlasts other made) :
    container.Outlasts other.closed made :=
  ⟨outlasts.tables, outlasts.remembers, ⟨outlasts.retains.located,
    outlasts.retains.attributes, outlasts.retains.traits⟩, rfl⟩

theorem outlasts_closed
    {container : Container}
    {made : List PartitionSpec}
    (remembers : container.reopened.Remembers made) :
    container.Outlasts container.closed made :=
  ⟨rfl, remembers, ⟨fun _ _ kept => kept, fun _ kept => kept, fun _ _ kept => kept⟩, rfl⟩

end Container

open Container in
/-- A container is compared with one that is closed, which may fail. -/
def Comparison.release (made : List PartitionSpec) : Comparison where
  related left right := left.Outlasts right made
  lenient := True

namespace Query

variable {α : Type} {made : List PartitionSpec}

/-! ## Queries that only read -/

/-- A container is answered as if it had not been closed, unless its bytes are needed. -/
theorem Reads.reopened
    {query : Query α}
    (reads : query.Reads)
    (container : Container) :
    (query.on container).1 = (query.on container.reopened).1 ∨
      (query.on container).1 = .error .released := by
  obtain same | closed := container.reopened_or_closed
  · exact .inl (congrArg (fun container => (query.on container).1) same)
  · have answer := reads.released container.reopened
    rw [← closed] at answer
    exact answer

/-- A closed container reads the same as one that outlasts it, unless it needs its bytes. -/
theorem Reads.outlasts
    {query : Query α}
    (reads : query.Reads)
    {left right : Container}
    (outlasts : left.Outlasts right made) :
    (query.on right).1 = (query.on left).1 ∨ (query.on right).1 = .error .released := by
  have closed : right.bare = left.reopened.bare.closed := by
    rw [Container.eq_closed_of_released outlasts.released, ← outlasts.tables]
    rfl
  rw [← reads.forgetful right, ← reads.forgetful left, closed]
  obtain same | leftClosed := left.reopened_or_closed
  · have answer := reads.released left.reopened.bare
    rwa [← same] at answer ⊢
  · exact .inl (congrArg (fun container => (query.on container.bare).1) leftClosed.symm)

theorem Reads.respects_release
    {query : Query α}
    (reads : query.Reads) :
    query.Respects (.release made) := by
  refine ⟨fun related => ⟨?_, ?_⟩, fun _ related => ?_⟩
  · exact (reads.outlasts related).imp_right fun released => ⟨trivial, released⟩
  · rw [reads.still, reads.still]
    exact related
  · rw [reads.still]
    exact related

/-! ## Queries that remember something -/

namespace Memo

variable {query gather : Query α} {recalled : Container → Option α}
variable {store : α → Container → Container} {left right : Container} {found : α}

theorem blob_store
    (memo : Memo made query gather recalled store)
    (container : Container)
    (found : α) :
    (store found container).blob = container.blob := by
  change (store found container).bare.blob = container.blob
  rw [memo.tables]
  rfl

theorem reopened_store
    (memo : Memo made query gather recalled store)
    (container : Container)
    (found : α) :
    (store found container).reopened = store found container.reopened := by
  rw [Container.reopened, memo.blob_store]
  exact (memo.blob container found _).symm

/-- The container that outlasts the other one may store what it gathers. -/
theorem outlasts_left
    (memo : Memo made query gather recalled store)
    (outlasts : left.Outlasts right made)
    (missing : recalled left = none)
    (gathered : (gather.on left).1 = .ok found) :
    (store found left).Outlasts right made := by
  have reopened : (gather.on left.reopened).1 = .ok found := by
    obtain same | released := memo.reads.reopened left
    · rw [← same, gathered]
    · rw [gathered] at released
      contradiction
  refine ⟨?_, ?_, (memo.grows left found missing).trans outlasts.retains, outlasts.released⟩
  · rw [memo.reopened_store, memo.tables]
    exact outlasts.tables
  · rw [memo.reopened_store]
    exact memo.kept left.reopened outlasts.remembers found reopened

/-- The closed container may store what the other one recalls. -/
theorem outlasts_right
    (memo : Memo made query gather recalled store)
    (outlasts : left.Outlasts right made)
    (remembered : recalled left = some found) :
    left.Outlasts (store found right) made := by
  refine ⟨?_, outlasts.remembers, memo.reached outlasts.retains found remembered, ?_⟩
  · rw [memo.reopened_store, memo.tables]
    exact outlasts.tables
  · rw [memo.blob_store]
    exact outlasts.released

/-- What the container that outlasts the other one recalls is what it would read. -/
theorem gather_reopened
    (memo : Memo made query gather recalled store)
    (outlasts : left.Outlasts right made)
    (remembered : recalled left = some found) :
    (gather.on left.reopened).1 = .ok found := by
  have same : left.reopened.Retains left :=
    ⟨fun _ _ kept => kept, fun _ kept => kept, fun _ _ kept => kept⟩
  exact memo.right left.reopened outlasts.remembers found (memo.retained same found remembered)

/-- What one container recalls the closed one gathers, unless it needs its bytes. -/
theorem outlasts_of_recalled
    (memo : Memo made query gather recalled store)
    (outlasts : left.Outlasts right made)
    (remembered : recalled left = some found)
    (missing : recalled right = none) :
    ((query.on right).1 = (query.on left).1 ∨ (query.on right).1 = .error .released) ∧
      (query.on left).2.Outlasts (query.on right).2 made := by
  rw [memo.on_of_some remembered, memo.on_of_none missing]
  obtain same | released := memo.reads.outlasts outlasts.reopened
  · rw [same, memo.gather_reopened outlasts remembered]
    exact ⟨.inl rfl, memo.outlasts_right outlasts remembered⟩
  · rw [released]
    exact ⟨.inr rfl, outlasts⟩

/-- What neither container recalls both gather, unless the closed one needs its bytes. -/
theorem outlasts_of_missing
    (memo : Memo made query gather recalled store)
    (outlasts : left.Outlasts right made)
    (missingLeft : recalled left = none)
    (missingRight : recalled right = none) :
    ((query.on right).1 = (query.on left).1 ∨ (query.on right).1 = .error .released) ∧
      (query.on left).2.Outlasts (query.on right).2 made := by
  rw [memo.on_of_none missingLeft, memo.on_of_none missingRight]
  have answer := memo.reads.outlasts outlasts
  cases gathered : (gather.on left).1 with
  | error fault =>
      rw [gathered] at answer
      obtain same | released := answer
      · rw [same]
        exact ⟨.inl rfl, outlasts⟩
      · rw [released]
        exact ⟨.inr rfl, outlasts⟩
  | ok found =>
      rw [gathered] at answer
      have stored := memo.outlasts_left outlasts missingLeft gathered
      obtain same | released := answer
      · rw [same]
        exact ⟨.inl rfl, memo.outlasts_right stored (memo.stored left found gathered)⟩
      · rw [released]
        exact ⟨.inr rfl, stored⟩

theorem outlasts_on
    (memo : Memo made query gather recalled store)
    (outlasts : left.Outlasts right made) :
    ((query.on right).1 = (query.on left).1 ∨ (query.on right).1 = .error .released) ∧
      (query.on left).2.Outlasts (query.on right).2 made := by
  cases recalledRight : recalled right with
  | some found =>
      -- What the closed container recalls the other one recalls too.
      rw [memo.on_of_some recalledRight,
        memo.on_of_some (memo.retained outlasts.retains found recalledRight)]
      exact ⟨.inl rfl, outlasts⟩
  | none =>
      cases recalledLeft : recalled left with
      | some found => exact memo.outlasts_of_recalled outlasts recalledLeft recalledRight
      | none => exact memo.outlasts_of_missing outlasts recalledLeft recalledRight

theorem respects_release
    (memo : Memo made query gather recalled store) :
    query.Respects (.release made) := by
  refine ⟨fun outlasts => ?_, fun {left right} _ outlasts => ?_⟩
  · exact (memo.outlasts_on outlasts).imp_left (Or.imp_right fun released => ⟨trivial, released⟩)
  · exact memo.on_cases left (motive := fun ran => ran.2.Outlasts right made)
      (fun _ _ => outlasts) (fun _ _ _ => outlasts)
      fun _ missing gathered => memo.outlasts_left outlasts missing gathered

end Memo

theorem respects_release_record
    (event : Event) :
    (Query.record event).Respects (.release made) := by
  have reported : ∀ {left right : Container}, left.Outlasts right made →
      ((Query.record event).on left).2.Outlasts right made := fun outlasts =>
    ⟨outlasts.tables, ⟨outlasts.remembers.located, outlasts.remembers.attributes,
      outlasts.remembers.traits⟩, ⟨outlasts.retains.located, outlasts.retains.attributes,
        outlasts.retains.traits⟩, outlasts.released⟩
  refine ⟨fun outlasts => ⟨.inl rfl, ?_⟩, fun _ => reported⟩
  have left := reported outlasts
  exact ⟨left.tables, left.remembers, ⟨left.retains.located, left.retains.attributes,
    left.retains.traits⟩, left.released⟩

end Query

theorem Comparison.lawful_release
    (made : List PartitionSpec) :
    (Comparison.release made).Lawful made where
  header related := (congrArg Container.header related.tables).symm
  reads reads := reads.respects_release
  partition own := (Query.memo_partition own).respects_release
  attributeTable := Query.memo_attributes.respects_release
  traitTable kind := (Query.memo_traits kind).respects_release
  record := Query.respects_release_record

/-! ## Requests -/

namespace Request

/-- Whether a container keeps its table of contents after a request. -/
def keepsContents {target : Type} : Request target → Bool
  | .clearContents => false
  | _ => true

/-- What is answered to a request that closes the container. -/
def closes {target : Type} : Request target → Option Answer
  | .close => some .nothing
  | .closeAfterUse => some (.truth true)
  | _ => none

theorem exists_closes
    {target : Type}
    {request : Request target}
    (keeps : request.keepsContents)
    (changes : request.keepsContainer = false) :
    ∃ answer, request.closes = some answer := by
  cases request with
  | close => exact ⟨_, rfl⟩
  | closeAfterUse => exact ⟨_, rfl⟩
  | _ => contradiction

theorem on_answer_of_closes
    {request : Request Target}
    {answer : Answer}
    (closes : request.closes = some answer)
    (registry : Registry)
    (environment : Option Environment)
    (container : Container) :
    (request.answer registry environment).on container = (.ok answer, container.closed) := by
  cases request with
  | close =>
      cases closes
      rfl
  | closeAfterUse =>
      cases closes
      rfl
  | _ => contradiction

end Request

namespace Container

variable {left right : Container} {made : List PartitionSpec}

/-- What a closed container answers is what one that outlasts it answers, or that its bytes
are released, and it is still outlasted afterwards, also when the other one is asked alone.
Only whether the bytes are released is a question that the two answer differently. -/
theorem Outlasts.answer
    (outlasts : left.Outlasts right made)
    (grown : Catalogue.specs <+: made)
    {registry : Registry}
    (known : ∀ spec ∈ registry.sorted, spec.MadeIn made)
    (environment : Option Environment)
    {request : Request Target}
    (own : request.OnTarget fun target => target.MadeIn made)
    (keeps : request.keepsContents) :
    (request.asksReleased = false →
      ((request.answer registry environment).on right).1 =
          ((request.answer registry environment).on left).1 ∨
        ((request.answer registry environment).on right).1 = .error .released) ∧
    ((request.answer registry environment).on left).2.Outlasts
      ((request.answer registry environment).on right).2 made ∧
    ((request.answer registry environment).on left).2.Outlasts right made := by
  cases keepsContainer : request.keepsContainer with
  | true =>
      cases asks : request.asksReleased with
      | false =>
          have respects := Query.Respects.answer (Comparison.lawful_release made) grown known
            environment own keepsContainer asks
          obtain ⟨answer, after⟩ := respects.together outlasts
          exact ⟨fun _ => answer.imp_right And.right, after, respects.alone trivial outlasts⟩
      | true =>
          cases request with
          | released => exact ⟨fun absurd => by contradiction, outlasts, outlasts⟩
          | _ => contradiction
  | false =>
      obtain ⟨answer, closes⟩ := Request.exists_closes keeps keepsContainer
      have ran := Request.on_answer_of_closes closes registry environment
      rw [ran right, ran left]
      exact ⟨fun _ => .inl rfl, outlasts.closed.closed_other, outlasts.closed⟩

end Container
end ModuleInterface

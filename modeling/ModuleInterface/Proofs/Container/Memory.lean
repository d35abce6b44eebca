import Mathlib
import ModuleInterface.Catalogue.Standard
import ModuleInterface.Proofs.Container.Contents
import ModuleInterface.Proofs.Container.Reading

/-!
# What a container remembers

A container remembers where partitions were found and the tables that it gathered. What
it remembers is always what it would find if it remembered nothing (`Remembers`). A query
is steady if it answers as it would on the container without its memory, and keeps this
true (`Query.Steady`). Three queries remember something: each of them reads what it asks
for, unless it did before, and stores it (`Query.Memo`).

A location is remembered under the slot of a specification. That it belongs to the
specification that is asked for rests on the specifications that were made so far: no two
of them have the same slot.
-/

namespace ModuleInterface

/-- What is made for a slot is not replaced by what is made later. -/
theorem getElem?_of_isPrefix
    {made later : List PartitionSpec}
    (grown : made <+: later)
    {slot : Nat}
    {spec : PartitionSpec}
    (own : made[slot]? = some spec) :
    later[slot]? = some spec := by
  obtain ⟨others, rfl⟩ := grown
  rw [List.getElem?_append_left (List.getElem?_eq_some_iff.mp own).1]
  exact own

/-- A specification is the one that was made for its slot. -/
def PartitionSpec.MadeIn (spec : PartitionSpec) (made : List PartitionSpec) : Prop :=
  made[spec.slot]? = some spec

/-- Every specification can be one that was made. -/
theorem PartitionSpec.exists_madeIn (spec : PartitionSpec) : ∃ made, spec.MadeIn made :=
  ⟨List.replicate (spec.slot + 1) spec, by simp [MadeIn]⟩

/-- The partitions that queries rely on are made before all others. -/
theorem Catalogue.madeIn_of_mem_standard
    {spec : PartitionSpec}
    (standard : spec ∈ Catalogue.standard)
    {made : List PartitionSpec}
    (grown : Catalogue.specs <+: made) :
    spec.MadeIn made :=
  getElem?_of_isPrefix grown (Catalogue.specs_slot_of_mem_standard spec standard)

namespace Container

theorem SharesTables.of_bare
    {container other : Container}
    (tables : container.bare = other.bare) :
    container.SharesTables other := by
  simp only [bare, Container.mk.injEq, and_true] at tables
  obtain ⟨blob, header, contents, environment⟩ := tables
  exact ⟨blob, header, contents, environment⟩

/-- What a container remembers is what it would find if it remembered nothing. -/
structure Remembers (container : Container) (made : List PartitionSpec) : Prop where
  located : ∀ slot location, container.located? slot = some location →
    ∃ spec, made[slot]? = some spec ∧
      container.requirePartition spec spec.name =
        .ok ⟨spec, spec.name, location.base, location.count⟩
  attributes : ∀ table, container.attributes = some table →
    (Query.attributeTable.on container.bare).1 = .ok table
  traits : ∀ kind table, container.traits.find? kind = some table →
    ((Query.traitTable kind).on container.bare).1 = .ok table

theorem remembers_bare
    (container : Container)
    (made : List PartitionSpec) :
    container.bare.Remembers made :=
  ⟨fun _ _ found => by contradiction, fun _ found => by contradiction,
    fun _ _ found => by contradiction⟩

theorem Remembers.mono
    {container : Container}
    {made later : List PartitionSpec}
    (remembers : container.Remembers made)
    (grown : made <+: later) :
    container.Remembers later := by
  refine ⟨fun slot location found => ?_, remembers.attributes, remembers.traits⟩
  obtain ⟨spec, own, required⟩ := remembers.located slot location found
  exact ⟨spec, getElem?_of_isPrefix grown own, required⟩

/-- Whatever another container remembers, a container remembers unchanged. -/
structure Retains (container start : Container) : Prop where
  located : ∀ slot location, start.located? slot = some location →
    container.located? slot = some location
  attributes : ∀ table, start.attributes = some table → container.attributes = some table
  traits : ∀ kind table, start.traits.find? kind = some table →
    container.traits.find? kind = some table

theorem Retains.refl
    (container : Container) :
    container.Retains container :=
  ⟨fun _ _ kept => kept, fun _ kept => kept, fun _ _ kept => kept⟩

theorem Retains.trans
    {first second third : Container}
    (later : third.Retains second)
    (earlier : second.Retains first) :
    third.Retains first :=
  ⟨fun slot location kept => later.located slot location (earlier.located slot location kept),
    fun table kept => later.attributes table (earlier.attributes table kept),
    fun kind table kept => later.traits kind table (earlier.traits kind table kept)⟩

end Container

namespace Query

variable {α β : Type} {made : List PartitionSpec}

/-! ## Queries that do not depend on what is remembered -/

/-- A query that answers as if nothing were remembered, and keeps what is remembered
right. -/
def Steady (made : List PartitionSpec) (query : Query α) : Prop :=
  ∀ container : Container, container.Remembers made →
    (query.on container).1 = (query.on container.bare).1 ∧
      (query.on container).2.bare = container.bare ∧
      (query.on container).2.Remembers made

theorem Reads.steady
    {query : Query α}
    (reads : query.Reads) :
    Steady made query := by
  intro container remembers
  rw [reads.still]
  exact ⟨(reads.forgetful container).symm, rfl, remembers⟩

/-- Whatever a steady query makes a container remember, all steady queries are answered as
before. -/
theorem Steady.undisturbed
    {first : Query α}
    {second : Query β}
    (steadyFirst : Steady made first)
    (steadySecond : Steady made second)
    {container : Container}
    (remembers : container.Remembers made) :
    (second.on (first.on container).2).1 = (second.on container).1 := by
  obtain ⟨_, tables, kept⟩ := steadyFirst container remembers
  obtain ⟨after, _, _⟩ := steadySecond (first.on container).2 kept
  obtain ⟨before, _, _⟩ := steadySecond container remembers
  rw [after, before, tables]

/-- What follows a steady query is answered as by the container that the query is asked of,
if it is steady. -/
theorem Steady.outcome_bind
    {first : Query α}
    {next : α → Query β}
    (steadyFirst : Steady made first)
    (steadyNext : ∀ value, Steady made (next value))
    {container : Container}
    (remembers : container.Remembers made) :
    ((first >>= next).on container).1 =
      (first.on container).1 >>= fun value => ((next value).on container).1 := by
  have undisturbed := fun value => steadyFirst.undisturbed (steadyNext value) remembers
  rw [on_bind]
  generalize first.on container = ran at undisturbed
  obtain ⟨outcome, after⟩ := ran
  cases outcome with
  | error fault => rfl
  | ok value => exact undisturbed value

/-- A query that is asked again is answered as before, also when it fails. -/
theorem Steady.again
    {query : Query α}
    (steady : Steady made query)
    {container : Container}
    (remembers : container.Remembers made) :
    (query.on (query.on container).2).1 = (query.on container).1 :=
  steady.undisturbed steady remembers

theorem Steady.record
    (event : Event) :
    Steady made (Query.record event) :=
  fun _ remembers =>
    ⟨rfl, rfl, remembers.located, remembers.attributes, remembers.traits⟩

theorem Steady.gatherAttributes : Steady made Query.gatherAttributes :=
  Reads.gatherAttributes.steady

theorem Steady.gatherTraits
    (kind : SingleTrait) :
    Steady made (Query.gatherTraits kind) :=
  (Reads.gatherTraits kind).steady

/-! ## Queries that remember something -/

/-- A query answers what it recalls. If it recalls nothing, it reads what it is asked for
and stores it. What is stored is recalled, and nothing else is changed by it. -/
structure Memo (made : List PartitionSpec) (query gather : Query α)
    (recalled : Container → Option α) (store : α → Container → Container) : Prop where
  on_eq : ∀ container, query.on container =
    match recalled container with
    | some found => (.ok found, container)
    | none =>
        match (gather.on container).1 with
        | .ok found => (.ok found, store found container)
        | .error fault => (.error fault, container)
  reads : gather.Reads
  tables : ∀ container found, (store found container).bare = container.bare
  blob : ∀ (container : Container) found blob,
    store found { container with blob } = { store found container with blob }
  right : ∀ container : Container, container.Remembers made → ∀ found,
    recalled container = some found → (gather.on container).1 = .ok found
  kept : ∀ container : Container, container.Remembers made → ∀ found,
    (gather.on container).1 = .ok found → (store found container).Remembers made
  stored : ∀ container found, (gather.on container).1 = .ok found →
    recalled (store found container) = some found
  grows : ∀ container found, recalled container = none →
    (store found container).Retains container
  retained : ∀ {container start : Container}, container.Retains start → ∀ found,
    recalled start = some found → recalled container = some found
  reached : ∀ {container start : Container}, container.Retains start → ∀ found,
    recalled container = some found → container.Retains (store found start)

namespace Memo

variable {query gather : Query α} {recalled : Container → Option α}
variable {store : α → Container → Container}

theorem on_of_none
    (memo : Memo made query gather recalled store)
    {container : Container}
    (missing : recalled container = none) :
    query.on container =
      match (gather.on container).1 with
      | .ok found => (.ok found, store found container)
      | .error fault => (.error fault, container) := by
  rw [memo.on_eq, missing]

theorem on_of_some
    (memo : Memo made query gather recalled store)
    {container : Container}
    {found : α}
    (remembered : recalled container = some found) :
    query.on container = (.ok found, container) := by
  rw [memo.on_eq, remembered]

/-- The answer is recalled, or cannot be read, or it is read and stored. -/
theorem on_cases
    (memo : Memo made query gather recalled store)
    (container : Container)
    {motive : Except Fault α × Container → Prop}
    (recalls : ∀ found, recalled container = some found → motive (.ok found, container))
    (fails : ∀ fault, recalled container = none →
      (gather.on container).1 = .error fault → motive (.error fault, container))
    (reads : ∀ found, recalled container = none →
      (gather.on container).1 = .ok found → motive (.ok found, store found container)) :
    motive (query.on container) := by
  cases remembered : recalled container with
  | some found =>
      rw [memo.on_of_some remembered]
      exact recalls found remembered
  | none =>
      rw [memo.on_of_none remembered]
      cases gathered : (gather.on container).1 with
      | error fault => exact fails fault remembered gathered
      | ok found => exact reads found remembered gathered

/-- The answer is what is read, whether it is recalled or not. -/
theorem outcome
    (memo : Memo made query gather recalled store)
    {container : Container}
    (remembers : container.Remembers made) :
    (query.on container).1 = (gather.on container).1 :=
  memo.on_cases container (motive := fun ran => ran.1 = (gather.on container).1)
    (fun found remembered => (memo.right container remembers found remembered).symm)
    (fun _ _ failed => failed.symm) fun _ _ gathered => gathered.symm

/-- What was remembered still is. -/
theorem retains
    (memo : Memo made query gather recalled store)
    (container : Container) :
    (query.on container).2.Retains container :=
  memo.on_cases container (motive := fun ran => ran.2.Retains container)
    (fun _ _ => .refl container) (fun _ _ _ => .refl container)
    fun found missing _ => memo.grows container found missing

theorem steady
    (memo : Memo made query gather recalled store) :
    Steady made query := by
  intro container remembers
  refine ⟨?_, ?_⟩
  · rw [memo.outcome remembers, memo.outcome (container.remembers_bare made),
      memo.reads.forgetful]
  · exact memo.on_cases container
      (motive := fun ran => ran.2.bare = container.bare ∧ ran.2.Remembers made)
      (fun _ _ => ⟨rfl, remembers⟩) (fun _ _ _ => ⟨rfl, remembers⟩)
      fun found _ gathered =>
        ⟨memo.tables container found, memo.kept container remembers found gathered⟩

end Memo

/-! ## Located partitions -/

theorem spec_of_requirePartition
    {container : Container}
    {spec : PartitionSpec}
    {name : String}
    {view : View}
    (required : container.requirePartition spec name = .ok view) :
    view.spec = spec ∧ view.name = name := by
  unfold Container.requirePartition Container.findPartition Container.viewOf at required
  cases found : container.summary? name with
  | none =>
      rw [found] at required
      contradiction
  | some summary =>
      simp only [found] at required
      by_cases agree : summary.entrySize = spec.entrySize
      · rw [if_pos agree] at required
        cases required
        exact ⟨rfl, rfl⟩
      · rw [if_neg agree] at required
        contradiction

/-- The view of the partition of a specification at a location. -/
def viewAt (spec : PartitionSpec) (location : Location) : View :=
  ⟨spec, spec.name, location.base, location.count⟩

theorem viewAt_of_requirePartition
    {container : Container}
    {spec : PartitionSpec}
    {view : View}
    (required : container.requirePartition spec spec.name = .ok view) :
    viewAt spec ⟨view.base, view.count⟩ = view := by
  obtain ⟨rfl, named⟩ := spec_of_requirePartition required
  rw [viewAt, ← named]

/-- A slot is filled if it is empty and the table of contents has the partition. -/
theorem on_partition_eq
    (spec : PartitionSpec)
    (container : Container) :
    (partition spec).on container =
      match container.located? spec.slot with
      | some location => (.ok ⟨spec, spec.name, location.base, location.count⟩, container)
      | none =>
          match container.requirePartition spec spec.name with
          | .error fault => (.error fault, container)
          | .ok view =>
              (.ok view, { container with
                locations := container.locations.bind spec.slot ⟨view.base, view.count⟩
                journal := container.journal ++ [.located spec.name spec.slot view.count] }) := by
  rw [partition, on_get_bind]
  cases container.located? spec.slot with
  | some location => rfl
  | none =>
      simp only [on_get_bind]
      cases required : container.requirePartition spec spec.name with
      | error fault => rfl
      | ok view =>
          obtain ⟨rfl, _⟩ := spec_of_requirePartition required
          rfl

/-- Remember where the partition of a specification lies, and report it. -/
def locate (spec : PartitionSpec) (view : View) (container : Container) : Container :=
  { container with
    locations := container.locations.bind spec.slot ⟨view.base, view.count⟩
    journal := container.journal ++ [.located spec.name spec.slot view.count] }

@[simp] theorem located?_locate
    (spec : PartitionSpec)
    (view : View)
    (container : Container)
    (slot : Nat) :
    (locate spec view container).located? slot =
      if spec.slot = slot then some ⟨view.base, view.count⟩ else container.located? slot :=
  Bindings.find?_bind _ _ _ _

/-- The partition of a specification is located at most once. -/
theorem memo_partition
    {spec : PartitionSpec}
    (own : spec.MadeIn made) :
    Memo made (partition spec) (do ofExcept ((← get).requirePartition spec spec.name))
      (fun container => (container.located? spec.slot).map (viewAt spec)) (locate spec) where
  on_eq container := by
    rw [on_partition_eq, on_get_bind, on_ofExcept]
    cases container.located? spec.slot with
    | some location => rfl
    | none => cases container.requirePartition spec spec.name <;> rfl
  reads := .bytes (fun _ => rfl) fun _ => .inl rfl
  tables _ _ := rfl
  blob _ _ _ := rfl
  right container remembers found remembered := by
    obtain ⟨location, located, rfl⟩ := Option.map_eq_some_iff.mp remembered
    obtain ⟨owner, made, required⟩ := remembers.located spec.slot location located
    obtain rfl := Option.some.inj (own.symm.trans made)
    rw [on_get_bind, on_ofExcept]
    exact required
  kept container remembers view gathered := by
    rw [on_get_bind, on_ofExcept] at gathered
    refine ⟨fun slot location located => ?_, remembers.attributes, remembers.traits⟩
    rw [located?_locate] at located
    by_cases asked : spec.slot = slot
    · subst asked
      rw [if_pos rfl] at located
      cases located
      exact ⟨spec, own,
        gathered.trans (congrArg Except.ok (viewAt_of_requirePartition gathered).symm)⟩
    · rw [if_neg asked] at located
      exact remembers.located slot location located
  stored container view gathered := by
    rw [on_get_bind, on_ofExcept] at gathered
    rw [located?_locate, if_pos rfl, Option.map_some, viewAt_of_requirePartition gathered]
  grows container view free := by
    rw [Option.map_eq_none_iff] at free
    refine ⟨fun slot location located => ?_, fun _ kept => kept, fun _ _ kept => kept⟩
    rw [located?_locate, if_neg, located]
    rintro rfl
    rw [free] at located
    contradiction
  retained retains view remembered := by
    obtain ⟨location, located, rfl⟩ := Option.map_eq_some_iff.mp remembered
    rw [retains.located spec.slot location located]
    rfl
  reached retains view remembered := by
    obtain ⟨location, located, rfl⟩ := Option.map_eq_some_iff.mp remembered
    refine ⟨fun slot other stored => ?_, retains.attributes, retains.traits⟩
    rw [located?_locate] at stored
    by_cases asked : spec.slot = slot
    · subst asked
      rw [if_pos rfl] at stored
      exact located.trans stored
    · rw [if_neg asked] at stored
      exact retains.located slot other stored

/-- A partition is answered as the table of contents has it, whether its place is
remembered or not. -/
theorem on_partition
    {container : Container}
    (remembers : container.Remembers made)
    {spec : PartitionSpec}
    (own : spec.MadeIn made) :
    ((partition spec).on container).1 = container.requirePartition spec spec.name ∧
      ((partition spec).on container).2.bare = container.bare ∧
      ((partition spec).on container).2.Remembers made := by
  refine ⟨?_, ((memo_partition own).steady container remembers).2⟩
  rw [(memo_partition own).outcome remembers, on_get_bind, on_ofExcept]

theorem Steady.partition
    {spec : PartitionSpec}
    (own : spec.MadeIn made) :
    Steady made (Query.partition spec) :=
  (memo_partition own).steady

/-! ## Gathered tables -/

/-- What a query that is not answered from memory does: it gathers, reports and
remembers. -/
def remembering (gather : Query α) (event : α → Event) (store : α → Container → Container) :
    Query α := do
  let found ← gather
  record (event found)
  modify (store found)
  return found

/-- What is gathered is answered, whatever is done with it. -/
theorem on_remembering
    (gather : Query α)
    (event : α → Event)
    (store : α → Container → Container)
    (container : Container) :
    ((remembering gather event store).on container).1 = (gather.on container).1 := by
  rw [remembering, on_bind]
  cases gather.on container with
  | mk outcome after => cases outcome <;> rfl

theorem on_attributeTable_of_none
    {container : Container}
    (missing : container.attributes = none) :
    attributeTable.on container =
      (remembering gatherAttributes (fun table => .attributesGathered table.length)
        fun table container => { container with attributes := some table }).on container := by
  rw [attributeTable, on_get_bind, missing, remembering, gatherAttributes, bind_map_left]

theorem on_traitTable_of_none
    {kind : SingleTrait}
    {container : Container}
    (missing : container.traits.find? kind = none) :
    (traitTable kind).on container =
      (remembering (gatherTraits kind)
        (fun table => .traitsGathered kind.spec.name table.length)
        fun table container => { container with
          traits := container.traits.bind kind table }).on container := by
  rw [traitTable, on_get_bind, missing, remembering, gatherTraits, bind_map_left]

/-- What is gathered is reported and stored, unless gathering fails. -/
theorem on_remembering_of_reads
    {gather : Query α}
    (reads : gather.Reads)
    (event : α → Event)
    (store : α → Container → Container)
    (container : Container) :
    (remembering gather event store).on container =
      match (gather.on container).1 with
      | .ok found =>
          (.ok found,
            store found { container with journal := container.journal ++ [event found] })
      | .error fault => (.error fault, container) := by
  rw [remembering, reads.on_bind]
  cases (gather.on container).1 <;> rfl

theorem on_attributeTable_eq
    (container : Container) :
    attributeTable.on container =
      match container.attributes with
      | some table => (.ok table, container)
      | none =>
          match (gatherAttributes.on container).1 with
          | .ok table =>
              (.ok table, { container with
                attributes := some table
                journal := container.journal ++ [.attributesGathered table.length] })
          | .error fault => (.error fault, container) := by
  cases remembered : container.attributes with
  | some table =>
      rw [attributeTable, on_get_bind, remembered]
      rfl
  | none =>
      rw [on_attributeTable_of_none remembered, on_remembering_of_reads .gatherAttributes]
      cases (gatherAttributes.on container).1 <;> rfl

theorem on_traitTable_eq
    (kind : SingleTrait)
    (container : Container) :
    (traitTable kind).on container =
      match container.traits.find? kind with
      | some table => (.ok table, container)
      | none =>
          match ((gatherTraits kind).on container).1 with
          | .ok table =>
              (.ok table, { container with
                traits := container.traits.bind kind table
                journal := container.journal ++
                  [.traitsGathered kind.spec.name table.length] })
          | .error fault => (.error fault, container) := by
  cases remembered : container.traits.find? kind with
  | some table =>
      rw [traitTable, on_get_bind, remembered]
      rfl
  | none =>
      rw [on_traitTable_of_none remembered, on_remembering_of_reads (.gatherTraits kind)]
      cases ((gatherTraits kind).on container).1 <;> rfl

/-- The attributes of a declaration are looked up in the table. -/
theorem outcome_attributesOf
    (declaration : Value)
    (container : Container) :
    ((attributesOf declaration).on container).1 = do
      let table ← (attributeTable.on container).1
      declaration.requireKey
      return (table.attached? declaration).getD [] := by
  rw [attributesOf, on_bind]
  cases attributeTable.on container with
  | mk outcome after =>
      cases outcome with
      | error fault => rfl
      | ok table => cases declaration.requireKey <;> rfl

/-- A single trait of a declaration is looked up in its table. -/
theorem outcome_traitOf
    (kind : SingleTrait)
    (declaration : Value)
    (container : Container) :
    ((traitOf kind declaration).on container).1 = do
      let table ← ((traitTable kind).on container).1
      declaration.requireKey
      return (table.attached? declaration).getD kind.absent := by
  rw [traitOf, on_bind]
  cases (traitTable kind).on container with
  | mk outcome after =>
      cases outcome with
      | error fault => rfl
      | ok table => cases declaration.requireKey <;> rfl

/-- The attributes that a container without memory answers are those that it gathers. -/
theorem attributeTable_bare
    (container : Container) :
    (attributeTable.on container.bare).1 = (gatherAttributes.on container).1 := by
  rw [on_attributeTable_of_none rfl, on_remembering, Reads.gatherAttributes.forgetful]

theorem traitTable_bare
    (kind : SingleTrait)
    (container : Container) :
    ((traitTable kind).on container.bare).1 = ((gatherTraits kind).on container).1 := by
  rw [on_traitTable_of_none rfl, on_remembering, (Reads.gatherTraits kind).forgetful]

/-- The attributes are gathered at most once. -/
theorem memo_attributes :
    Memo made attributeTable gatherAttributes Container.attributes (fun table container =>
      { container with
        attributes := some table
        journal := container.journal ++ [.attributesGathered table.length] }) where
  on_eq container := by
    rw [on_attributeTable_eq]
    cases container.attributes with
    | some table => rfl
    | none => cases (gatherAttributes.on container).1 <;> rfl
  reads := .gatherAttributes
  tables _ _ := rfl
  blob _ _ _ := rfl
  right container remembers table remembered := by
    rw [← attributeTable_bare]
    exact remembers.attributes table remembered
  kept container remembers table gathered := by
    refine ⟨remembers.located, fun other stored => ?_, remembers.traits⟩
    obtain rfl := Option.some.inj stored
    rw [← attributeTable_bare] at gathered
    exact gathered
  stored _ _ _ := rfl
  grows container table free := by
    refine ⟨fun _ _ kept => kept, fun other kept => ?_, fun _ _ kept => kept⟩
    rw [free] at kept
    contradiction
  retained retains := retains.attributes
  reached retains table remembered :=
    ⟨retains.located, fun _ stored => remembered.trans stored, retains.traits⟩

/-- Every single trait is gathered at most once. -/
theorem memo_traits
    (kind : SingleTrait) :
    Memo made (traitTable kind) (gatherTraits kind) (fun container => container.traits.find? kind)
      (fun table container =>
        { container with
          traits := container.traits.bind kind table
          journal := container.journal ++ [.traitsGathered kind.spec.name table.length] }) where
  on_eq container := by
    rw [on_traitTable_eq]
    cases container.traits.find? kind with
    | some table => rfl
    | none => cases ((gatherTraits kind).on container).1 <;> rfl
  reads := .gatherTraits kind
  tables _ _ := rfl
  blob _ _ _ := rfl
  right container remembers table remembered := by
    rw [← traitTable_bare]
    exact remembers.traits kind table remembered
  kept container remembers table gathered := by
    refine ⟨remembers.located, remembers.attributes, fun other found stored => ?_⟩
    rw [Bindings.find?_bind] at stored
    by_cases asked : kind = other
    · subst asked
      rw [if_pos rfl] at stored
      cases stored
      rw [← traitTable_bare] at gathered
      exact gathered
    · rw [if_neg asked] at stored
      exact remembers.traits other found stored
  stored _ _ _ := by rw [Bindings.find?_bind, if_pos rfl]
  grows container table free := by
    refine ⟨fun _ _ kept => kept, fun _ kept => kept, fun other found kept => ?_⟩
    rw [Bindings.find?_bind, if_neg, kept]
    rintro rfl
    rw [free] at kept
    contradiction
  retained retains := retains.traits kind
  reached retains table remembered := by
    refine ⟨retains.located, retains.attributes, fun other found stored => ?_⟩
    rw [Bindings.find?_bind] at stored
    by_cases asked : kind = other
    · subst asked
      rw [if_pos rfl] at stored
      exact remembered.trans stored
    · rw [if_neg asked] at stored
      exact retains.traits other found stored

end Query
end ModuleInterface

import Mathlib
import ModuleInterface.Proofs.Container.Effects
import ModuleInterface.Proofs.Container.Memory

/-!
# What is remembered lasts

Whatever a container remembers, it remembers for good, and it put it there once: its
journal reports the location of every slot, and the building of every table, exactly once
if they are remembered and never if they are not (`Container.Logged`). Nothing that is
remembered is changed or lost (`Container.Retains`). What is remembered after some effects
is what was remembered before, and what one of the effects achieved
(`Container.filled_applyAll`). Once the table of contents is emptied, no slot is filled any
more, and every table that is gathered is empty (`Container.Remains`).
-/

namespace ModuleInterface

namespace Event

/-- The event reports that a slot was filled. -/
def locates (slot : Nat) : Event → Bool
  | .located _ other _ => other == slot
  | _ => false

/-- The event reports that the attributes were gathered. -/
def gathersAttributes : Event → Bool
  | .attributesGathered _ => true
  | _ => false

/-- The event reports that a single trait was gathered. -/
def gathers (kind : SingleTrait) : Event → Bool
  | .traitsGathered partition _ => partition == kind.spec.name
  | _ => false

end Event

/-- Every trait is gathered from a partition of its own. -/
theorem SingleTrait.spec_name_inj
    {kind other : SingleTrait}
    (same : kind.spec.name = other.spec.name) :
    kind = other := by
  cases kind <;> cases other <;> first | rfl | (revert same; decide)

namespace Container

/-! ## Reported once -/

/-- The journal reports what is remembered once, and nothing else. -/
structure Logged (container : Container) : Prop where
  located : ∀ slot, container.journal.countP (Event.locates slot) =
    (container.located? slot).isSome.toNat
  attributes : container.journal.countP Event.gathersAttributes =
    container.attributes.isSome.toNat
  traits : ∀ kind, container.journal.countP (Event.gathers kind) =
    (container.traits.find? kind).isSome.toNat

variable {container : Container}

/-- An event that reports nothing that is remembered. -/
theorem Logged.report
    (logged : container.Logged)
    {event : Event}
    (located : ∀ slot, event.locates slot = false)
    (attributes : event.gathersAttributes = false)
    (traits : ∀ kind, event.gathers kind = false) :
    Logged { container with journal := container.journal ++ [event] } := by
  refine ⟨fun slot => ?_, ?_, fun kind => ?_⟩
  · rw [List.countP_append, List.countP_singleton, located slot]
    exact logged.located slot
  · rw [List.countP_append, List.countP_singleton, attributes]
    exact logged.attributes
  · rw [List.countP_append, List.countP_singleton, traits kind]
    exact logged.traits kind

theorem Logged.locate
    (logged : container.Logged)
    {slot : Nat}
    (free : container.located? slot = none)
    (location : Location)
    (name : String) :
    Logged { container with
      locations := container.locations.bind slot location
      journal := container.journal ++ [.located name slot location.count] } := by
  refine ⟨fun other => ?_, ?_, fun kind => ?_⟩
  · have earlier := logged.located other
    simp only [List.countP_append, List.countP_singleton, Event.locates, located?,
      Bindings.find?_bind, beq_iff_eq] at earlier free ⊢
    by_cases same : slot = other
    · subst same
      rw [free] at earlier
      simp [earlier]
    · simp [same, earlier]
  · rw [List.countP_append]
    exact logged.attributes
  · rw [List.countP_append]
    exact logged.traits kind

theorem Logged.gatherAttributes
    (logged : container.Logged)
    (free : container.attributes = none)
    (table : AssociationTable (List TaggedIndex)) :
    Logged { container with
      attributes := some table
      journal := container.journal ++ [.attributesGathered table.length] } := by
  refine ⟨fun slot => ?_, ?_, fun kind => ?_⟩
  · rw [List.countP_append]
    exact logged.located slot
  · have earlier := logged.attributes
    rw [free] at earlier
    rw [List.countP_append, earlier]
    rfl
  · rw [List.countP_append]
    exact logged.traits kind

theorem Logged.gatherTraits
    (logged : container.Logged)
    {kind : SingleTrait}
    (free : container.traits.find? kind = none)
    (table : AssociationTable Value) :
    Logged { container with
      traits := container.traits.bind kind table
      journal := container.journal ++ [.traitsGathered kind.spec.name table.length] } := by
  refine ⟨fun slot => ?_, ?_, fun other => ?_⟩
  · rw [List.countP_append]
    exact logged.located slot
  · rw [List.countP_append]
    exact logged.attributes
  · have earlier := logged.traits other
    simp only [List.countP_append, List.countP_singleton, Event.gathers, Bindings.find?_bind,
      beq_iff_eq] at earlier ⊢
    by_cases same : kind = other
    · subst same
      rw [free] at earlier
      simp [earlier]
    · have apart : kind.spec.name ≠ other.spec.name := fun named =>
        same (SingleTrait.spec_name_inj named)
      simp [same, apart, earlier]

/-- Every effect keeps the reports right. -/
theorem Logged.apply
    (logged : container.Logged)
    (effect : Effect) :
    (container.apply effect).Logged := by
  cases effect with
  | partition spec =>
      obtain ⟨made, own⟩ := spec.exists_madeIn
      exact (Query.memo_partition own).on_cases container (motive := fun ran => ran.2.Logged)
        (fun _ _ => logged) (fun _ _ _ => logged)
        fun view free _ => logged.locate (Option.map_eq_none_iff.mp free) _ _
  | attributes =>
      exact (Query.memo_attributes : Query.Memo [] _ _ _ _).on_cases container
        (motive := fun ran => ran.2.Logged) (fun _ _ => logged) (fun _ _ _ => logged)
        fun table free _ => logged.gatherAttributes free table
  | trait kind =>
      exact (Query.memo_traits kind : Query.Memo [] _ _ _ _).on_cases container
        (motive := fun ran => ran.2.Logged) (fun _ _ => logged) (fun _ _ _ => logged)
        fun table free _ => logged.gatherTraits free table
  | importing name => exact logged.report (fun _ => rfl) rfl fun _ => rfl
  | compared agrees => exact logged.report (fun _ => rfl) rfl fun _ => rfl
  | closed => exact ⟨logged.located, logged.attributes, logged.traits⟩
  | emptied => exact ⟨logged.located, logged.attributes, logged.traits⟩

theorem Logged.applyAll
    (logged : container.Logged)
    (effects : List Effect) :
    (container.applyAll effects).Logged := by
  induction effects generalizing container with
  | nil => exact logged
  | cons effect rest inductionHypothesis => exact inductionHypothesis (logged.apply effect)

end Container

/-! ## Remembered for good -/

/-- A place in the memory of a container. -/
inductive Cell
  | slot (slot : Nat)
  | attributes
  | trait (kind : SingleTrait)
  deriving DecidableEq, Repr

/-- The place that an effect fills, if it is answered. -/
def Effect.cell? : Effect → Option Cell
  | .partition spec => some (.slot spec.slot)
  | .attributes => some .attributes
  | .trait kind => some (.trait kind)
  | _ => none

namespace Container

/-- Something is remembered in a place. -/
def Filled (container : Container) : Cell → Prop
  | .slot slot => (container.located? slot).isSome
  | .attributes => container.attributes.isSome
  | .trait kind => (container.traits.find? kind).isSome

/-- What an effect asks for is answered. -/
def Succeeds (container : Container) : Effect → Prop
  | .partition spec => ∃ view, ((Query.partition spec).on container).1 = .ok view
  | .attributes => ∃ table, (Query.attributeTable.on container).1 = .ok table
  | .trait kind => ∃ table, ((Query.traitTable kind).on container).1 = .ok table
  | _ => True

/-- One of some effects is answered when its turn comes. -/
def Achieves (container : Container) (effects : List Effect) (effect : Effect) : Prop :=
  ∃ before after, effects = before ++ effect :: after ∧
    (container.applyAll before).Succeeds effect

theorem not_achieves_nil
    (container : Container)
    (effect : Effect) :
    ¬container.Achieves [] effect := by
  rintro ⟨before, after, split, _⟩
  simp at split

theorem achieves_cons
    (container : Container)
    (first : Effect)
    (rest : List Effect)
    (effect : Effect) :
    container.Achieves (first :: rest) effect ↔
      first = effect ∧ container.Succeeds effect ∨
        (container.apply first).Achieves rest effect := by
  constructor
  · rintro ⟨before, after, split, succeeds⟩
    cases before with
    | nil =>
        cases split
        exact .inl ⟨rfl, succeeds⟩
    | cons head tail =>
        cases split
        exact .inr ⟨tail, after, rfl, succeeds⟩
  · rintro (⟨rfl, succeeds⟩ | ⟨before, after, rfl, succeeds⟩)
    · exact ⟨[], rest, rfl, succeeds⟩
    · exact ⟨first :: before, after, rfl, succeeds⟩

/-- A query that remembers its answer fills its own place if it is answered, and no other. -/
theorem filled_of_memo
    {α : Type}
    {made : List PartitionSpec}
    {query gather : Query α}
    {recalled : Container → Option α}
    {store : α → Container → Container}
    (memo : Query.Memo made query gather recalled store)
    {asked : Cell}
    (recalls : ∀ found, recalled container = some found → container.Filled asked)
    (stores : ∀ found cell,
      (store found container).Filled cell ↔ container.Filled cell ∨ asked = cell)
    (cell : Cell) :
    (query.on container).2.Filled cell ↔
      container.Filled cell ∨ some asked = some cell ∧
        ∃ found, (query.on container).1 = .ok found := by
  rw [Option.some.injEq]
  refine memo.on_cases container (motive := fun ran => ran.2.Filled cell ↔
    container.Filled cell ∨ asked = cell ∧ ∃ found, ran.1 = .ok found) ?_ ?_ ?_
  · intro found remembered
    refine ⟨.inl, ?_⟩
    rintro (filled | ⟨rfl, _⟩)
    · exact filled
    · exact recalls found remembered
  · intro fault _ _
    simp
  · intro found _ _
    simp [stores]

/-- A place is filled after an effect if it was before, or if the effect fills it and is
answered. -/
theorem filled_apply
    (container : Container)
    (effect : Effect)
    (cell : Cell) :
    (container.apply effect).Filled cell ↔
      container.Filled cell ∨ effect.cell? = some cell ∧ container.Succeeds effect := by
  cases effect with
  | partition spec =>
      obtain ⟨made, own⟩ := spec.exists_madeIn
      refine filled_of_memo (Query.memo_partition own) (fun view remembered => ?_) ?_ cell
      · obtain ⟨location, found, _⟩ := Option.map_eq_some_iff.mp remembered
        exact Option.isSome_of_eq_some found
      · intro view cell
        cases cell with
        | slot slot =>
            simp only [Filled, Query.located?_locate]
            by_cases same : spec.slot = slot
            · simp [same]
            · simp [same]
        | attributes => simp [Filled, Query.locate]
        | trait kind => simp [Filled, Query.locate]
  | attributes =>
      refine filled_of_memo (Query.memo_attributes : Query.Memo [] _ _ _ _)
        (fun table => Option.isSome_of_eq_some) (fun table cell => ?_) cell
      cases cell <;> simp [Filled, located?]
  | trait kind =>
      refine filled_of_memo (Query.memo_traits kind : Query.Memo [] _ _ _ _)
        (fun table => Option.isSome_of_eq_some) (fun table cell => ?_) cell
      cases cell with
      | slot slot => simp [Filled, located?]
      | attributes => simp [Filled]
      | trait other =>
          simp only [Filled, Bindings.find?_bind]
          by_cases same : kind = other
          · simp [same]
          · simp [same]
  | importing name => cases cell <;> simp [Filled, apply, Effect.cell?, located?]
  | compared agrees => cases cell <;> simp [Filled, apply, Effect.cell?, located?]
  | closed => cases cell <;> simp [Filled, apply, Effect.cell?, located?]
  | emptied => cases cell <;> simp [Filled, apply, Effect.cell?, located?]

/-- A place is filled after some effects if it was before, or if one of them fills it. -/
theorem filled_applyAll
    (container : Container)
    (effects : List Effect)
    (cell : Cell) :
    (container.applyAll effects).Filled cell ↔
      container.Filled cell ∨
        ∃ effect, effect.cell? = some cell ∧ container.Achieves effects effect := by
  induction effects generalizing container with
  | nil =>
      refine ⟨.inl, ?_⟩
      rintro (filled | ⟨effect, _, achieves⟩)
      · exact filled
      · exact absurd achieves (not_achieves_nil container effect)
  | cons first rest inductionHypothesis =>
      rw [applyAll_cons, inductionHypothesis, filled_apply, or_assoc]
      refine or_congr_right ⟨?_, ?_⟩
      · rintro (⟨fills, succeeds⟩ | ⟨effect, fills, achieves⟩)
        · exact ⟨first, fills, (achieves_cons _ _ _ _).mpr (.inl ⟨rfl, succeeds⟩)⟩
        · exact ⟨effect, fills, (achieves_cons _ _ _ _).mpr (.inr achieves)⟩
      · rintro ⟨effect, fills, achieves⟩
        obtain ⟨rfl, succeeds⟩ | achieves := (achieves_cons _ _ _ _).mp achieves
        · exact .inl ⟨fills, succeeds⟩
        · exact .inr ⟨effect, fills, achieves⟩

/-- An effect fills what is empty, and changes nothing else that is remembered. -/
theorem retains_apply
    (container : Container)
    (effect : Effect) :
    (container.apply effect).Retains container := by
  have unchanged := Retains.refl container
  cases effect with
  | partition spec =>
      obtain ⟨made, own⟩ := spec.exists_madeIn
      exact (Query.memo_partition own).retains container
  | attributes => exact (Query.memo_attributes : Query.Memo [] _ _ _ _).retains container
  | trait kind => exact (Query.memo_traits kind : Query.Memo [] _ _ _ _).retains container
  | importing name => exact { unchanged with }
  | compared agrees => exact { unchanged with }
  | closed => exact { unchanged with }
  | emptied => exact { unchanged with }

theorem retains_applyAll
    (container : Container)
    (effects : List Effect) :
    (container.applyAll effects).Retains container := by
  induction effects generalizing container with
  | nil => exact .refl container
  | cons effect rest inductionHypothesis =>
      exact (inductionHypothesis (container.apply effect)).trans (container.retains_apply effect)

/-! ## Without a table of contents -/

/-- A container has no table of contents any more, and remembers what another one did: the
same slots are filled, the same tables are kept, and those that were gathered since are
empty. -/
structure Remains (container start : Container) : Prop where
  contents : container.contents = []
  located : ∀ slot, container.located? slot = start.located? slot
  attributes : container.attributes = start.attributes ∨
    start.attributes = none ∧ container.attributes = some []
  traits : ∀ kind, container.traits.find? kind = start.traits.find? kind ∨
    start.traits.find? kind = none ∧ container.traits.find? kind = some []

theorem remains_emptied
    (container : Container) :
    (container.apply .emptied).Remains container :=
  ⟨rfl, fun _ => rfl, .inl rfl, fun _ => .inl rfl⟩

theorem requirePartition_of_empty
    {container : Container}
    (empty : container.contents = [])
    (spec : PartitionSpec)
    (name : String) :
    container.requirePartition spec name = .error (.partitionAbsent name) := by
  rw [requirePartition, findPartition, summary?, empty]
  rfl

theorem on_records_of_empty
    {container : Container}
    (empty : container.contents = [])
    (spec : PartitionSpec) :
    ((Query.records spec).on container).1 = .ok [] := by
  rw [Query.records, Query.on_get_bind, findPartition, summary?, empty]
  rfl

theorem on_gatherAttributes_of_empty
    {container : Container}
    (empty : container.contents = []) :
    (Query.gatherAttributes.on container).1 = .ok [] := by
  have none : ∀ specs, ((Query.allRecords specs).on container).1 = .ok [] := by
    intro specs
    induction specs with
    | nil => rfl
    | cons spec rest inductionHypothesis =>
        rw [Query.allRecords, (Query.Reads.records spec).on_bind, on_records_of_empty empty spec]
        change ((Query.allRecords rest >>= fun others => Pure.pure ([] ++ others)).on
          container).1 = _
        rw [(Query.Reads.allRecords rest).on_bind, inductionHypothesis]
        rfl
  rw [Query.gatherAttributes, Query.on_map, none]
  rfl

theorem on_gatherTraits_of_empty
    {container : Container}
    (empty : container.contents = [])
    (kind : SingleTrait) :
    ((Query.gatherTraits kind).on container).1 = .ok [] := by
  rw [Query.gatherTraits, Query.on_map, on_records_of_empty empty]
  rfl

variable {container start : Container}

theorem Remains.apply
    (remains : container.Remains start)
    (effect : Effect) :
    (container.apply effect).Remains start := by
  cases effect with
  | partition spec =>
      rw [Container.apply, Query.on_partition_eq, requirePartition_of_empty remains.contents]
      cases container.located? spec.slot with
      | some location => exact remains
      | none => exact remains
  | attributes =>
      rw [Container.apply, Query.on_attributeTable_eq,
        on_gatherAttributes_of_empty remains.contents]
      cases free : container.attributes with
      | some table => exact remains
      | none =>
          have absent : start.attributes = none := by
            obtain same | ⟨absent, _⟩ := remains.attributes
            · rw [← same, free]
            · exact absent
          exact { remains with attributes := .inr ⟨absent, rfl⟩ }
  | trait kind =>
      rw [Container.apply, Query.on_traitTable_eq,
        on_gatherTraits_of_empty remains.contents]
      cases free : container.traits.find? kind with
      | some table => exact remains
      | none =>
          refine { remains with traits := fun other => ?_ }
          rw [Bindings.find?_bind]
          by_cases same : kind = other
          · subst same
            rw [if_pos rfl]
            obtain same | ⟨absent, _⟩ := remains.traits kind
            · exact .inr ⟨by rw [← same, free], rfl⟩
            · exact .inr ⟨absent, rfl⟩
          · rw [if_neg same]
            exact remains.traits other
  | importing name => exact { remains with }
  | compared agrees => exact { remains with }
  | closed => exact { remains with }
  | emptied => exact { remains with contents := rfl }

theorem Remains.applyAll
    (remains : container.Remains start)
    (effects : List Effect) :
    (container.applyAll effects).Remains start := by
  induction effects generalizing container with
  | nil => exact remains
  | cons effect rest inductionHypothesis => exact inductionHypothesis (remains.apply effect)

/-- A partition whose slot was filled is answered as before, and every other one is
absent. -/
theorem Remains.on_partition
    (remains : container.Remains start)
    (spec : PartitionSpec) :
    (start.Filled (.slot spec.slot) →
      ((Query.partition spec).on container).1 = ((Query.partition spec).on start).1 ∧
        ∃ view, ((Query.partition spec).on container).1 = .ok view) ∧
    (¬start.Filled (.slot spec.slot) →
      ((Query.partition spec).on container).1 = .error (.partitionAbsent spec.name)) := by
  rw [Query.on_partition_eq, Query.on_partition_eq, remains.located, Filled,
    requirePartition_of_empty remains.contents]
  cases start.located? spec.slot with
  | some location => simp
  | none => simp

@[simp] theorem attached?_nil
    {α : Type}
    (key : Value) :
    AssociationTable.attached? ([] : AssociationTable α) key = none := by
  unfold AssociationTable.attached?
  cases key.designation? <;> rfl

theorem on_attributesOf
    {table : AssociationTable (List TaggedIndex)}
    (answered : (Query.attributeTable.on container).1 = .ok table)
    (declaration : Value) :
    ((Query.attributesOf declaration).on container).1 =
      declaration.requireKey.map fun _ => (table.attached? declaration).getD [] := by
  rw [Query.outcome_attributesOf, answered]
  cases declaration.requireKey <;> rfl

theorem on_traitOf
    {kind : SingleTrait}
    {table : AssociationTable Value}
    (answered : ((Query.traitTable kind).on container).1 = .ok table)
    (declaration : Value) :
    ((Query.traitOf kind declaration).on container).1 =
      declaration.requireKey.map fun _ =>
        (table.attached? declaration).getD kind.absent := by
  rw [Query.outcome_traitOf, answered]
  cases declaration.requireKey <;> rfl

/-- The table of attributes is answered as before if it was gathered, and else it is
empty. -/
theorem Remains.on_attributeTable
    (remains : container.Remains start) :
    (Query.attributeTable.on container).1 = .ok (start.attributes.getD []) := by
  rw [Query.on_attributeTable_eq, on_gatherAttributes_of_empty remains.contents]
  obtain same | ⟨absent, empty⟩ := remains.attributes
  · rw [same]
    cases start.attributes <;> rfl
  · rw [absent, empty]
    rfl

theorem Remains.on_traitTable
    (remains : container.Remains start)
    (kind : SingleTrait) :
    ((Query.traitTable kind).on container).1 =
      .ok ((start.traits.find? kind).getD []) := by
  rw [Query.on_traitTable_eq, on_gatherTraits_of_empty remains.contents]
  obtain same | ⟨absent, empty⟩ := remains.traits kind
  · rw [same]
    cases start.traits.find? kind <;> rfl
  · rw [absent, empty]
    rfl

/-- The attributes of a declaration are answered as before if they were gathered, and else
there are none. -/
theorem Remains.on_attributesOf
    (remains : container.Remains start)
    (declaration : Value) :
    (start.Filled .attributes → ((Query.attributesOf declaration).on container).1 =
      ((Query.attributesOf declaration).on start).1) ∧
    (¬start.Filled .attributes → ((Query.attributesOf declaration).on container).1 =
      declaration.requireKey.map fun _ => []) := by
  rw [Container.on_attributesOf remains.on_attributeTable, Filled]
  cases kept : start.attributes with
  | some table =>
      have answered : (Query.attributeTable.on start).1 = .ok table := by
        rw [Query.on_attributeTable_eq, kept]
      rw [Container.on_attributesOf answered]
      simp
  | none => simp

/-- A single trait of a declaration is answered as before if it was gathered, and else it
has none. -/
theorem Remains.on_traitOf
    (remains : container.Remains start)
    (kind : SingleTrait)
    (declaration : Value) :
    (start.Filled (.trait kind) → ((Query.traitOf kind declaration).on container).1 =
      ((Query.traitOf kind declaration).on start).1) ∧
    (¬start.Filled (.trait kind) → ((Query.traitOf kind declaration).on container).1 =
      declaration.requireKey.map fun _ => kind.absent) := by
  rw [Container.on_traitOf (remains.on_traitTable kind), Filled]
  cases kept : start.traits.find? kind with
  | some table =>
      have answered : ((Query.traitTable kind).on start).1 = .ok table := by
        rw [Query.on_traitTable_eq, kept]
      rw [Container.on_traitOf answered]
      simp
  | none => simp

end Container
end ModuleInterface

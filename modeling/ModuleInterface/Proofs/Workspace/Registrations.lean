import Mathlib
import ModuleInterface.Proofs.Registry
import ModuleInterface.Proofs.Workspace.History

/-!
# What sessions do to the registry

Only three kinds of steps touch the registry: those that make a specification, those that
define a record with a place, and those that register a specification that is named. What
such a step does is a registration, which is found before it is carried out
(`Step.registration?`). The specifications that a run makes are listed in order, those that
are refused included; every one stands at the place of its slot in the list, and the list
holds whatever the session can name.
-/

namespace ModuleInterface

/-! ## Registrations -/

/-- What a step does to the registry. -/
inductive Registration
  /-- A specification is made for a place, and registered if asked to. -/
  | create (place : Place) (element : Element) (register : Bool)
  | register (spec : PartitionSpec)
  deriving Repr

namespace Registration

/-- The registry after a registration, whether it is refused or not. -/
def perform (registry : Registry) : Registration → Registry
  | .create place element known => registry.afterCreate place element known
  | .register spec => (registry.register spec).2

/-- The specification that a registration makes. -/
def made? (registry : Registry) : Registration → Option PartitionSpec
  | .create place element _ => some (registry.specFor place element)
  | .register _ => none

end Registration

namespace Session

/-- The place and the element of a specification that is to be made. -/
def placed (place : PlaceName) (element : String) : Session (Place × Element) := do
  let place ← placeNamed place
  let element ← elementNamed element
  return (place, element)

/-- The place and the shape of a record that is to be defined. -/
def recordShape (name : String) (fields : List String) (layout : List CodecName)
    (place : Option PlaceName) : Session (Option Place × Schema) := do
  let named ← shapeCodecs name fields layout
  modify fun workspace => { workspace with records := workspace.records.erase name }
  let place ← place.mapM placeNamed
  let codecs ← ofExcept (named.mapM id)
  let schema ← ofExcept (Schema.compile name fields codecs)
  return (place, schema)

/-- What is left of defining a record, once its place and its shape are known. -/
def bindRecord (name : String) (place : Option Place) (schema : Schema) : Session Schema := do
  let spec ← place.mapM fun place => createSpec place (.record schema) true
  modify fun workspace =>
    { workspace with records := workspace.records.bind name ⟨schema, spec⟩ }
  return schema

theorem defineRecord_eq
    (name : String)
    (fields : List String)
    (layout : List CodecName)
    (place : Option PlaceName) :
    defineRecord name fields layout place =
      (recordShape name fields layout place >>= fun shape =>
        bindRecord name shape.1 shape.2) := by
  simp only [defineRecord, newRecord, recordShape, bindRecord, bind_assoc, pure_bind]

end Session

namespace Step

theorem perform_createSpec
    (place : PlaceName)
    (element : String)
    (register : Bool)
    (binding : String) :
    (createSpec place element register binding).perform =
      (Session.placed place element >>= fun placed =>
        Session.createSpec placed.1 placed.2 register >>= fun spec => do
          modify fun workspace =>
            { workspace with specs := workspace.specs.bind binding spec }
          return Outcome.spec spec) := by
  simp only [perform, Session.placed, bind_assoc, pure_bind]

theorem perform_defineRecord
    (name : String)
    (fields : List String)
    (layout : List CodecName)
    (place : Option PlaceName) :
    (defineRecord name fields layout place).perform =
      (Session.recordShape name fields layout place >>= fun shape =>
        Session.bindRecord name shape.1 shape.2 >>= fun schema =>
          return Outcome.number schema.size) := by
  rw [perform, Session.defineRecord_eq, bind_assoc]

open Session in
/-- What a step does to the registry of a workspace, if it comes that far. -/
def registration? (workspace : Workspace) : Step → Option Registration
  | .createSpec place element register _ =>
      match ((placed place element).on workspace).1 with
      | .ok (place, element) => some (.create place element register)
      | .error _ => none
  | .defineRecord name fields layout place =>
      match ((recordShape name fields layout place).on workspace).1 with
      | .ok (some place, schema) => some (.create place (.record schema) true)
      | _ => none
  | .registerSpec target =>
      match ((specNamed target).on workspace).1 with
      | .ok spec => some (.register spec)
      | .error _ => none
  | _ => none

/-- The specification that a step makes, whether it comes to be known or not. -/
def made? (workspace : Workspace) (step : Step) : Option PartitionSpec :=
  (step.registration? workspace).bind (·.made? workspace.registry)

end Step

namespace Workspace

/-- The specifications that some steps make, in order. -/
def made : Workspace → List Step → List PartitionSpec
  | _, [] => []
  | workspace, step :: rest =>
      (step.made? workspace).toList ++ (workspace.run step).2.1.made rest

/-- The registry after a step. -/
def registryAfter (workspace : Workspace) (step : Step) : Registry :=
  match step.registration? workspace with
  | some registration => registration.perform workspace.registry
  | none => workspace.registry

/-- Whatever a session can name is among the specifications that were made. -/
abbrev Settled (made : List PartitionSpec) (workspace : Workspace) : Prop :=
  Knows made workspace.registry workspace.records workspace.specs

variable {made : List PartitionSpec} {workspace : Workspace}

/-! ## Parts of steps -/

theorem Settled.agrees
    (settled : workspace.Settled made)
    (admits : Registry → Nat → Prop)
    (admitted : admits workspace.registry workspace.containers.size)
    (number : Nat) :
    Agrees (.same admits) number made workspace workspace :=
  .self rfl settled admitted

/-- As long as no slot is taken, nothing is made. -/
theorem Settled.of_agrees
    (settled : workspace.Settled made)
    {later : List PartitionSpec}
    (grown : made <+: later)
    {number : Nat}
    {after : Workspace}
    (agrees : Agrees (.same fun registry _ => registry = workspace.registry) number later
      after after) :
    after.registry = workspace.registry ∧ later = made ∧ after.Settled made := by
  have slots := agrees.knows.slots
  rw [agrees.admitted, ← settled.slots] at slots
  obtain rfl := grown.eq_of_length slots.symm
  exact ⟨agrees.admitted, rfl, agrees.knows⟩

/-- A part of a step that is steady when the registry stays as it is leaves it so. -/
theorem Settled.steady
    (settled : workspace.Settled made)
    {α : Type}
    {promise : Promise α}
    {session : Session α}
    (steady : Session.Steady (.same fun registry _ => registry = workspace.registry) 0 made
      promise session) :
    (session.on workspace).2.registry = workspace.registry ∧
      (session.on workspace).2.Settled made ∧
      ∀ value, (session.on workspace).1 = .ok value → promise made value := by
  obtain ⟨_, later, grown, agrees, promised⟩ :=
    steady made workspace workspace List.prefix_rfl
      (settled.agrees (fun registry _ => registry = workspace.registry) rfl 0)
  obtain ⟨kept, rfl, settledAfter⟩ := settled.of_agrees grown agrees
  exact ⟨kept, settledAfter, promised⟩

theorem steady_placed
    {likeness : Likeness}
    {number : Nat}
    (place : PlaceName)
    (element : String) :
    Session.Steady likeness number made .nothing (Session.placed place element) :=
  (Session.Steady.placeNamed place).bind fun _ _ _ _ =>
    (Session.Steady.elementNamed element).bind fun _ _ _ _ => .pure fun _ _ => trivial

theorem steady_recordShape
    {likeness : Likeness}
    {number : Nat}
    (name : String)
    (fields : List String)
    (layout : List CodecName)
    (place : Option PlaceName) :
    Session.Steady likeness number made .nothing
      (Session.recordShape name fields layout place) := by
  refine (Session.Steady.shapeCodecs name fields layout).bind fun _ named _ _ => ?_
  refine (Session.Steady.change fun made _ _ _ agrees => ⟨made, List.prefix_rfl, ?_⟩).bind
    fun _ _ _ _ => ?_
  · exact { agrees with
      records := by rw [agrees.records]
      knows := agrees.knows.eraseRecord name }
  refine (Session.Steady.optionMapM Session.Steady.placeNamed place).bind fun _ _ _ _ => ?_
  exact (Session.Steady.plain _).bind fun _ _ _ _ => (Session.Steady.plain _).bind
    fun _ _ _ _ => .pure fun _ _ => trivial

/-- A specification that is made stands after all others. -/
theorem Settled.createSpec
    (settled : workspace.Settled made)
    (place : Place)
    (element : Element)
    (register : Bool) :
    ((Session.createSpec place element register).on workspace).2.registry =
        workspace.registry.afterCreate place element register ∧
      ((Session.createSpec place element register).on workspace).2.Settled
        (made ++ [workspace.registry.specFor place element]) ∧
      (workspace.registry.specFor place element).MadeIn
        (made ++ [workspace.registry.specFor place element]) ∧
      ∀ spec, ((Session.createSpec place element register).on workspace).1 = .ok spec →
        spec = workspace.registry.specFor place element := by
  obtain ⟨own, knows⟩ := settled.create (workspace.registry.slot_specFor place element)
  rw [Session.on_createSpec]
  cases register with
  | false => exact ⟨rfl, knows, own, fun spec answered => (Except.ok.inj answered).symm⟩
  | true =>
      refine ⟨rfl, knows.register own, own, fun spec answered => ?_⟩
      obtain ⟨_, _, rfl⟩ := Fallible.map_eq_ok.mp answered
      rfl

/-! ## Steps -/

theorem registration?_of_not_registers
    {step : Step}
    (apart : step.registers = false)
    (workspace : Workspace) :
    step.registration? workspace = none := by
  cases step with
  | defineRecord name fields layout place => contradiction
  | createSpec place element register binding => contradiction
  | registerSpec target => contradiction
  | _ => rfl

/-- What is known after a step: the registry is what the registration of the step makes of
it, and whatever can be named was made, by this step or before. -/
def Settles (workspace : Workspace) (made : List PartitionSpec) (step : Step) : Prop :=
  (step.perform.on workspace).2.registry = workspace.registryAfter step ∧
    (step.perform.on workspace).2.Settled (made ++ (step.made? workspace).toList)

theorem Settled.registerSpec
    (settled : workspace.Settled made)
    (target : TargetName) :
    workspace.Settles made (.registerSpec target) := by
  obtain ⟨kept, settledAfter, own⟩ :=
    settled.steady (Session.Steady.specNamed settled.catalogue target)
  rw [Settles, Step.perform, Session.on_bind, registryAfter, Step.made?, Step.registration?]
  generalize (Session.specNamed target).on workspace = ran at kept settledAfter own
  obtain ⟨outcome, after⟩ := ran
  cases outcome with
  | error fault => simpa using ⟨kept, settledAfter⟩
  | ok spec =>
      change ((Session.registered spec).on after).2.registry = _ ∧
        ((Session.registered spec).on after).2.Settled _
      rw [Session.on_registered]
      have known : Settled made { after with registry := (after.registry.register spec).2 } :=
        settledAfter.register (own spec rfl)
      refine ⟨congrArg (fun registry => (registry.register spec).2) kept, ?_⟩
      simpa [Registration.made?] using known

theorem Settled.createSpecNamed
    (settled : workspace.Settled made)
    (place : PlaceName)
    (element : String)
    (register : Bool)
    (binding : String) :
    workspace.Settles made (.createSpec place element register binding) := by
  obtain ⟨kept, settledAfter, _⟩ := settled.steady (steady_placed place element)
  rw [Settles, Step.perform_createSpec, Session.on_bind, registryAfter, Step.made?, Step.registration?]
  generalize (Session.placed place element).on workspace = ran at kept settledAfter
  obtain ⟨outcome, after⟩ := ran
  cases outcome with
  | error fault => simpa using ⟨kept, settledAfter⟩
  | ok placed =>
      obtain ⟨place, element⟩ := placed
      obtain ⟨registry, knows, own, answered⟩ :=
        settledAfter.createSpec place element register
      rw [kept] at registry knows own answered
      simp only [Option.bind_some, Registration.made?, Option.toList_some,
        Registration.perform]
      rw [Session.on_bind]
      generalize (Session.createSpec place element register).on after = ranCreate
        at registry knows answered
      obtain ⟨outcome, last⟩ := ranCreate
      cases outcome with
      | error fault => exact ⟨registry, knows⟩
      | ok spec =>
          obtain rfl := answered spec rfl
          exact ⟨registry, knows.bindSpec own binding⟩

theorem Settled.defineRecord
    (settled : workspace.Settled made)
    (name : String)
    (fields : List String)
    (layout : List CodecName)
    (place : Option PlaceName) :
    workspace.Settles made (.defineRecord name fields layout place) := by
  obtain ⟨kept, settledAfter, _⟩ :=
    settled.steady (steady_recordShape name fields layout place)
  rw [Settles, Step.perform_defineRecord, Session.on_bind, registryAfter, Step.made?,
    Step.registration?]
  generalize (Session.recordShape name fields layout place).on workspace = ran
    at kept settledAfter
  obtain ⟨outcome, after⟩ := ran
  cases outcome with
  | error fault => simpa using ⟨kept, settledAfter⟩
  | ok shape =>
      obtain ⟨place, schema⟩ := shape
      cases place with
      | none =>
          have own : KnownRecord.MadeIn ⟨schema, none⟩ made := fun _ absent => by contradiction
          simpa using ⟨kept, settledAfter.bindRecord own name⟩
      | some place =>
          obtain ⟨registry, knows, own, answered⟩ :=
            settledAfter.createSpec place (.record schema) true
          rw [kept] at registry knows own answered
          simp only [Option.bind_some, Registration.made?, Option.toList_some,
            Registration.perform]
          rw [Session.bindRecord, Option.mapM_some, bind_assoc, bind_map_left, Session.on_bind]
          generalize (Session.createSpec place (.record schema) true).on after = ranCreate
            at registry knows answered
          obtain ⟨outcome, last⟩ := ranCreate
          cases outcome with
          | error fault => exact ⟨registry, knows⟩
          | ok spec =>
              obtain rfl := answered spec rfl
              refine ⟨registry, knows.bindRecord (fun other same => ?_) name⟩
              cases same
              exact own

theorem Settled.perform
    (settled : workspace.Settled made)
    (step : Step) :
    workspace.Settles made step := by
  cases registers : step.registers with
  | false =>
      obtain ⟨_, later, grown, agrees⟩ :=
        (settled.agrees (fun registry _ => registry = workspace.registry) rfl 0).perform
          Likeness.persists_same (.inl registers) (.inr fun _ _ admitted => admitted)
          (.inr Likeness.answers_same)
      obtain ⟨kept, _, settledAfter⟩ := settled.of_agrees grown agrees
      rw [Settles, registryAfter, Step.made?, registration?_of_not_registers registers]
      simp only [Option.bind_none, Option.toList_none, List.append_nil]
      exact ⟨kept, settledAfter⟩
  | true =>
      cases step with
      | defineRecord name fields layout place =>
          exact settled.defineRecord name fields layout place
      | createSpec place element register binding =>
          exact settled.createSpecNamed place element register binding
      | registerSpec target => exact settled.registerSpec target
      | _ => contradiction

/-! ## Runs -/

theorem Settled.run
    (settled : workspace.Settled made)
    (step : Step) :
    (workspace.run step).2.1.registry = workspace.registryAfter step ∧
      (workspace.run step).2.1.Settled (made ++ (step.made? workspace).toList) :=
  settled.perform step

/-- A step that registers a specification registers one that was made. -/
theorem Settled.own_of_registration?
    (settled : workspace.Settled made)
    {step : Step}
    {spec : PartitionSpec}
    (registers : step.registration? workspace = some (.register spec)) :
    spec.MadeIn made := by
  cases step with
  | defineRecord name fields layout place =>
      rw [Step.registration?] at registers
      split at registers <;> cases registers
  | createSpec place element register binding =>
      rw [Step.registration?] at registers
      split at registers <;> cases registers
  | registerSpec target =>
      rw [Step.registration?] at registers
      obtain ⟨_, _, own⟩ := settled.steady (Session.Steady.specNamed settled.catalogue target)
      split at registers
      next answered =>
        cases registers
        exact own spec answered
      next => contradiction
  | _ => contradiction

/-- A step keeps the registry consistent and replaces nothing in it. -/
theorem Settled.consistent
    (settled : workspace.Settled made)
    (consistent : workspace.registry.Consistent)
    (step : Step) :
    (workspace.registryAfter step).Consistent ∧
      (workspace.registryAfter step).Extends workspace.registry := by
  rw [registryAfter]
  cases registers : step.registration? workspace with
  | none => exact ⟨consistent, .refl _⟩
  | some registration =>
      cases registration with
      | register spec =>
          exact consistent.register (settled.own_of_registration? registers) settled.named
      | create place element register =>
          have advanced : workspace.registry.advanced.Consistent :=
            ⟨consistent.names, consistent.sorts, consistent.owned⟩
          have grown : workspace.registry.advanced.Extends workspace.registry :=
            ⟨List.prefix_rfl, List.prefix_rfl⟩
          cases register with
          | false => exact ⟨advanced, grown⟩
          | true =>
              obtain ⟨own, knows⟩ :=
                settled.create (workspace.registry.slot_specFor place element)
              obtain ⟨consistentAfter, grownAfter⟩ := advanced.register own knows.named
              exact ⟨consistentAfter, grownAfter.trans grown⟩

/-- What a run makes stands after what was made before, whatever can be named was made, and
the registry stays consistent and replaces nothing. -/
theorem Settled.after
    (settled : workspace.Settled made)
    (consistent : workspace.registry.Consistent)
    (steps : List Step) :
    (workspace.after steps).Settled (made ++ workspace.made steps) ∧
      (workspace.after steps).registry.Consistent ∧
      (workspace.after steps).registry.Extends workspace.registry := by
  induction steps generalizing made workspace with
  | nil => exact ⟨(List.append_nil made).symm ▸ settled, consistent, .refl _⟩
  | cons step rest inductionHypothesis =>
      obtain ⟨registry, settledNext⟩ := settled.run step
      obtain ⟨consistentNext, grown⟩ := settled.consistent consistent step
      rw [← registry] at consistentNext grown
      obtain ⟨settledLast, consistentLast, grownLast⟩ :=
        inductionHypothesis settledNext consistentNext
      rw [List.append_assoc] at settledLast
      exact ⟨settledLast, consistentLast, grownLast.trans grown⟩

/-- What a run makes takes the slots from the next one on. -/
theorem Settled.slots_made
    (settled : workspace.Settled made)
    (steps : List Step) :
    (workspace.made steps).map PartitionSpec.slot =
      List.range' made.length (workspace.made steps).length := by
  induction steps generalizing made workspace with
  | nil => rfl
  | cons step rest inductionHypothesis =>
      have others := inductionHypothesis (settled.run step).2
      rw [Workspace.made, List.map_append, List.length_append, others]
      cases makes : step.made? workspace with
      | none => simp
      | some spec =>
          have slot : spec.slot = made.length := by
            obtain ⟨registration, _, makes⟩ := Option.bind_eq_some_iff.mp makes
            cases registration with
            | register other => contradiction
            | create place element register =>
                cases makes
                exact settled.slots.symm
          simp [slot, List.range'_succ, Nat.add_comm 1]

/-- The specifications of the catalogue have the first slots, in order. -/
theorem slots_catalogue :
    Catalogue.specs.map PartitionSpec.slot = List.range' 0 Catalogue.specs.length := by
  simp [Catalogue.specs, Catalogue.Entry.spec, Function.comp_def, List.zipIdx_map_snd]

/-- The registry that a session starts with is consistent. -/
theorem consistent_initial : initial.registry.Consistent := by
  have names : (initial.registry.named.map PartitionSpec.name).Nodup := by decide +kernel
  have kept : ∀ spec ∈ initial.registry.sorted,
      spec ∈ initial.registry.named ∧ spec.sort.isSome := fun spec member =>
    List.mem_filter.mp member
  exact ⟨names, fun spec member => (kept spec member).2, fun spec member =>
    Registry.forName?_of_mem names (kept spec member).1⟩

/-- Whatever a session can name was made. -/
theorem settled_after
    (steps : List Step) :
    (initial.after steps).Settled (Catalogue.specs ++ initial.made steps) :=
  (Settled.after knows_initial consistent_initial steps).1

/-- The specifications that were made have the slots in order. -/
theorem slots_after
    (steps : List Step) :
    (Catalogue.specs ++ initial.made steps).map PartitionSpec.slot =
      List.range (Catalogue.specs ++ initial.made steps).length := by
  have start : initial.Settled Catalogue.specs := knows_initial
  rw [List.map_append, start.slots_made, List.length_append, List.range_eq_range',
    List.range'_append_1.symm, slots_catalogue]
  simp

/-- Whatever a session does, with any of its steps failing: no two registered specifications
share a name; what an index kind and a sort stand for has this index kind and this sort, and
is what its own name stands for; of all specifications that were ever made, those that were
never registered or were refused included, no two have the same slot, there is one for every
slot that was given out, and whatever is registered or can be named is among them; the
registered specifications are listed in the strict order of their slots, and the count of
slots exceeds every one of them; and no later step changes what a registered name, or a
registered pair of index kind and sort, stands for. -/
theorem registry_consistent
    (steps : List Step) :
    ((initial.after steps).registry.named.map PartitionSpec.name).Nodup ∧
    (∀ kind sort spec, (initial.after steps).registry.forSort? kind sort = some spec →
      spec.indexKind = kind ∧ spec.sort = some sort ∧
        (initial.after steps).registry.forName? spec.name = some spec) ∧
    (∀ spec ∈ (initial.after steps).registry.sorted, ∃ sort, spec.sort = some sort ∧
      (initial.after steps).registry.forSort? spec.indexKind sort = some spec) ∧
    ((Catalogue.specs ++ initial.made steps).map PartitionSpec.slot).Nodup ∧
    (initial.after steps).registry.nextSlot =
      (Catalogue.specs ++ initial.made steps).length ∧
    (∀ spec ∈ (initial.after steps).registry.named,
      spec ∈ Catalogue.specs ++ initial.made steps) ∧
    (∀ target spec, ((Session.specNamed target).on (initial.after steps)).1 = .ok spec →
      spec ∈ Catalogue.specs ++ initial.made steps) ∧
    (initial.after steps).registry.bySlot.Perm (initial.after steps).registry.named ∧
    ((initial.after steps).registry.bySlot.Pairwise fun left right => left.slot < right.slot) ∧
    (∀ spec ∈ (initial.after steps).registry.named,
      spec.slot < (initial.after steps).registry.slotCount) ∧
    ∀ later,
      (∀ name spec, (initial.after steps).registry.forName? name = some spec →
        ((initial.after steps).after later).registry.forName? name = some spec) ∧
      ∀ kind sort spec, (initial.after steps).registry.forSort? kind sort = some spec →
        ((initial.after steps).after later).registry.forSort? kind sort = some spec := by
  have start : initial.Settled Catalogue.specs := knows_initial
  obtain ⟨settled, consistent, _⟩ := start.after consistent_initial steps
  have mem : ∀ spec : PartitionSpec, spec.MadeIn (Catalogue.specs ++ initial.made steps) →
      spec ∈ Catalogue.specs ++ initial.made steps := fun _ own => List.mem_of_getElem? own
  refine ⟨consistent.names, ?_, ?_, ?_, settled.slots.symm,
    fun spec member => mem spec (settled.named spec member), ?_, Registry.perm_bySlot _,
    Registry.pairwise_bySlot (consistent.slots settled.named),
    fun _ => Registry.slot_lt_slotCount, ?_⟩
  · intro kind sort spec found
    have holds := List.find?_some found
    rw [decide_eq_true_iff] at holds
    exact ⟨holds.1, holds.2, consistent.owned spec (List.mem_of_find?_eq_some found)⟩
  · intro spec member
    obtain ⟨sort, sorted⟩ := Option.isSome_iff_exists.mp (consistent.sorts spec member)
    exact ⟨sort, sorted, settled.unambiguous.forSort?_of_mem member sorted⟩
  · rw [slots_after]
    exact List.nodup_range
  · intro target spec named
    obtain ⟨_, _, own⟩ := settled.steady (Session.Steady.specNamed settled.catalogue target)
    exact mem spec (own spec named)
  · intro later
    obtain ⟨_, _, grown⟩ := settled.after consistent later
    exact ⟨fun _ _ => grown.forName?_eq, fun _ _ _ => grown.forSort?_eq⟩

end Workspace
end ModuleInterface

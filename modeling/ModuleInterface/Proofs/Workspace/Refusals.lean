import Mathlib
import ModuleInterface.Proofs.Workspace.Registrations

/-!
# Registrations that are refused

A specification is refused when its name belongs to another one, or when its sort does. The
name is judged before anything is written, the sort after the name has been written: a
specification whose name is new and whose sort is taken is refused and stays known by its
name (`Registry.refusal_of_register`). So a refused registration changes no answer of the
registry exactly when the name was known before it (`Workspace.refused_registration`).
-/

namespace ModuleInterface
namespace Registry

/-- The name of a specification belongs to another one. -/
def NameTaken (registry : Registry) (spec : PartitionSpec) : Prop :=
  ∃ holder, registry.forName? spec.name = some holder ∧ holder.slot ≠ spec.slot

/-- A sort of a specification belongs to another one. -/
def SortTaken (registry : Registry) (spec : PartitionSpec) (sort : Nat)
    (holder : PartitionSpec) : Prop :=
  spec.sort = some sort ∧ registry.forSort? spec.indexKind sort = some holder ∧
    holder.slot ≠ spec.slot

/-- The registry once a specification is known by its name, if the name is new. -/
def withName (registry : Registry) (spec : PartitionSpec) : Registry :=
  if (registry.forName? spec.name).isSome then registry
  else { registry with named := registry.named ++ [spec] }

/-- Two registries give the same answers. -/
structure AnswersLike (registry other : Registry) : Prop where
  names : ∀ name, registry.forName? name = other.forName? name
  sorts : ∀ kind sort, registry.forSort? kind sort = other.forSort? kind sort
  registered : registry.bySlot = other.bySlot
  slots : registry.slotCount = other.slotCount

theorem AnswersLike.refl
    (registry : Registry) :
    registry.AnswersLike registry :=
  ⟨fun _ => rfl, fun _ _ => rfl, rfl, rfl⟩

/-- What the refusal of a specification leaves of a registry. -/
structure Refusal (registry : Registry) (spec : PartitionSpec) (fault : Fault)
    (after : Registry) : Prop where
  cause : (registry.NameTaken spec ∧ fault = .nameTaken spec.name) ∨
    ¬registry.NameTaken spec ∧ ∃ sort holder, registry.SortTaken spec sort holder ∧
      fault = .sortTaken spec.indexKind.label (PartitionSpec.describeSort spec.indexKind sort)
        holder.name
  /-- No answer is another one exactly when the name was known. -/
  silent : after.AnswersLike registry ↔ (registry.forName? spec.name).isSome
  sorts : ∀ kind sort, after.forSort? kind sort = registry.forSort? kind sort
  names : ∀ name, name ≠ spec.name → after.forName? name = registry.forName? name
  /-- A name that was new is kept. -/
  added : registry.forName? spec.name = none →
    after.forName? spec.name = some spec ∧ after.bySlot.Perm (spec :: registry.bySlot) ∧
      after.slotCount = max registry.slotCount (spec.slot + 1)

section Registering

variable {registry : Registry} {spec : PartitionSpec}

theorem withName_of_known
    (known : (registry.forName? spec.name).isSome) :
    registry.withName spec = registry :=
  if_pos known

theorem withName_of_new
    (new : registry.forName? spec.name = none) :
    registry.withName spec = { registry with named := registry.named ++ [spec] } := by
  rw [withName, new]
  rfl

theorem sorted_withName :
    (registry.withName spec).sorted = registry.sorted := by
  unfold withName
  split
  · rfl
  · rfl

theorem registerName_of_not_nameTaken
    (free : ¬registry.NameTaken spec) :
    registry.registerName spec = .ok (registry.withName spec) := by
  rw [registerName]
  cases found : registry.forName? spec.name with
  | none => rw [withName_of_new found]
  | some holder =>
      have own : holder.slot = spec.slot :=
        by_contra fun other => free ⟨holder, found, other⟩
      rw [withName_of_known (Option.isSome_of_eq_some found)]
      exact if_pos own

/-- A taken name is refused before anything is written. -/
theorem register_of_nameTaken
    (taken : registry.NameTaken spec) :
    registry.register spec = (.error (.nameTaken spec.name), registry) := by
  obtain ⟨holder, found, other⟩ := taken
  have refused : registry.registerName spec = .error (.nameTaken spec.name) := by
    rw [registerName, found]
    exact if_neg other
  rw [register, refused]

/-- A taken sort is refused after the name has been written. -/
theorem register_of_sortTaken
    (free : ¬registry.NameTaken spec)
    {sort : Nat}
    {holder : PartitionSpec}
    (taken : registry.SortTaken spec sort holder) :
    registry.register spec =
      (.error (.sortTaken spec.indexKind.label
        (PartitionSpec.describeSort spec.indexKind sort) holder.name),
        registry.withName spec) := by
  have held : (registry.withName spec).forSort? spec.indexKind sort = some holder := by
    rw [forSort?, sorted_withName]
    exact taken.2.1
  have refused : (registry.withName spec).registerSort spec =
      .error (.sortTaken spec.indexKind.label
        (PartitionSpec.describeSort spec.indexKind sort) holder.name) := by
    rw [registerSort, taken.1]
    simp only [held]
    exact if_neg taken.2.2
  rw [register, registerName_of_not_nameTaken free]
  simp only [refused]

/-- Nothing else is refused. -/
theorem register_of_free
    (free : ¬registry.NameTaken spec)
    (unsorted : ∀ sort holder, ¬registry.SortTaken spec sort holder) :
    (registry.register spec).1 = .ok () := by
  have accepted : ∃ complete, (registry.withName spec).registerSort spec = .ok complete := by
    rw [registerSort]
    cases sorted : spec.sort with
    | none => exact ⟨_, rfl⟩
    | some sort =>
        have same : (registry.withName spec).forSort? spec.indexKind sort =
            registry.forSort? spec.indexKind sort := by
          rw [forSort?, sorted_withName, forSort?]
        cases held : registry.forSort? spec.indexKind sort with
        | none => simp [same, held]
        | some holder =>
            have own : holder.slot = spec.slot :=
              by_contra fun other => unsorted sort holder ⟨sorted, held, other⟩
            simp [same, held, own]
  obtain ⟨complete, accepted⟩ := accepted
  rw [register, registerName_of_not_nameTaken free]
  simp only [accepted]

/-- A new name adds a specification and changes nothing else. -/
theorem names_withName_of_new
    (new : registry.forName? spec.name = none) :
    (registry.withName spec).forName? spec.name = some spec ∧
      (∀ name, name ≠ spec.name →
        (registry.withName spec).forName? name = registry.forName? name) ∧
      (registry.withName spec).bySlot.Perm (spec :: registry.bySlot) ∧
      (registry.withName spec).slotCount = max registry.slotCount (spec.slot + 1) := by
  rw [withName_of_new new]
  refine ⟨?_, ?_, ?_, ?_⟩
  · have absent : registry.named.find? (fun other => other.name = spec.name) = none := new
    simp [forName?, absent]
  · intro name different
    have passed : [spec].find? (fun other => other.name = name) = none := by
      simpa using Ne.symm different
    rw [forName?, List.find?_append, passed, Option.or_none, forName?]
  · refine (perm_bySlot _).trans ((List.perm_append_singleton spec registry.named).trans ?_)
    exact (perm_bySlot registry).symm.cons spec
  · simp [slotCount]

/-- To write the name of a specification changes no answer when the name was known. -/
theorem withName_answersLike_iff :
    (registry.withName spec).AnswersLike registry ↔ (registry.forName? spec.name).isSome := by
  constructor
  · intro alike
    by_contra unknown
    rw [Option.not_isSome_iff_eq_none] at unknown
    have added := (names_withName_of_new unknown).1
    rw [alike.names, unknown] at added
    contradiction
  · intro known
    rw [withName_of_known known]
    exact .refl registry

/-- A refused specification changes no answer when its name was known, and is known by its
name afterwards when it was not. -/
theorem refusal_of_register
    {fault : Fault}
    (refused : (registry.register spec).1 = .error fault) :
    registry.Refusal spec fault (registry.register spec).2 := by
  -- The name is judged first, so the sort decides only where the name is free.
  by_cases nameTaken : registry.NameTaken spec
  · rw [register_of_nameTaken nameTaken] at refused ⊢
    cases refused
    obtain ⟨holder, found, other⟩ := id nameTaken
    refine ⟨.inl ⟨nameTaken, rfl⟩, iff_of_true (.refl registry) (Option.isSome_of_eq_some found),
      fun _ _ => rfl, fun _ _ => rfl, fun new => ?_⟩
    rw [new] at found
    contradiction
  · obtain ⟨sort, holder, sortTaken⟩ :
        ∃ sort holder, registry.SortTaken spec sort holder := by
      by_contra free
      simp only [not_exists] at free
      rw [register_of_free nameTaken free] at refused
      contradiction
    rw [register_of_sortTaken nameTaken sortTaken] at refused ⊢
    cases refused
    refine ⟨.inr ⟨nameTaken, sort, holder, sortTaken, rfl⟩, withName_answersLike_iff,
      fun kind other => ?_, fun name different => ?_, fun new => ?_⟩
    · rw [forSort?, sorted_withName, forSort?]
    · cases found : registry.forName? spec.name with
      | none => exact (names_withName_of_new found).2.1 name different
      | some known => rw [withName_of_known (Option.isSome_of_eq_some found)]
    · obtain ⟨named, _, registered, slots⟩ := names_withName_of_new new
      exact ⟨named, registered, slots⟩

end Registering
end Registry

/-! ## Steps -/

namespace Registration

/-- The outcome of a registration. -/
def outcome (registry : Registry) : Registration → Except Fault Unit
  | .create place element true =>
      (registry.advanced.register (registry.specFor place element)).1
  | .create _ _ false => .ok ()
  | .register spec => (registry.register spec).1

/-- The specification that a registration is about. -/
def spec (registry : Registry) : Registration → PartitionSpec
  | .create place element _ => registry.specFor place element
  | .register spec => spec

/-- Taking a slot matters to no refusal. -/
theorem refusal_of_outcome
    {registry : Registry}
    {registration : Registration}
    {fault : Fault}
    (refused : registration.outcome registry = .error fault) :
    registry.Refusal (registration.spec registry) fault (registration.perform registry) := by
  cases registration with
  | register spec => exact Registry.refusal_of_register refused
  | create place element known =>
      cases known with
      | false => contradiction
      | true =>
          have refusal := Registry.refusal_of_register refused
          refine ⟨refusal.cause, Iff.trans ?_ refusal.silent, refusal.sorts, refusal.names,
            refusal.added⟩
          exact ⟨fun alike => ⟨alike.names, alike.sorts, alike.registered, alike.slots⟩,
            fun alike => ⟨alike.names, alike.sorts, alike.registered, alike.slots⟩⟩

end Registration

namespace Workspace

variable {made : List PartitionSpec} {workspace : Workspace}

theorem on_bind_of_error
    {α β : Type}
    {first : Session α}
    {fault : Fault}
    (failed : (first.on workspace).1 = .error fault)
    (next : α → Session β) :
    ((first >>= next).on workspace).1 = .error fault := by
  rw [Session.on_bind]
  generalize first.on workspace = ran at failed
  obtain ⟨outcome, after⟩ := ran
  cases failed
  rfl

/-- A specification that is refused is given to nobody. -/
theorem createSpec_of_refused
    {place : Place}
    {element : Element}
    {register : Bool}
    {fault : Fault}
    (refused : (Registration.create place element register).outcome workspace.registry =
      .error fault) :
    ((Session.createSpec place element register).on workspace).1 = .error fault := by
  rw [Session.on_createSpec]
  cases register with
  | false => contradiction
  | true => exact congrArg (Except.map fun _ => workspace.registry.specFor place element) refused

theorem Settled.registerSpec_of_refused
    (settled : workspace.Settled made)
    {target : TargetName}
    {registration : Registration}
    (registers : (Step.registerSpec target).registration? workspace = some registration)
    {fault : Fault}
    (refused : registration.outcome workspace.registry = .error fault) :
    ((Step.registerSpec target).perform.on workspace).1 = .error fault := by
  obtain ⟨kept, _, _⟩ := settled.steady (Session.Steady.specNamed settled.catalogue target)
  rw [Step.registration?] at registers
  rw [Step.perform, Session.on_bind]
  generalize (Session.specNamed target).on workspace = ran at kept registers
  obtain ⟨outcome, after⟩ := ran
  cases outcome with
  | error unnamed => contradiction
  | ok spec =>
      cases registers
      change ((Session.registered spec).on after).1 = .error fault
      rw [Session.on_registered, kept]
      exact congrArg (Except.map fun _ => Outcome.spec spec) refused

theorem Settled.createSpecNamed_of_refused
    (settled : workspace.Settled made)
    {place : PlaceName}
    {element : String}
    {register : Bool}
    {binding : String}
    {registration : Registration}
    (registers : (Step.createSpec place element register binding).registration? workspace =
      some registration)
    {fault : Fault}
    (refused : registration.outcome workspace.registry = .error fault) :
    ((Step.createSpec place element register binding).perform.on workspace).1 =
      .error fault := by
  obtain ⟨kept, _, _⟩ := settled.steady (steady_placed place element)
  rw [Step.registration?] at registers
  rw [Step.perform_createSpec, Session.on_bind]
  generalize (Session.placed place element).on workspace = ran at kept registers
  obtain ⟨outcome, after⟩ := ran
  cases outcome with
  | error unplaced => contradiction
  | ok placed =>
      cases registers
      rw [← kept] at refused
      exact on_bind_of_error (createSpec_of_refused refused) _

theorem Settled.defineRecord_of_refused
    (settled : workspace.Settled made)
    {name : String}
    {fields : List String}
    {layout : List CodecName}
    {place : Option PlaceName}
    {registration : Registration}
    (registers : (Step.defineRecord name fields layout place).registration? workspace =
      some registration)
    {fault : Fault}
    (refused : registration.outcome workspace.registry = .error fault) :
    ((Step.defineRecord name fields layout place).perform.on workspace).1 = .error fault := by
  obtain ⟨kept, _, _⟩ := settled.steady (steady_recordShape name fields layout place)
  rw [Step.registration?] at registers
  rw [Step.perform_defineRecord, Session.on_bind]
  generalize (Session.recordShape name fields layout place).on workspace = ran
    at kept registers
  obtain ⟨outcome, after⟩ := ran
  cases outcome with
  | error shapeless => contradiction
  | ok shape =>
      obtain ⟨place, schema⟩ := shape
      cases place with
      | none => contradiction
      | some place =>
          cases registers
          rw [← kept] at refused
          refine on_bind_of_error ?_ _
          rw [Session.bindRecord, Option.mapM_some, bind_map_left]
          exact on_bind_of_error (createSpec_of_refused refused) _

/-- A step fails with the fault that its registration is refused with. -/
theorem Settled.perform_of_refused
    (settled : workspace.Settled made)
    {step : Step}
    {registration : Registration}
    (registers : step.registration? workspace = some registration)
    {fault : Fault}
    (refused : registration.outcome workspace.registry = .error fault) :
    (step.perform.on workspace).1 = .error fault := by
  cases step with
  | defineRecord name fields layout place =>
      exact settled.defineRecord_of_refused registers refused
  | createSpec place element register binding =>
      exact settled.createSpecNamed_of_refused registers refused
  | registerSpec target => exact settled.registerSpec_of_refused registers refused
  | _ => contradiction

/-- Whatever a session did before: when a specification is refused, because its name or its
sort belongs to another one, the step fails with this fault. No answer of the registry is
another one than before exactly when the name was known before. When it was new, which is so
only for a sort that is taken, the specification is known by its name afterwards and counts
among the registered ones, while every other name, every index kind and sort stand for what
they stood for. The only other thing that changes is the next slot, by one for a specification
that was made for the registration. -/
theorem refused_registration
    {steps : List Step}
    {step : Step}
    {registration : Registration}
    (registers : step.registration? (initial.after steps) = some registration)
    {fault : Fault}
    (refused : registration.outcome (initial.after steps).registry = .error fault) :
    ((initial.after steps).run step).1 = .error fault ∧
      fault.kind = .badValue ∧
      (initial.after steps).registry.Refusal
        (registration.spec (initial.after steps).registry)
        fault
        ((initial.after steps).run step).2.1.registry ∧
      ((initial.after steps).run step).2.1.registry.nextSlot =
        (initial.after steps).registry.nextSlot +
          (step.made? (initial.after steps)).toList.length := by
  have settled := settled_after steps
  have refusal := Registration.refusal_of_outcome refused
  obtain ⟨registry, settledAfter⟩ := settled.run step
  have performed : (initial.after steps).registryAfter step =
      registration.perform (initial.after steps).registry := by
    rw [registryAfter, registers]
  rw [← performed, ← registry] at refusal
  have plain : fault.kind = .badValue ∧ fault.shown = fault := by
    obtain ⟨_, rfl⟩ | ⟨_, _, _, _, rfl⟩ := refusal.cause
    · exact ⟨rfl, rfl⟩
    · exact ⟨rfl, rfl⟩
  refine ⟨?_, plain.1, refusal, ?_⟩
  · rw [run_fst, settled.perform_of_refused registers refused, Fallible.error_bind]
    exact congrArg Except.error plain.2
  · rw [← settledAfter.slots, ← settled.slots, List.length_append]

/-- A step that defines a record for a sort of which the records are in another partition. -/
def sortClash : Step :=
  .defineRecord "R" ["a"] [.named "U8"] (some ⟨"my.clash", "DeclIndex", .text "SCOPE"⟩)

theorem refused_registration_sortClash :
    ∃ registration fault,
      sortClash.registration? (initial.after []) = some registration ∧
      registration.outcome (initial.after []).registry = .error fault ∧
      (initial.after []).registry.Refusal
        (registration.spec (initial.after []).registry)
        fault
        ((initial.after []).run sortClash).2.1.registry := by
  have computed : (sortClash.registration? (initial.after [])).map (fun registration =>
      registration.outcome (initial.after []).registry) =
      some (.error (.sortTaken "DeclIndex" "<DeclSort.SCOPE: 6>" "decl.scope")) := by
    decide +kernel
  obtain ⟨registration, registers, refused⟩ := Option.map_eq_some_iff.mp computed
  obtain ⟨_, _, refusal, _⟩ := refused_registration registers refused
  exact ⟨registration, _, registers, refused, refusal⟩

/-- A specification that is refused for its sort stays known by its name, and is counted. -/
theorem name_kept_by_sortClash :
    (initial.run sortClash).1.map (fun _ => ()) =
        .error (.sortTaken "DeclIndex" "<DeclSort.SCOPE: 6>" "decl.scope") ∧
      initial.registry.forName? "my.clash" = none ∧
      ¬(initial.run sortClash).2.1.registry.AnswersLike initial.registry ∧
      ((initial.run sortClash).2.1.registry.forName? "my.clash").map PartitionSpec.slot =
        some 104 ∧
      initial.registry.slotCount = 104 ∧
      (initial.run sortClash).2.1.registry.slotCount = 105 := by
  have absent : (initial.registry.forName? "my.clash").isNone := by decide +kernel
  have fewer : initial.registry.slotCount = 104 := by decide +kernel
  have more : (initial.run sortClash).2.1.registry.slotCount = 105 := by decide +kernel
  refine ⟨by decide +kernel, Option.isNone_iff_eq_none.mp absent, ?_, by decide +kernel, fewer,
    more⟩
  intro alike
  have same := alike.slots
  omega

end Workspace
end ModuleInterface

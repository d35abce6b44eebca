import Mathlib
import ModuleInterface.Proofs.Container.Bounds
import ModuleInterface.Proofs.Workspace.Steps

/-!
# Answers do not depend on the history

Whatever a session did before, a container answers every query as it would if it had just
been opened. The workspace that a session starts with agrees with itself, and every step
keeps the agreement; so does putting a container that has just been opened in the place of
one that was used.
-/

namespace ModuleInterface

/-! ## Runs -/

namespace Workspace

/-- The workspace after some steps. -/
def after : Workspace → List Step → Workspace
  | workspace, [] => workspace
  | workspace, step :: rest => (workspace.run step).2.1.after rest

theorem after_append
    (workspace : Workspace)
    (earlier later : List Step) :
    workspace.after (earlier ++ later) = (workspace.after earlier).after later := by
  induction earlier generalizing workspace with
  | nil => rfl
  | cons step rest inductionHypothesis => exact inductionHypothesis _

/-- A step does not close the container of a number, and does not forget its table of
contents. -/
def Spares (workspace : Workspace) (number : Nat) : Step → Prop
  | .ask container request _ =>
      workspace.containerNames.find? container = some number → request.keepsContainer
  | _ => True

/-- No step of a run closes the container of a number or forgets its table of contents. -/
def SparesAll (number : Nat) : Workspace → List Step → Prop
  | _, [] => True
  | workspace, step :: rest =>
      workspace.Spares number step ∧ SparesAll number (workspace.run step).2.1 rest

/-- Put a container in the place of that of a number. -/
def withContainer (workspace : Workspace) (number : Nat) (container : Container) :
    Workspace :=
  { workspace with containers := workspace.containers.setIfInBounds number container }

variable {likeness : Likeness} {number : Nat} {made : List PartitionSpec}
variable {left right : Workspace}

theorem Agrees.steady
    {α : Type}
    {promise : Promise α}
    {session : Session α}
    (agrees : Agrees likeness number made left right)
    (steady : Session.Steady likeness number made promise session) :
    (session.on left).1 = (session.on right).1 ∧ ∃ later, made <+: later ∧
      Agrees likeness number later (session.on left).2 (session.on right).2 := by
  obtain ⟨same, later, grown, agreesLater, _⟩ :=
    steady made left right List.prefix_rfl agrees
  exact ⟨same, later, grown, agreesLater⟩

/-- A step that spares the container has the same outcome in workspaces that agree, and
leaves workspaces that agree. -/
theorem Agrees.perform
    (agrees : Agrees likeness number made left right)
    (persists : likeness.Persists)
    {step : Step}
    (registers : step.registers = false ∨ likeness.Registers)
    (opens : step.opens = false ∨ likeness.Opens)
    (spares : left.Spares number step ∨ ∀ request, likeness.Answers request) :
    (step.perform.on left).1 = (step.perform.on right).1 ∧
      ∃ later, made <+: later ∧
        Agrees likeness number later (step.perform.on left).2 (step.perform.on right).2 := by
  have grown := agrees.knows.catalogue
  cases asks : step.asks with
  | false => exact agrees.steady (Session.Steady.perform grown asks registers opens)
  | true =>
      cases step with
      | ask container request name =>
          have names := agrees.containerNames
          cases named : left.containerNames.find? container with
          | none =>
              rw [Session.on_ask_of_none named, Session.on_ask_of_none (names ▸ named)]
              exact ⟨rfl, made, List.prefix_rfl, agrees⟩
          | some other =>
              rw [Session.on_ask_of_some named, Session.on_ask_of_some (names ▸ named)]
              refine agrees.steady (Session.Steady.askNumbered grown ?_ name)
              by_cases here : other = number
              · refine .inr fun found same => ?_
                obtain spares | answers := spares
                · have keeps := spares (named.trans (congrArg some here))
                  rw [← Request.keepsContainer_erased, ← same,
                    Request.keepsContainer_erased] at keeps
                  exact persists.answers found keeps
                · exact answers found
              · exact .inl here
      | viewPart part request =>
          exact agrees.steady (Session.Steady.viewPart (fun request onView =>
            persists.answers request (Request.keepsContainer_of_onView onView)) part request)
      | unreadable subjects fault =>
          exact agrees.steady (Session.Steady.unreadable grown persists.locates subjects fault)
      | _ => contradiction

/-- The outcome of a step, as it is shown. -/
theorem run_fst
    (workspace : Workspace)
    (step : Step) :
    (workspace.run step).1 =
      (do
        let outcome ← (step.perform.on workspace).1
        outcome.requireShown
        return outcome : Except Fault Outcome).mapError Fault.shown := rfl

theorem Agrees.run
    (agrees : Agrees .memory number made left right)
    {step : Step}
    (spares : left.Spares number step) :
    (left.run step).1 = (right.run step).1 ∧
      ∃ later, made <+: later ∧
        Agrees .memory number later (left.run step).2.1 (right.run step).2.1 := by
  obtain ⟨same, later, grown, agreesLater⟩ :=
    agrees.perform Likeness.persists_memory (.inr fun _ _ _ _ => trivial)
      (.inr fun _ _ _ => trivial) (.inl spares)
  refine ⟨?_, later, grown, agreesLater⟩
  rw [run_fst, run_fst, same]

theorem Agrees.after
    (agrees : Agrees .memory number made left right)
    {steps : List Step}
    (spares : SparesAll number left steps) :
    ∃ later, made <+: later ∧
      Agrees .memory number later (left.after steps) (right.after steps) := by
  induction steps generalizing made left right with
  | nil => exact ⟨made, List.prefix_rfl, agrees⟩
  | cons step rest inductionHypothesis =>
      obtain ⟨first, others⟩ := spares
      obtain ⟨_, between, grown, agreesBetween⟩ := agrees.run first
      obtain ⟨later, grownLater, agreesLater⟩ := inductionHypothesis agreesBetween others
      exact ⟨later, grown.trans grownLater, agreesLater⟩

/-! ## Where runs start -/

/-- A specification of the catalogue stands at its slot. -/
theorem madeIn_of_mem_specs
    {spec : PartitionSpec}
    (member : spec ∈ Catalogue.specs) :
    spec.MadeIn Catalogue.specs := by
  obtain ⟨⟨entry, slot⟩, listed, rfl⟩ := List.mem_map.mp member
  rw [List.mem_zipIdx_iff_getElem?] at listed
  simp [PartitionSpec.MadeIn, Catalogue.specs, Catalogue.Entry.spec, listed]

/-- The specifications of the catalogue have sorts of their own. -/
theorem unambiguous_initial : initial.registry.Unambiguous := by
  unfold Registry.Unambiguous
  decide +kernel

theorem knows_initial :
    Knows Catalogue.specs initial.registry initial.records initial.specs := by
  refine ⟨List.prefix_rfl, rfl, fun spec => madeIn_of_mem_specs, fun spec member => ?_,
    unambiguous_initial, fun name record found spec placed => ?_, fun _ _ found => by contradiction⟩
  · have kept : spec ∈ Catalogue.specs.filter fun spec => spec.sort.isSome := member
    exact madeIn_of_mem_specs (List.mem_of_mem_filter kept)
  · obtain loose | standard := List.mem_append.mp (Bindings.mem_of_find? found)
    · obtain ⟨schema, _, same⟩ := List.mem_map.mp loose
      cases same
      contradiction
    · obtain ⟨known, member, same⟩ := List.mem_filterMap.mp standard
      unfold recordOfSpec? at same
      split at same
      · cases same
        cases placed
        exact madeIn_of_mem_specs member
      · contradiction

/-- The workspace that a session starts with has no containers yet. -/
theorem agrees_initial
    (number : Nat) :
    Agrees .memory number Catalogue.specs initial initial :=
  .self ⟨rfl, fun _ found => by contradiction, fun _ found => by contradiction⟩ knows_initial
    trivial

/-! ## Containers that are replaced -/

theorem withContainer_of_present
    {workspace : Workspace}
    {container : Container}
    (present : workspace.containers[number]? = some container) :
    workspace.withContainer number container = workspace := by
  have unchanged : workspace.containers.setIfInBounds number container =
      workspace.containers := by
    refine Array.ext_getElem? fun place => ?_
    rw [Array.getElem?_setIfInBounds]
    by_cases here : number = place
    · subst here
      rw [if_pos rfl, if_pos (Array.getElem?_eq_some_iff.mp present).1, present]
    · rw [if_neg here]
  rw [withContainer, unchanged]

/-- Workspaces agree otherwise if containers that are alike otherwise are put in the place of
theirs. -/
theorem Agrees.withContainers
    {other : Likeness}
    (agrees : Agrees likeness number made left right)
    (bound : number < left.containers.size)
    {leftAfter rightAfter : Container}
    (alike : other.alike made (some leftAfter) (some rightAfter))
    (admitted : other.admits left.registry left.containers.size) :
    Agrees other number made (left.withContainer number leftAfter)
      (right.withContainer number rightAfter) := by
  have boundRight : number < right.containers.size := agrees.size ▸ bound
  refine { agrees with size := ?_, others := ?_, alike := ?_, admitted := ?_ }
  · simp [withContainer, agrees.size]
  · intro place different
    simp [withContainer, different.symm, agrees.others place different]
  · simpa [withContainer, Array.getElem?_setIfInBounds, bound, boundRight] using alike
  · simpa [withContainer] using admitted

/-- A container that is used agrees with one that has just been opened. -/
theorem Agrees.withContainer
    (agrees : Agrees .memory number made left left)
    {container fresh : Container}
    (present : left.containers[number]? = some container)
    (tables : container.bare = fresh.bare)
    (sound : fresh.Sound made) :
    Agrees .memory number made left (left.withContainer number fresh) := by
  have replaced : Agrees .memory number made (left.withContainer number container)
      (left.withContainer number fresh) :=
    agrees.withContainers (Array.getElem?_eq_some_iff.mp present).1
      ⟨congrArg some tables,
        fun _ found => Option.some.inj found ▸ agrees.soundLeft container present,
        fun _ found => Option.some.inj found ▸ sound⟩
      trivial
  rwa [withContainer_of_present present] at replaced

/-! ## History -/

/-- What a container answers after any run that spares it, in any order of steps and with
any of them failing, is what it would answer if it had just been opened over the same
bytes, with all else as it is: step by step the outcomes are the same. A partition that is
located at most once is the one that the table of contents has, a table that is kept is
the whole table, and a trait that is asked for again is answered in the same way, also
when it fails. -/
theorem history_independent
    {steps : List Step}
    {number : Nat}
    (spares : SparesAll number initial steps)
    {container : Container}
    (present : (initial.after steps).containers[number]? = some container) :
    ∃ data backing fresh,
      (Container.load (.of data backing) container.environment).1 = .ok fresh ∧
      container.SharesTables fresh ∧
      (∀ step, (initial.after steps).Spares number step →
        ((initial.after steps).run step).1 =
          (((initial.after steps).withContainer number fresh).run step).1) ∧
      (∀ name spec, ((Session.specNamed name).on (initial.after steps)).1 = .ok spec →
        ((Query.partition spec).on container).1 =
          ((Query.requirePartition (.spec spec) none).on container).1) ∧
      (∀ table, container.attributes = some table →
        (Query.gatherAttributes.on fresh).1 = .ok table) ∧
      (∀ kind table, container.traits.find? kind = some table →
        ((Query.gatherTraits kind).on fresh).1 = .ok table) ∧
      (∀ declaration, ((Query.attributesOf declaration).on
          ((Query.attributesOf declaration).on container).2).1 =
        ((Query.attributesOf declaration).on container).1) ∧
      ∀ kind declaration, ((Query.traitOf kind declaration).on
          ((Query.traitOf kind declaration).on container).2).1 =
        ((Query.traitOf kind declaration).on container).1 := by
  obtain ⟨made, _, agrees⟩ := (agrees_initial number).after spares
  have sound := agrees.soundLeft container present
  obtain ⟨data, backing, fresh, loaded, tables⟩ := sound.opened
  have soundFresh : fresh.Sound made := Container.sound_of_load loaded made
  refine ⟨data, backing, fresh, loaded, .of_bare tables, ?_, ?_, ?_, ?_, ?_, ?_⟩
  · intro step spared
    exact ((agrees.withContainer present tables soundFresh).run spared).1
  · intro name spec named
    obtain ⟨_, later, grown, _, own⟩ :=
      Session.Steady.specNamed agrees.knows.catalogue name made _ _ List.prefix_rfl agrees
    rw [Query.on_requirePartition rfl]
    exact (Query.on_partition (sound.remembers.mono grown) (own spec named)).1
  · intro table kept
    have found := sound.remembers.attributes table kept
    rw [tables, Query.on_attributeTable_of_none rfl, Query.on_remembering] at found
    exact (Query.Steady.gatherAttributes fresh soundFresh.remembers).1.trans found
  · intro kind table kept
    have found := sound.remembers.traits kind table kept
    rw [tables, Query.on_traitTable_of_none rfl, Query.on_remembering] at found
    exact (Query.Steady.gatherTraits kind fresh soundFresh.remembers).1.trans found
  · intro declaration
    exact (Query.Steady.attributesOf declaration).again sound.remembers
  · intro kind declaration
    exact (Query.Steady.traitOf kind declaration).again sound.remembers

/-- A session that opens a container, asks for a partition that it does not have, makes a
specification and asks for its partition twice. -/
def locatedTwice : List Step := [
  .openContainer "f" Container.oneByteData .bytes none,
  .ask "f" (.partition (.known Catalogue.scopeDesc)) none,
  .createSpec ⟨"r", "Index", .null⟩ "Sequence" false "s",
  .defineRecord "R" ["a"] [.named "U8"] (some ⟨"r", "Index", .null⟩),
  .ask "f" (.partition (.named "R")) none,
  .ask "f" (.partition (.named "R")) none]

theorem history_independent_locatedTwice :
    SparesAll 0 initial locatedTwice ∧
    ∃ container, (initial.after locatedTwice).containers[0]? = some container ∧
      container.located? 105 = some ⟨79, 1⟩ ∧
      ∃ fresh, container.SharesTables fresh ∧
        ((initial.after locatedTwice).run (.ask "f" (.partition (.named "R")) none)).1 =
          (((initial.after locatedTwice).withContainer 0 fresh).run
            (.ask "f" (.partition (.named "R")) none)).1 := by
  have spares : SparesAll 0 initial locatedTwice :=
    ⟨trivial, fun _ => rfl, trivial, trivial, fun _ => rfl, fun _ => rfl, trivial⟩
  have located : (initial.after locatedTwice).containers[0]?.bind (·.located? 105) =
      some ⟨79, 1⟩ := by
    decide +kernel
  obtain ⟨container, present, found⟩ := Option.bind_eq_some_iff.mp located
  obtain ⟨_, _, fresh, _, shared, same, _⟩ := history_independent spares present
  exact ⟨spares, container, present, found, fresh, shared, same _ fun _ => rfl⟩

end Workspace
end ModuleInterface

import Mathlib
import ModuleInterface.Proofs.Container.Answers
import ModuleInterface.Proofs.Container.Lasting
import ModuleInterface.Proofs.Container.Resolution
import ModuleInterface.Proofs.Fallible
import ModuleInterface.Workspace.Naming

/-!
# Workspaces that agree

Two workspaces agree if they differ only in one container. How its two versions may differ
is a likeness: they may be the same, or differ in what they remember, as long as it is
right in both. A part of a session is steady if it has the same outcome in
workspaces that agree, and leaves workspaces that agree. The specifications that were made
grow meanwhile; which of them a value rests on is what a steady part promises of its
value, so that the parts that follow can rely on it.
-/

namespace ModuleInterface

/-! ## Running parts of a session -/

namespace Session

variable {α β : Type}

/-- Run a part of a session on a workspace. -/
def on (session : Session α) (workspace : Workspace) : Except Fault α × Workspace :=
  StateT.run (ExceptT.run session) workspace

@[simp] theorem on_ofExcept
    (outcome : Except Fault α)
    (workspace : Workspace) :
    (ofExcept outcome : Session α).on workspace = (outcome, workspace) := by
  cases outcome <;> rfl

@[simp] theorem on_get_bind
    (next : Workspace → Session β)
    (workspace : Workspace) :
    (get >>= next).on workspace = (next workspace).on workspace := rfl

/-- A part of a session that is followed by another fails where it fails, and else the
other goes on with its value and the workspace that it leaves. -/
theorem on_bind
    (first : Session α)
    (next : α → Session β)
    (workspace : Workspace) :
    (first >>= next).on workspace =
      match first.on workspace with
      | (.ok value, after) => (next value).on after
      | (.error fault, after) => (.error fault, after) := by
  change (ExceptT.bindCont next (first workspace).1).run (first workspace).2 = _
  change _ = match first workspace with
    | (.ok value, after) => (next value).on after
    | (.error fault, after) => (.error fault, after)
  cases first workspace with
  | mk outcome after => cases outcome <;> rfl

theorem on_map
    (change : α → β)
    (session : Session α)
    (workspace : Workspace) :
    (change <$> session).on workspace =
      ((session.on workspace).1.map change, (session.on workspace).2) := by
  rw [map_eq_pure_bind, on_bind]
  cases session.on workspace with
  | mk outcome after => cases outcome <;> rfl

end Session

/-! ## Agreement -/

/-- The specification of a record, if it has one, is one that was made. -/
def KnownRecord.MadeIn (record : KnownRecord) (made : List PartitionSpec) : Prop :=
  ∀ spec, record.spec = some spec → spec.MadeIn made

/-- Whatever specification can be named is one that was made, and a sort names only one. -/
structure Knows (made : List PartitionSpec) (registry : Registry)
    (records : Bindings String KnownRecord) (specs : Bindings String PartitionSpec) :
    Prop where
  catalogue : Catalogue.specs <+: made
  slots : made.length = registry.nextSlot
  named : ∀ spec ∈ registry.named, spec.MadeIn made
  sorted : ∀ spec ∈ registry.sorted, spec.MadeIn made
  unambiguous : registry.Unambiguous
  records : ∀ name record, records.find? name = some record → record.MadeIn made
  specs : ∀ name spec, specs.find? name = some spec → spec.MadeIn made

/-- A container has the tables that opening makes of some bytes, and remembers what is
right. -/
structure Container.Sound (container : Container) (made : List PartitionSpec) : Prop where
  remembers : container.Remembers made
  opened : ∃ data backing fresh,
    (Container.load (.of data backing) container.environment).1 = .ok fresh ∧
      container.bare = fresh.bare

theorem Container.Sound.mono
    {container : Container}
    {made later : List PartitionSpec}
    (sound : container.Sound made)
    (grown : made <+: later) :
    container.Sound later :=
  ⟨sound.remembers.mono grown, sound.opened⟩

/-- A container has just been opened: it is sound, and remembers nothing yet. -/
structure Container.Opened (container : Container) (made : List PartitionSpec) : Prop where
  sound : container.Sound made
  blank : ∀ cell, ¬container.Filled cell
  logged : container.Logged

theorem Container.Opened.mono
    {container : Container}
    {made later : List PartitionSpec}
    (opened : container.Opened made)
    (grown : made <+: later) :
    container.Opened later :=
  { opened with sound := opened.sound.mono grown }

/-- A container stays sound if only what it remembers changes. -/
theorem Container.Sound.of_bare
    {container after : Container}
    {made : List PartitionSpec}
    (sound : container.Sound made)
    (tables : after.bare = container.bare)
    (remembers : after.Remembers made) :
    after.Sound made := by
  obtain ⟨data, backing, fresh, loaded, same⟩ := sound.opened
  have environment : after.environment = container.environment := by
    change after.bare.environment = container.bare.environment
    rw [tables]
  exact ⟨remembers, data, backing, fresh, by rw [environment]; exact loaded,
    tables.trans same⟩

/-! ## Likenesses -/

/-- How the container of a number may differ in two workspaces, which may not have it yet,
given the specifications that were made, and what the registry of both and their number of
containers have to be. -/
structure Likeness where
  alike : List PartitionSpec → Option Container → Option Container → Prop
  admits : Registry → Nat → Prop
  mono : ∀ {made later left right}, alike made left right → made <+: later →
    alike later left right
  environment : ∀ {made left right}, alike made left right →
    left.bind Container.environment = right.bind Container.environment
  opened : ∀ {made container}, alike made none none → container.Opened made →
    alike made (some container) (some container)

namespace Likeness

/-- The container is the same. -/
def same (admits : Registry → Nat → Prop) : Likeness where
  alike _ left right := left = right
  admits := admits
  mono same _ := same
  environment same := congrArg (·.bind Container.environment) same
  opened _ _ := rfl

/-- The container is a given one. -/
def fixed (container : Container) (admits : Registry → Nat → Prop) : Likeness where
  alike _ left right := left = some container ∧ right = some container
  admits := admits
  mono fixed _ := fixed
  environment fixed := by rw [fixed.1, fixed.2]
  opened fixed _ := by cases fixed.1

/-- The container may differ in what it remembers, which is right. -/
def memory : Likeness where
  alike made left right :=
    left.map Container.bare = right.map Container.bare ∧
      (∀ container, left = some container → container.Sound made) ∧
      ∀ container, right = some container → container.Sound made
  admits _ _ := True
  mono alike grown :=
    ⟨alike.1, fun container found => (alike.2.1 container found).mono grown,
      fun container found => (alike.2.2 container found).mono grown⟩
  environment alike := by
    have bare := congrArg (fun found => found.bind Container.environment) alike.1
    simpa [Option.bind_map, Function.comp_def, Container.bare] using bare
  opened _ opened :=
    ⟨rfl, fun _ found => Option.some.inj found ▸ opened.sound,
      fun _ found => Option.some.inj found ▸ opened.sound⟩

/-- Any registry will do if one does. -/
def Registers (likeness : Likeness) : Prop :=
  ∀ registry other count, likeness.admits registry count → likeness.admits other count

/-- One more container will do. -/
def Opens (likeness : Likeness) : Prop :=
  ∀ registry count, likeness.admits registry count → likeness.admits registry (count + 1)

/-- A query has the same answer on containers that are alike, and leaves containers that
are alike. -/
def Keeps {α : Type} (likeness : Likeness) (made : List PartitionSpec) (query : Query α) :
    Prop :=
  ∀ left right, likeness.alike made (some left) (some right) →
    (query.on left).1 = (query.on right).1 ∧
      likeness.alike made (some (query.on left).2) (some (query.on right).2)

theorem keeps_same
    {α : Type}
    {admits : Registry → Nat → Prop}
    {made : List PartitionSpec}
    (query : Query α) :
    (same admits).Keeps made query := by
  intro left right alike
  cases alike
  exact ⟨rfl, rfl⟩

/-- A query whose answer does not depend on what is remembered keeps what is remembered
right. -/
theorem keeps_memory
    {α : Type}
    {made : List PartitionSpec}
    {query : Query α}
    (steady : query.Steady made) :
    memory.Keeps made query := by
  rintro left right ⟨tables, soundLeft, soundRight⟩
  have soundLeft := soundLeft left rfl
  have soundRight := soundRight right rfl
  have tables : left.bare = right.bare := Option.some.inj tables
  obtain ⟨answerLeft, tablesLeft, keptLeft⟩ := steady left soundLeft.remembers
  obtain ⟨answerRight, tablesRight, keptRight⟩ := steady right soundRight.remembers
  refine ⟨?_, ?_, ?_, ?_⟩
  · rw [answerLeft, answerRight, tables]
  · exact congrArg some (tablesLeft.trans (tables.trans tablesRight.symm))
  · rintro _ ⟨⟩
    exact soundLeft.of_bare tablesLeft keptLeft
  · rintro _ ⟨⟩
    exact soundRight.of_bare tablesRight keptRight

end Likeness

namespace Workspace

/-- Two workspaces differ only in the container of a number, where they are alike, and in
what was reported. -/
structure Agrees (likeness : Likeness) (number : Nat) (made : List PartitionSpec)
    (left right : Workspace) : Prop where
  registry : left.registry = right.registry
  records : left.records = right.records
  specs : left.specs = right.specs
  containerNames : left.containerNames = right.containerNames
  environments : left.environments = right.environments
  environmentNames : left.environmentNames = right.environmentNames
  blobs : left.blobs = right.blobs
  views : left.views = right.views
  builder : left.builder = right.builder
  size : left.containers.size = right.containers.size
  others : ∀ other, other ≠ number → left.containers[other]? = right.containers[other]?
  alike : likeness.alike made left.containers[number]? right.containers[number]?
  knows : Knows made left.registry left.records left.specs
  admitted : likeness.admits left.registry left.containers.size

variable {likeness : Likeness} {number : Nat} {made : List PartitionSpec}
variable {left right : Workspace}

/-- A workspace agrees with itself, if its container is like itself. -/
theorem Agrees.self
    {workspace : Workspace}
    (alike : likeness.alike made workspace.containers[number]? workspace.containers[number]?)
    (knows : Knows made workspace.registry workspace.records workspace.specs)
    (admitted : likeness.admits workspace.registry workspace.containers.size) :
    Agrees likeness number made workspace workspace :=
  ⟨rfl, rfl, rfl, rfl, rfl, rfl, rfl, rfl, rfl, rfl, fun _ _ => rfl, alike, knows, admitted⟩

theorem Agrees.soundLeft
    (agrees : Agrees .memory number made left right)
    (container : Container)
    (found : left.containers[number]? = some container) :
    container.Sound made :=
  agrees.alike.2.1 container found

/-- A container of one workspace has its like in the other. -/
theorem Agrees.exists_right
    (agrees : Agrees likeness number made left right)
    {container : Container}
    (found : left.containers[number]? = some container) :
    ∃ other, right.containers[number]? = some other := by
  obtain ⟨bound, _⟩ := Array.getElem?_eq_some_iff.mp found
  rw [agrees.size] at bound
  exact ⟨_, Array.getElem?_eq_getElem bound⟩

theorem Agrees.right_none
    (agrees : Agrees likeness number made left right)
    (missing : left.containers[number]? = none) :
    right.containers[number]? = none := by
  rw [Array.getElem?_eq_none_iff] at missing ⊢
  rw [← agrees.size]
  exact missing

/-- What is reported does not matter. -/
theorem Agrees.report
    (agrees : Agrees likeness number made left right)
    (leftLog rightLog : List Event) :
    Agrees likeness number made { left with log := leftLog } { right with log := rightLog } :=
  { agrees with }

/-- The same container is put in the place of another one, or containers that are alike in
the place of the container of the number. -/
theorem Agrees.store
    (agrees : Agrees likeness number made left right)
    {other : Nat}
    {leftAfter rightAfter : Container}
    (elsewhere : other ≠ number → leftAfter = rightAfter)
    (here : other = number → likeness.alike made (some leftAfter) (some rightAfter)) :
    Agrees likeness number made
      { left with containers := left.containers.setIfInBounds other leftAfter }
      { right with containers := right.containers.setIfInBounds other rightAfter } := by
  refine { agrees with size := ?_, others := ?_, alike := ?_, admitted := ?_ }
  · simp [agrees.size]
  · intro place different
    simp only [Array.getElem?_setIfInBounds, agrees.size]
    by_cases placed : other = place
    · subst placed
      rw [elsewhere different, if_pos rfl, if_pos rfl]
    · simp only [placed, if_false, agrees.others place different]
  · have alike := agrees.alike
    simp only [Array.getElem?_setIfInBounds, agrees.size]
    by_cases placed : other = number
    · by_cases bound : other < right.containers.size
      · rw [if_pos placed, if_pos placed, if_pos bound, if_pos bound]
        exact here placed
      · rw [if_pos placed, if_pos placed, if_neg bound, if_neg bound]
        rw [placed] at bound
        rwa [Array.getElem?_eq_none (by rw [agrees.size]; omega),
          Array.getElem?_eq_none (by omega)] at alike
    · rw [if_neg placed, if_neg placed]
      exact alike
  · rw [Array.size_setIfInBounds]
    exact agrees.admitted

/-- A container is added that has just been opened. -/
theorem Agrees.push
    (agrees : Agrees likeness number made left right)
    (opens : likeness.Opens)
    {container : Container}
    (opened : container.Opened made) :
    Agrees likeness number made
      { left with containers := left.containers.push container }
      { right with containers := right.containers.push container } := by
  refine { agrees with size := ?_, others := ?_, alike := ?_, admitted := ?_ }
  · simp [agrees.size]
  · intro place different
    simp only [Array.getElem?_push, agrees.size, agrees.others place different]
  · have alike := agrees.alike
    simp only [Array.getElem?_push, agrees.size]
    by_cases placed : number = right.containers.size
    · rw [if_pos placed, if_pos placed]
      rw [Array.getElem?_eq_none (by rw [agrees.size]; omega),
        Array.getElem?_eq_none (by omega)] at alike
      exact likeness.opened alike opened
    · rw [if_neg placed, if_neg placed]
      exact alike
  · rw [Array.size_push]
    exact opens _ _ agrees.admitted

end Workspace

/-! ## Steady parts of a session -/

/-- What is promised of a value, given the specifications that were made. -/
abbrev Promise (α : Type) := List PartitionSpec → α → Prop

/-- Nothing is promised. -/
def Promise.nothing {α : Type} : Promise α := fun _ _ => True

namespace Session

/-- A part of a session has the same outcome in workspaces that agree, and leaves
workspaces that agree. It may rely on what was made before, and promises something of its
value. -/
def Steady {α : Type} (likeness : Likeness) (number : Nat) (before : List PartitionSpec)
    (promise : Promise α) (session : Session α) : Prop :=
  ∀ made left right, before <+: made → Workspace.Agrees likeness number made left right →
    (session.on left).1 = (session.on right).1 ∧
      ∃ after, made <+: after ∧
        Workspace.Agrees likeness number after (session.on left).2 (session.on right).2 ∧
        ∀ value, (session.on left).1 = .ok value → promise after value

namespace Steady

variable {α β : Type} {likeness : Likeness} {number : Nat} {before : List PartitionSpec}
variable {promise : Promise α} {next : Promise β}

theorem pure
    {value : α}
    (kept : ∀ made, before <+: made → promise made value) :
    Steady likeness number before promise (Pure.pure value) := by
  intro made left right grown agrees
  refine ⟨rfl, made, List.prefix_rfl, agrees, fun other answered => ?_⟩
  cases answered
  exact kept made grown

theorem throw
    (fault : Fault) :
    Steady likeness number before promise (MonadExcept.throw fault) :=
  fun made _ _ _ agrees => ⟨rfl, made, List.prefix_rfl, agrees, fun _ _ => by contradiction⟩

theorem ofOutcome
    {outcome : Except Fault α}
    (kept : ∀ value, outcome = .ok value → ∀ made, before <+: made → promise made value) :
    Steady likeness number before promise (ofExcept outcome) := by
  intro made left right grown agrees
  rw [on_ofExcept, on_ofExcept]
  refine ⟨rfl, made, List.prefix_rfl, agrees, ?_⟩
  intro value answered
  exact kept value answered made grown

theorem plain
    (outcome : Except Fault α) :
    Steady likeness number before .nothing (ofExcept outcome) :=
  ofOutcome fun _ _ _ _ => trivial

theorem bind
    {first : Session α}
    {rest : α → Session β}
    (steadyFirst : Steady likeness number before promise first)
    (steadyRest : ∀ made value, before <+: made → promise made value →
      Steady likeness number made next (rest value)) :
    Steady likeness number before next (first >>= rest) := by
  intro made left right grown agrees
  obtain ⟨same, between, grownBetween, agreesBetween, promised⟩ :=
    steadyFirst made left right grown agrees
  rw [on_bind, on_bind]
  generalize first.on left = ranLeft at same agreesBetween promised
  generalize first.on right = ranRight at same agreesBetween
  obtain ⟨outcome, afterLeft⟩ := ranLeft
  obtain ⟨outcomeRight, afterRight⟩ := ranRight
  simp only at same agreesBetween promised
  subst same
  cases outcome with
  | error fault =>
      exact ⟨rfl, between, grownBetween, agreesBetween, fun _ _ => by contradiction⟩
  | ok value =>
      obtain ⟨sameRest, after, grownAfter, agreesAfter, promisedRest⟩ :=
        steadyRest between value (grown.trans grownBetween) (promised value rfl) between
          afterLeft afterRight List.prefix_rfl agreesBetween
      exact ⟨sameRest, after, grownBetween.trans grownAfter, agreesAfter, promisedRest⟩

theorem map
    {session : Session α}
    {update : α → β}
    (steady : Steady likeness number before promise session)
    (kept : ∀ made value, promise made value → next made (update value)) :
    Steady likeness number before next (update <$> session) := by
  intro made left right grown agrees
  obtain ⟨same, after, grownAfter, agreesAfter, promised⟩ := steady made left right grown agrees
  rw [on_map, on_map]
  refine ⟨congrArg (Except.map update) same, after, grownAfter, agreesAfter, ?_⟩
  intro value answered
  obtain ⟨given, found, rfl⟩ := Fallible.map_eq_ok.mp answered
  exact kept after given (promised given found)

theorem discard
    {session : Session α}
    (steady : Steady likeness number before promise session) :
    Steady likeness number before .nothing (Functor.discard session) :=
  steady.map fun _ _ _ => trivial

/-- A part that reads the workspace is steady if it reads the same in workspaces that
agree. -/
theorem read
    {rest : Workspace → Session α}
    (same : ∀ made left right, Workspace.Agrees likeness number made left right →
      rest left = rest right)
    (steady : ∀ made left right, before <+: made →
      Workspace.Agrees likeness number made left right →
      Steady likeness number made promise (rest left)) :
    Steady likeness number before promise (get >>= rest) := by
  intro made left right grown agrees
  rw [on_get_bind, on_get_bind, ← same made left right agrees]
  exact steady made left right grown agrees made left right List.prefix_rfl agrees

theorem change
    {update : Workspace → Workspace}
    (agree : ∀ made left right, before <+: made →
      Workspace.Agrees likeness number made left right →
      ∃ after, made <+: after ∧
        Workspace.Agrees likeness number after (update left) (update right)) :
    Steady likeness number before .nothing (modify update : Session Unit) := by
  intro made left right grown agrees
  obtain ⟨after, grownAfter, agreesAfter⟩ := agree made left right grown agrees
  exact ⟨rfl, after, grownAfter, agreesAfter, fun _ _ => trivial⟩

theorem choice
    {condition : Prop}
    [Decidable condition]
    {yes no : Session α}
    (steadyYes : Steady likeness number before promise yes)
    (steadyNo : Steady likeness number before promise no) :
    Steady likeness number before promise (if condition then yes else no) := by
  split
  · exact steadyYes
  · exact steadyNo

/-- Parts are carried out for the elements of a list one after another. -/
theorem mapM
    {each : α → Session β}
    (steady : ∀ made value, before <+: made → Steady likeness number made .nothing (each value))
    (values : List α) :
    Steady likeness number before .nothing (values.mapM each) := by
  induction values generalizing before with
  | nil => exact pure fun _ _ => trivial
  | cons value rest inductionHypothesis =>
      rw [List.mapM_cons]
      refine (steady before value List.prefix_rfl).bind fun made _ grown _ => ?_
      refine (inductionHypothesis fun made value later =>
        steady made value (grown.trans later)).bind fun _ _ _ _ => ?_
      exact pure fun _ _ => trivial

end Steady
end Session
end ModuleInterface

import Mathlib
import ModuleInterface.Proofs.Container.Modules
import ModuleInterface.Proofs.Workspace.Asking
import ModuleInterface.Proofs.Workspace.Leaves
import ModuleInterface.Proofs.Workspace.Queries

/-!
# Modules that a session adds

An environment of a session is what the session added to it: no other step changes it
(`Workspace.environmentAt_run`), so that after a run it is made of the additions of the run,
in their order. A container looks up its modules in the environment as it is by then.
-/

namespace ModuleInterface

/-! ## What is added -/

/-- A container is added to the environment of a number, if both are there. -/
theorem Session.environments_addModule
    (number : Nat)
    (module container : String)
    (workspace : Workspace) :
    ((useEnvironment number (.add module container)).on workspace).2.environments =
      match workspace.containerNames.find? container, workspace.environments[number]? with
      | some added, some environment =>
          workspace.environments.setIfInBounds number (environment.add module added)
      | _, _ => workspace.environments := by
  simp only [useEnvironment, containerNumber, environmentAt, bind_assoc]
  rw [on_get_bind, bound]
  cases workspace.containerNames.find? container with
  | none => rfl
  | some added =>
      simp only [pure_bind]
      rw [on_get_bind]
      cases workspace.environments[number]? <;> rfl

namespace Workspace

/-- What a step adds to the environment of a number: a name, and the container that it is
given. -/
def addition? (workspace : Workspace) (place : Nat) : Step → Option (String × Nat)
  | .useEnvironment environment (.add module container) =>
      if workspace.environmentNames.find? environment = some place ∧
          place < workspace.environments.size then
        (workspace.containerNames.find? container).map fun added => (module, added)
      else none
  | _ => none

/-- What a run adds to the environment of a number, the earliest first. -/
def additions (place : Nat) : Workspace → List Step → List (String × Nat)
  | _, [] => []
  | workspace, step :: rest =>
      (workspace.addition? place step).toList ++ additions place (workspace.run step).2.1 rest

/-- The environment of a number, which knows no module until it is made. -/
def environmentAt (workspace : Workspace) (place : Nat) : Environment :=
  workspace.environments[place]?.getD .empty

variable {workspace : Workspace}

/-- A step that is not about environments adds nothing to them. -/
theorem environmentAt_of_not_registersModule
    {step : Step}
    (quiet : step.registersModule = false)
    (place : Nat) :
    (step.perform.on workspace).2.environmentAt place =
      (workspace.environmentAt place).addAll (workspace.addition? place step).toList := by
  have nothing : workspace.addition? place step = none := by
    cases step with
    | useEnvironment environment request =>
        cases request with
        | add module container => contradiction
        | _ => rfl
    | _ => rfl
  have kept :=
    Session.Leaves.perform apart_environments (.inr fun _ _ => rfl) (.inl quiet) workspace
  rw [nothing, environmentAt, kept]
  rfl

/-- A new environment knows no module. -/
theorem environmentAt_newEnvironment
    (name : String)
    (place : Nat) :
    ((Step.newEnvironment name).perform.on workspace).2.environmentAt place =
      workspace.environmentAt place := by
  change ((workspace.environments.push .empty)[place]?).getD .empty =
    (workspace.environments[place]?).getD .empty
  rw [Array.getElem?_push]
  split
  next last => rw [last, Array.getElem?_eq_none le_rfl, Option.getD_some, Option.getD_none]
  next => rfl

/-- What is added is added to the environment that has the name, if there is one. -/
theorem environmentAt_add
    (environment module container : String)
    (place : Nat) :
    ((Step.useEnvironment environment (.add module container)).perform.on
        workspace).2.environmentAt place =
      (workspace.environmentAt place).addAll
        (workspace.addition? place
          (.useEnvironment environment (.add module container))).toList := by
  rw [Step.perform, Session.environmentNumber, bind_assoc, Session.on_get_bind, Session.bound,
    addition?]
  cases workspace.environmentNames.find? environment with
  | none => rfl
  | some other =>
      simp only [pure_bind, environmentAt]
      rw [Session.environments_addModule]
      cases workspace.containerNames.find? container with
      | none => simp [Environment.addAll]
      | some added =>
          cases found : workspace.environments[other]? with
          | none =>
              have missing : ¬(some other = some place ∧ place < workspace.environments.size) := by
                rintro ⟨⟨⟩, bound⟩
                exact absurd found (by simp [bound])
              rw [if_neg missing]
              rfl
          | some known =>
              obtain ⟨bound, _⟩ := Array.getElem?_eq_some_iff.mp found
              simp only [Array.getElem?_setIfInBounds]
              by_cases here : other = place
              · subst here
                rw [if_pos rfl, if_pos bound, if_pos ⟨rfl, bound⟩, found]
                rfl
              · rw [if_neg here, if_neg (fun named => here (Option.some.inj named.1))]
                rfl

/-- A step does to an environment what it adds to it, and nothing else. -/
theorem environmentAt_run
    (workspace : Workspace)
    (step : Step)
    (place : Nat) :
    (workspace.run step).2.1.environmentAt place =
      (workspace.environmentAt place).addAll (workspace.addition? place step).toList := by
  cases about : step.registersModule with
  | false => exact environmentAt_of_not_registersModule about place
  | true =>
      cases step with
      | newEnvironment name => exact environmentAt_newEnvironment name place
      | useEnvironment environment request =>
          cases request with
          | add module container => exact environmentAt_add environment module container place
          | _ => contradiction
      | _ => contradiction

/-- A run does to an environment what it adds to it. -/
theorem environmentAt_after
    (workspace : Workspace)
    (steps : List Step)
    (place : Nat) :
    (workspace.after steps).environmentAt place =
      (workspace.environmentAt place).addAll (additions place workspace steps) := by
  induction steps generalizing workspace with
  | nil => rfl
  | cons step rest inductionHypothesis =>
      rw [after, inductionHypothesis, environmentAt_run, ← Environment.addAll_append, additions]

/-- An environment is made of what was added to it since the session started. -/
theorem environment_eq_ofAdditions
    {steps : List Step}
    {place : Nat}
    {environment : Environment}
    (made : (initial.after steps).environments[place]? = some environment) :
    environment = .ofAdditions (additions place initial steps) := by
  have added := environmentAt_after initial steps place
  rw [environmentAt, made] at added
  exact added

/-! ## Looking up modules -/

variable {number : Nat} {container : Container}

theorem outcome_environmentOf_of_none
    (present : workspace.containers[number]? = some container)
    (alone : container.environment = none) :
    ((Session.environmentOf number).on workspace).1 = .ok none := by
  have none : (some container >>= Container.environment) = none := alone
  rw [Session.environmentOf, Session.on_get_bind, present, none]
  rfl

theorem outcome_environmentOf_of_some
    (present : workspace.containers[number]? = some container)
    {place : Nat}
    (placed : container.environment = some place)
    {environment : Environment}
    (made : workspace.environments[place]? = some environment) :
    ((Session.environmentOf number).on workspace).1 = .ok (some environment) := by
  have some : (some container >>= Container.environment) = some place := placed
  rw [Session.environmentOf, Session.on_get_bind, present, some]
  simp only [Session.environmentAt, bind_assoc]
  rw [Session.on_get_bind, made]
  rfl

/-- A container looks up a module in its environment as it is by then. -/
theorem outcome_importedModule
    (present : workspace.containers[number]? = some container)
    {environment : Option Environment}
    (known : ((Session.environmentOf number).on workspace).1 = .ok environment)
    (reference : Value) :
    ((Session.askContainer number (.importedModule reference)).on workspace).1 =
      ((Query.importedModule environment reference).on container).1.map .container := by
  have found : (Session.environmentOf number).on workspace = (.ok environment, workspace) :=
    Prod.ext known (Session.on_environmentOf_snd number workspace)
  rw [Session.askContainer, Session.on_bind, found]
  simp only
  rw [Session.on_get_bind, Session.on_onContainer, present]
  simp only [Request.answer, bind_pure_comp, Query.on_map]

/-- What comes of looking up a name, given what was added. -/
structure LooksUp (added : List (String × Nat)) (name : String)
    (outcome : Except Fault Answer) : Prop where
  found : ∀ last, Environment.lastAdded? added name = some last →
    outcome = .ok (.container last)
  absent : (∀ container, (name, container) ∉ added) →
    outcome = .error (.moduleAbsent name) ∧ FailsAs outcome (.reader .unknownModule)

/-- What was added decides what comes of looking up a name. -/
theorem looksUp_require
    (added : List (String × Nat))
    (name : String) :
    LooksUp added name (((Environment.ofAdditions added).require name).map .container) := by
  constructor
  · intro last given
    rw [Environment.require, Environment.find?_ofAdditions, given]
    rfl
  · intro absent
    have refused : ((Environment.ofAdditions added).require name).map Answer.container =
        .error (.moduleAbsent name) := by
      rw [Environment.require, Environment.find?_ofAdditions,
        (Environment.lastAdded?_eq_none_iff added name).mpr absent]
      rfl
    exact ⟨refused, _, refused, rfl⟩

/-- After any run that spares it, a container without an environment finds no module at all.
One with an environment finds the container that the session last added under the name of
the reference, and nothing if it added none, as it does where it added nothing at all. The
environment has each name that was added once, in the order of first addition. The name of a
reference is made of the texts at its offsets, and tells references with an owner apart by
these texts, unless an owner has a colon in its own. -/
theorem modules_looked_up
    {steps : List Step}
    (spares : SparesAll number initial steps)
    (present : (initial.after steps).containers[number]? = some container) :
    (container.environment = none →
      ∀ reference, FailsAs
        ((Session.askContainer number (.importedModule reference)).on (initial.after steps)).1
        (.reader .noModuleResolver)) ∧
    ∀ place environment, container.environment = some place →
      (initial.after steps).environments[place]? = some environment →
        environment.names = ((additions place initial steps).map Prod.fst).eraseDups ∧
        ∃ text : Int → String,
          (∀ offset, container.InTable offset →
            ((Query.stringAt offset).on container).1 = .ok (text offset)) ∧
          (∀ reference : ModuleReference,
            container.InTable reference.owner → container.InTable reference.partition →
              LooksUp (additions place initial steps) (reference.key text)
                ((Session.askContainer number (.importedModule (.moduleReference reference))).on
                  (initial.after steps)).1) ∧
          ∀ reference other : ModuleReference,
            reference.owner ≠ 0 → other.owner ≠ 0 →
              ':' ∉ (text reference.owner).toList → ':' ∉ (text other.owner).toList →
                (reference.key text = other.key text ↔
                  text reference.owner = text other.owner ∧
                    ((reference.partition = 0 ∧ other.partition = 0) ∨
                      (reference.partition ≠ 0 ∧ other.partition ≠ 0 ∧
                        text reference.partition = text other.partition))) := by
  obtain ⟨made, data, backing, fresh, _, _, stores, shared, _⟩ := exists_opened spares present
  constructor
  · intro alone reference
    have known := outcome_environmentOf_of_none present alone
    rw [outcome_importedModule present known]
    exact ⟨.environmentAbsent, rfl, rfl⟩
  · intro place environment placed found
    have known := outcome_environmentOf_of_some present placed found
    obtain rfl := environment_eq_ofAdditions found
    refine ⟨Environment.names_ofAdditions _, Acceptance.textAt data, ?_, ?_, ?_⟩
    · intro offset inside
      exact stores.outcome_stringAt_of_inTable shared inside
    · intro reference owner partition
      rw [outcome_importedModule present known,
        stores.outcome_importedModule shared _ owner partition]
      exact looksUp_require _ _
    · intro reference other owned ownedOther plain plainOther
      exact ModuleReference.key_eq_iff owned ownedOther plain plainOther

/-- A session that opens two containers with one environment, and adds both under the name
that a reference of the first has. -/
def addedTwice : List Step := [
  .newEnvironment "e",
  .openContainer "f" Container.oneByteData .bytes (some "e"),
  .useEnvironment "e" (.add "r" "f"),
  .openContainer "g" Container.oneByteData .bytes (some "e"),
  .useEnvironment "e" (.add "s" "f"),
  .useEnvironment "e" (.add "r" "g")]

theorem modules_looked_up_addedTwice :
    SparesAll 0 initial addedTwice ∧
    ∃ container environment, (initial.after addedTwice).containers[0]? = some container ∧
      (initial.after addedTwice).environments[0]? = some environment ∧
      environment.names = ["r", "s"] ∧
      ((Session.askContainer 0 (.importedModule (.moduleReference ⟨1, 0⟩))).on
        (initial.after addedTwice)).1 = .ok (.container 1) ∧
      FailsAs ((Session.askContainer 0 (.importedModule (.moduleReference ⟨1, 2⟩))).on
        (initial.after addedTwice)).1 (.reader .unknownModule) := by
  have spares : SparesAll 0 initial addedTwice :=
    ⟨trivial, trivial, trivial, trivial, trivial, trivial, trivial⟩
  have opened : (initial.after addedTwice).containers[0]?.map (fun container =>
      (container.environment, container.header.stringTableSize,
        ((Query.stringAt 1).on container).1.toOption,
        ((Query.stringAt 2).on container).1.toOption)) =
      some (some 0, 3, some "r", some "") := by
    decide +kernel
  have made : (initial.after addedTwice).environments[0]?.isSome := by decide +kernel
  have added : additions 0 initial addedTwice = [("r", 0), ("s", 0), ("r", 1)] := by
    decide +kernel
  obtain ⟨container, present, found⟩ := Option.map_eq_some_iff.mp opened
  obtain ⟨environment, known⟩ := Option.isSome_iff_exists.mp made
  simp only [Prod.mk.injEq] at found
  obtain ⟨placed, size, first, second⟩ := found
  obtain ⟨names, text, texts, answers, _⟩ :=
    (modules_looked_up spares present).2 0 environment placed known
  have inside : ∀ offset : Int, 0 ≤ offset → offset < 3 → container.InTable offset := by
    intro offset nonnegative below
    refine .inl ⟨nonnegative, ?_⟩
    rw [size]
    exact below
  have zero := inside 0 (by decide) (by decide)
  have one := inside 1 (by decide) (by decide)
  have two := inside 2 (by decide) (by decide)
  rw [texts 1 one] at first
  rw [texts 2 two] at second
  have owner : text 1 = "r" := Option.some.inj first
  have partition : text 2 = "" := Option.some.inj second
  rw [added] at names answers
  refine ⟨spares, container, environment, present, known, names, ?_, ?_⟩
  · refine (answers ⟨1, 0⟩ one zero).found 1 ?_
    simp [ModuleReference.key, owner, Environment.lastAdded?]
  · refine ((answers ⟨1, 2⟩ one two).absent ?_).2
    simp [ModuleReference.key, owner, partition]

end Workspace
end ModuleInterface

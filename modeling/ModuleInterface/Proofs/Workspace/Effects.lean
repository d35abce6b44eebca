import Mathlib
import ModuleInterface.Proofs.Container.Lasting
import ModuleInterface.Proofs.Workspace.Registrations

/-!
# What sessions do to a container

The steps that ask a container have the effects of what they ask, and no other step
touches a container (`Step.effects`, `Settled.leaves_perform`). Every partition that a step
locates is that of a specification that was made.
-/

namespace ModuleInterface

/-! ## Effects of steps -/

namespace Session

/-- What is found before a container is asked: the request with its partition, and the
environment that the container was opened with. -/
def lookedUp (number : Nat) (request : Request TargetName) :
    Session (Request Target × Option Environment) := do
  let found ← request.lookup target
  let environment ← environmentOf number
  return (found, environment)

/-- What asking the container of a number does to it. -/
def askEffects (workspace : Workspace) (number : Nat) (request : Request TargetName) :
    List Effect :=
  match (lookedUp number request).on workspace with
  | (.ok (found, environment), after) =>
      match after.containers[number]? with
      | some container => found.effects after.registry environment container
      | none => []
  | (.error _, _) => []

/-- What looking up a subject does to the container of a number. -/
def subjectEffects (workspace : Workspace) (number : Nat) : Subject → List Effect
  | .located container spec _ =>
      if workspace.containerNames.find? container = some number then [.partition spec] else []
  | _ => []

/-- What looking up some subjects does to the container of a number, up to the first that
fails. -/
def subjectsEffects (number : Nat) : Workspace → List Subject → List Effect
  | _, [] => []
  | workspace, subject :: rest =>
      subjectEffects workspace number subject ++
        match (requireSubject subject).on workspace with
        | (.ok _, after) => subjectsEffects number after rest
        | (.error _, _) => []

/-- What is left of asking a container, once the request is looked up. -/
def answerNumbered (number : Nat) (found : Request Target)
    (environment : Option Environment) (name : Option String) : Session Outcome := do
  let answer ← onContainer number (found.answer (← get).registry environment)
  bindAnswer name number answer
  return .answer (← nameAnswer answer)

theorem discard_eq_map
    {α : Type}
    (session : Session α) :
    discard session = (fun _ => PUnit.unit) <$> session := rfl

theorem askNumbered_eq
    (number : Nat)
    (request : Request TargetName)
    (name : Option String) :
    askNumbered number request name =
      (lookedUp number request >>= fun found =>
        answerNumbered number found.1 found.2 name) := by
  simp only [askNumbered, askContainer, lookedUp, answerNumbered, bind_assoc, pure_bind]

end Session

open Session in
/-- What a step does to the container of a number. A part of a view is read without
locating anything. -/
def Step.effects (workspace : Workspace) (number : Nat) : Step → List Effect
  | .ask container request _ =>
      if workspace.containerNames.find? container = some number then
        askEffects workspace number request
      else []
  | .unreadable subjects _ => subjectsEffects number workspace subjects
  | _ => []

/-! ## Parts of steps -/

/-- Reading a view does nothing to its container. -/
theorem Likeness.answers_fixed
    {container : Container}
    {admits : Registry → Nat → Prop}
    {request : Request Target}
    (onView : request.onView) :
    (fixed container admits).Answers request := by
  rintro made registry environment _ _ _ left right ⟨⟨⟩, ⟨⟩⟩
  have kept : ((request.answer registry environment).on container).2 = container := by
    rw [Query.does_answer registry environment container request]
    cases request with
    | element view key => rfl
    | elements view => rfl
    | slice view range => rfl
    | _ => contradiction
  exact ⟨rfl, congrArg some kept, congrArg some kept⟩

namespace Workspace

variable {made : List PartitionSpec} {workspace : Workspace}
variable {number : Nat} {container : Container}

/-- A part of a step that is steady when the container stays as it is leaves it so. -/
theorem Settled.keeps
    (settled : workspace.Settled made)
    (present : workspace.containers[number]? = some container)
    {α : Type}
    {promise : Promise α}
    {session : Session α}
    (steady : Session.Steady (.fixed container fun _ _ => True) number made promise session) :
    (session.on workspace).2.containers[number]? = some container ∧
      ∃ later, made <+: later ∧ (session.on workspace).2.Settled later ∧
        ∀ value, (session.on workspace).1 = .ok value → promise later value := by
  obtain ⟨_, later, grown, agrees, promised⟩ :=
    steady made workspace workspace List.prefix_rfl
      (.self ⟨present, present⟩ settled trivial)
  exact ⟨agrees.alike.1, later, grown, agrees.knows, promised⟩

/-- The container of a number is afterwards what some effects make of it, and whatever can
be named was made. -/
def Leaves (made : List PartitionSpec) (number : Nat) (container : Container)
    (effects : List Effect) (after : Workspace) : Prop :=
  after.containers[number]? = some (container.applyAll effects) ∧
    ∃ later, made <+: later ∧ after.Settled later

theorem Settled.leaves
    (settled : workspace.Settled made)
    (present : workspace.containers[number]? = some container) :
    workspace.Leaves made number container [] :=
  ⟨present, made, List.prefix_rfl, settled⟩

theorem Leaves.trans
    {effects later : List Effect}
    {after last : Workspace}
    (leaves : after.Leaves made number container effects)
    (following : ∀ grown, made <+: grown → after.Settled grown →
      after.containers[number]? = some (container.applyAll effects) →
        last.Leaves grown number (container.applyAll effects) later) :
    last.Leaves made number container (effects ++ later) := by
  obtain ⟨present, grown, prefixed, settled⟩ := leaves
  obtain ⟨presentLast, last, prefixedLast, settledLast⟩ :=
    following grown prefixed settled present
  rw [← Container.applyAll_append] at presentLast
  exact ⟨presentLast, last, prefixed.trans prefixedLast, settledLast⟩

/-- A part of a step that is steady when the container stays as it is does nothing to it. -/
theorem Settled.leaves_of_steady
    (settled : workspace.Settled made)
    (present : workspace.containers[number]? = some container)
    {α : Type}
    {promise : Promise α}
    {session : Session α}
    (steady : Session.Steady (.fixed container fun _ _ => True) number made promise session) :
    (session.on workspace).2.Leaves made number container [] := by
  obtain ⟨kept, later, grown, settledAfter, _⟩ := settled.keeps present steady
  exact ⟨kept, later, grown, settledAfter⟩

/-- A query of a container does to it what its effects do. -/
theorem Settled.leaves_onContainer
    (settled : workspace.Settled made)
    (present : workspace.containers[number]? = some container)
    {α : Type}
    {query : Query α}
    {effects : List Effect}
    (does : query.Does container effects) :
    ((Session.onContainer number query).on workspace).2.Leaves made number container
      effects := by
  rw [Session.on_onContainer, present]
  refine ⟨?_, made, List.prefix_rfl, settled⟩
  obtain ⟨bound, _⟩ := Array.getElem?_eq_some_iff.mp present
  rw [← does, Array.getElem?_setIfInBounds, if_pos rfl, if_pos bound]

/-- Looking up a subject does what its effects do. -/
theorem Settled.requireSubject
    (settled : workspace.Settled made)
    (present : workspace.containers[number]? = some container)
    (subject : Subject) :
    ((Session.requireSubject subject).on workspace).2.Leaves made number container
      (Session.subjectEffects workspace number subject) := by
  cases subject with
  | located name spec placed =>
      simp only [Session.requireSubject, Session.subjectEffects]
      rw [Session.on_bind, Session.containerNumber, Session.on_get_bind, Session.bound]
      cases workspace.containerNames.find? name with
      | none => exact settled.leaves present
      | some other =>
          change ((discard (Session.onContainer other (Query.partition spec))).on
            workspace).2.Leaves _ _ _ _
          by_cases here : other = number
          · subst here
            rw [if_pos rfl, Session.discard_eq_map, Session.on_map]
            exact settled.leaves_onContainer present (.partition spec)
          · rw [if_neg (fun same => here (Option.some.inj same))]
            exact settled.leaves_of_steady present
              (Session.Steady.onContainer (.inl here)).discard
  | _ =>
      exact settled.leaves_of_steady present
        (Session.Steady.requireSubject settled.catalogue _ fun _ _ _ same => by contradiction)

/-- Looking up subjects does what their effects do. -/
theorem Settled.requireSubjects
    (settled : workspace.Settled made)
    (present : workspace.containers[number]? = some container)
    (subjects : List Subject) :
    ((subjects.forM Session.requireSubject : Session Unit).on workspace).2.Leaves made number
      container (Session.subjectsEffects number workspace subjects) := by
  induction subjects generalizing workspace made container with
  | nil => exact settled.leaves present
  | cons subject rest inductionHypothesis =>
      have leaves := settled.requireSubject present subject
      rw [List.forM, Session.on_bind, Session.subjectsEffects]
      generalize (Session.requireSubject subject).on workspace = ran at leaves
      obtain ⟨outcome, after⟩ := ran
      cases outcome with
      | error fault =>
          rw [List.append_nil]
          exact leaves
      | ok value =>
          exact leaves.trans fun grown _ settledAfter presentAfter =>
            inductionHypothesis settledAfter presentAfter

/-- Asking the container of a number does what the request does. -/
theorem Settled.askNumbered
    (settled : workspace.Settled made)
    (present : workspace.containers[number]? = some container)
    (request : Request TargetName)
    (name : Option String) :
    ((Session.askNumbered number request name).on workspace).2.Leaves made number container
      (Session.askEffects workspace number request) := by
  have steady : Session.Steady (.fixed container fun _ _ => True) number made .nothing
      (Session.lookedUp number request) :=
    (Session.Steady.lookup settled.catalogue request).bind fun _ _ _ _ =>
      (Session.Steady.environmentOf number).bind fun _ _ _ _ => .pure fun _ _ => trivial
  have leaves := settled.leaves_of_steady present steady
  rw [Session.askNumbered_eq, Session.on_bind, Session.askEffects]
  generalize (Session.lookedUp number request).on workspace = ran at leaves
  obtain ⟨outcome, after⟩ := ran
  cases outcome with
  | error fault => exact leaves
  | ok found =>
      obtain ⟨presentAfter, grown, prefixed, settledAfter⟩ := leaves
      obtain ⟨found, environment⟩ := found
      have presentAfter : after.containers[number]? = some container := presentAfter
      simp only [presentAfter, Session.answerNumbered]
      rw [Session.on_get_bind, Session.on_bind]
      have leavesAfter := settledAfter.leaves_onContainer presentAfter
        (Query.does_answer after.registry environment container found)
      generalize (Session.onContainer number (found.answer after.registry environment)).on
        after = ranQuery at leavesAfter
      obtain ⟨outcome, last⟩ := ranQuery
      obtain ⟨presentLast, grownLast, prefixedLast, settledLast⟩ := leavesAfter
      cases outcome with
      | error fault =>
          exact ⟨presentLast, grownLast, prefixed.trans prefixedLast, settledLast⟩
      | ok answer =>
          obtain ⟨presentEnd, grownEnd, prefixedEnd, settledEnd⟩ :=
            settledLast.leaves_of_steady presentLast
              ((Session.Steady.bindAnswer name number answer).bind fun _ _ _ _ =>
                (Session.Steady.nameAnswer answer).bind fun _ _ _ _ =>
                  Session.Steady.pure fun _ _ => trivial : Session.Steady _ _ _ .nothing _)
          exact ⟨presentEnd, grownEnd, prefixed.trans (prefixedLast.trans prefixedEnd),
            settledEnd⟩

/-- A step does to a container what its effects do, and nothing else. -/
theorem Settled.leaves_perform
    (settled : workspace.Settled made)
    (present : workspace.containers[number]? = some container)
    (step : Step) :
    (step.perform.on workspace).2.Leaves made number container
      (step.effects workspace number) := by
  cases asks : step.asks with
  | false =>
      have quiet : step.effects workspace number = [] := by
        cases step with
        | ask name request binding => contradiction
        | unreadable subjects fault => contradiction
        | _ => rfl
      rw [quiet]
      exact settled.leaves_of_steady present
        (Session.Steady.perform settled.catalogue asks (.inr fun _ _ _ _ => trivial)
          (.inr fun _ _ _ => trivial))
  | true =>
      cases step with
      | ask name request binding =>
          rw [Step.effects]
          cases named : workspace.containerNames.find? name with
          | none =>
              rw [Session.on_ask_of_none named]
              exact settled.leaves present
          | some other =>
              rw [Session.on_ask_of_some named]
              by_cases here : other = number
              · subst here
                rw [if_pos rfl]
                exact settled.askNumbered present request binding
              · rw [if_neg (fun same => here (Option.some.inj same))]
                exact settled.leaves_of_steady present
                  (Session.Steady.askNumbered settled.catalogue (.inl here) binding)
      | viewPart part request =>
          exact settled.leaves_of_steady present
            (Session.Steady.viewPart (fun _ onView => Likeness.answers_fixed onView) part
              request)
      | unreadable subjects fault =>
          have leaves := settled.requireSubjects present subjects
          rw [Step.perform, Session.on_bind, Step.effects]
          generalize (subjects.forM Session.requireSubject : Session Unit).on workspace = ran
            at leaves
          obtain ⟨outcome, after⟩ := ran
          cases outcome with
          | error fault => exact leaves
          | ok value => exact leaves
      | _ => contradiction

/-! ## Partitions that were made -/

end Workspace

/-- A partition that an effect locates is that of a specification that was made. -/
def Effect.MadeIn (effect : Effect) (made : List PartitionSpec) : Prop :=
  ∀ spec, effect = .partition spec → spec.MadeIn made

namespace Query

variable {made : List PartitionSpec} {registry : Registry}

theorem madeIn_of_mem_resolveEffects
    (known : ∀ spec ∈ registry.sorted, spec.MadeIn made)
    {value : Value}
    {effect : Effect}
    (member : effect ∈ resolveEffects registry value) :
    effect.MadeIn made := by
  cases value with
  | tagged index =>
      rw [resolveEffects] at member
      split at member
      · contradiction
      · split at member
        · contradiction
        next spec found =>
          obtain rfl := List.mem_singleton.mp member
          rintro _ ⟨⟩
          exact known spec (List.mem_of_find?_eq_some found)
  | _ => contradiction

theorem madeIn_of_mem_entriesEffects
    (known : ∀ spec ∈ registry.sorted, spec.MadeIn made)
    {view : View}
    {container : Container}
    {count position : Nat}
    {effect : Effect}
    (member : effect ∈ entriesEffects registry view container count position) :
    effect.MadeIn made := by
  induction count generalizing container position with
  | zero => contradiction
  | succ remaining inductionHypothesis =>
      rw [entriesEffects] at member
      split at member
      · contradiction
      · obtain first | others := List.mem_append.mp member
        · exact madeIn_of_mem_resolveEffects known first
        · split at others
          · exact inductionHypothesis others
          · contradiction

/-- An access to a partition, and another one if it is answered. -/
theorem madeIn_of_mem_walk
    {made : List PartitionSpec}
    {first next : PartitionSpec}
    (ownFirst : (Effect.partition first).MadeIn made)
    (ownNext : (Effect.partition next).MadeIn made)
    (answered : Except Fault Value) :
    ∀ effect ∈ Effect.partition first ::
      (match answered with
        | .ok _ => [Effect.partition next]
        | .error _ => []), effect.MadeIn made := by
  refine List.forall_mem_cons.mpr ⟨ownFirst, ?_⟩
  cases answered with
  | ok value => exact List.forall_mem_singleton.mpr ownNext
  | error fault => exact List.forall_mem_nil _

end Query

/-- A request locates the partition that it names, and partitions that are known. -/
theorem Request.madeIn_of_mem_effects
    {made : List PartitionSpec}
    (grown : Catalogue.specs <+: made)
    {registry : Registry}
    (known : ∀ spec ∈ registry.sorted, spec.MadeIn made)
    {environment : Option Environment}
    {container : Container}
    {request : Request Target}
    (own : request.OnTarget fun target => target.MadeIn made) :
    ∀ effect ∈ request.effects registry environment container, effect.MadeIn made := by
  have standard : ∀ spec ∈ Catalogue.standard, (Effect.partition spec).MadeIn made := by
    rintro spec member _ ⟨⟩
    exact Catalogue.madeIn_of_mem_standard member grown
  have absent : ∀ {effect : Effect}, (∀ spec, effect ≠ .partition spec) →
      effect.MadeIn made := fun apart spec same => absurd same (apart spec)
  have imports : ∀ container reference, ∀ effect ∈
      Query.importEffects environment container reference, effect.MadeIn made := by
    intro container reference
    unfold Query.importEffects
    split
    · exact List.forall_mem_singleton.mpr (absent fun _ => by simp)
    · exact List.forall_mem_nil _
  cases request with
  | partition target =>
      simp only [effects]
      cases resolved : target.resolve with
      | error fault => exact List.forall_mem_nil _
      | ok spec =>
          refine List.forall_mem_singleton.mpr ?_
          rintro _ ⟨⟩
          exact own spec resolved
  | globalScope =>
      exact List.forall_mem_singleton.mpr (standard _ (by simp [Catalogue.standard]))
  | verifyChecksum =>
      simp only [effects]
      split
      · exact List.forall_mem_singleton.mpr (absent fun _ => by simp)
      · exact List.forall_mem_nil _
  | close => exact List.forall_mem_singleton.mpr (absent fun _ => by simp)
  | closeAfterUse => exact List.forall_mem_singleton.mpr (absent fun _ => by simp)
  | clearContents => exact List.forall_mem_singleton.mpr (absent fun _ => by simp)
  | resolve index => exact fun effect => Query.madeIn_of_mem_resolveEffects known
  | resolveHeap heap range =>
      simp only [effects, Query.heapEffects]
      cases range.holds "is_empty" with
      | error fault => exact List.forall_mem_nil _
      | ok isEmpty =>
          cases isEmpty with
          | true => exact List.forall_mem_nil _
          | false =>
              cases resolved : heap.resolve with
              | error fault => exact List.forall_mem_nil _
              | ok spec =>
                  refine List.forall_mem_cons.mpr ⟨?_, ?_⟩
                  · rintro _ ⟨⟩
                    exact own spec resolved
                  · split
                    · exact fun effect => Query.madeIn_of_mem_entriesEffects known
                    · exact List.forall_mem_nil _
  | attributesOf declaration => exact List.forall_mem_singleton.mpr (absent fun _ => by simp)
  | traitOf kind declaration => exact List.forall_mem_singleton.mpr (absent fun _ => by simp)
  | deprecationText declaration =>
      exact List.forall_mem_singleton.mpr (absent fun _ => by simp)
  | importedModule reference => exact imports container reference
  | importVia index =>
      refine List.forall_mem_append.mpr
        ⟨fun effect => Query.madeIn_of_mem_resolveEffects known, ?_⟩
      split
      · unfold Query.unitEffects
        split
        · exact imports _ _
        · exact List.forall_mem_nil _
      · exact List.forall_mem_nil _
  | scopeOf declaration =>
      exact List.forall_mem_singleton.mpr (standard _ (by simp [Catalogue.standard]))
  | kindOf declaration =>
      exact Query.madeIn_of_mem_walk (standard _ (by simp [Catalogue.standard]))
        (standard _ (by simp [Catalogue.standard])) _
  | declarationsOf range =>
      exact List.forall_mem_singleton.mpr (standard _ (by simp [Catalogue.standard]))
  | membersOf scope =>
      simp only [effects]
      split
      · exact Query.madeIn_of_mem_walk (standard _ (by simp [Catalogue.standard]))
          (standard _ (by simp [Catalogue.standard])) _
      · exact List.forall_mem_nil _
  | tupleElements key =>
      exact Query.madeIn_of_mem_walk (standard _ (by simp [Catalogue.standard]))
        (standard _ (by simp [Catalogue.standard])) _
  | qualifiedNameParts key =>
      refine List.forall_mem_cons.mpr ⟨standard _ (by simp [Catalogue.standard]), ?_⟩
      split
      · unfold Query.partsEffects
        split
        · split
          · exact Query.madeIn_of_mem_walk (standard _ (by simp [Catalogue.standard]))
              (standard _ (by simp [Catalogue.standard])) _
          · exact List.forall_mem_nil _
        · exact List.forall_mem_nil _
      · exact List.forall_mem_nil _
  | _ => exact List.forall_mem_nil _

namespace Workspace

variable {made : List PartitionSpec} {workspace : Workspace}

/-- What a request locates was made, once the request is looked up. -/
theorem Settled.madeIn_of_mem_askEffects
    (settled : workspace.Settled made)
    (number : Nat)
    (request : Request TargetName) :
    ∀ effect ∈ Session.askEffects workspace number request, effect.MadeIn made := by
  have steady : Session.Steady (.same fun registry _ => registry = workspace.registry) 0 made
      (fun later found => found.1.OnTarget fun target => target.MadeIn later)
      (Session.lookedUp number request) :=
    (Session.Steady.lookup settled.catalogue request).bind fun _ _ _ own =>
      (Session.Steady.environmentOf number).bind fun _ _ grown _ => .pure fun _ later =>
        own.1.imp fun _ ownTarget => ownTarget.mono (grown.trans later)
  obtain ⟨_, settledAfter, own⟩ := settled.steady steady
  rw [Session.askEffects]
  generalize (Session.lookedUp number request).on workspace = ran at settledAfter own
  obtain ⟨outcome, after⟩ := ran
  cases outcome with
  | error fault => exact List.forall_mem_nil _
  | ok found =>
      obtain ⟨found, environment⟩ := found
      simp only
      split
      · exact Request.madeIn_of_mem_effects settledAfter.catalogue settledAfter.sorted
          (own _ rfl)
      · exact List.forall_mem_nil _

theorem Settled.madeIn_of_mem_subjectsEffects
    (settled : workspace.Settled made)
    (number : Nat)
    (subjects : List Subject) :
    ∀ effect ∈ Session.subjectsEffects number workspace subjects, effect.MadeIn made := by
  induction subjects generalizing workspace with
  | nil => exact List.forall_mem_nil _
  | cons subject rest inductionHypothesis =>
      rw [Session.subjectsEffects]
      refine List.forall_mem_append.mpr ⟨?_, ?_⟩
      · unfold Session.subjectEffects
        split
        next container spec placed =>
          split
          · refine List.forall_mem_singleton.mpr ?_
            rintro _ ⟨⟩
            exact getElem?_of_isPrefix settled.catalogue placed
          · exact List.forall_mem_nil _
        next => exact List.forall_mem_nil _
      · obtain ⟨_, settledAfter, _⟩ := settled.steady
          (Session.Steady.requireSubject settled.catalogue subject
            fun _ _ _ _ _ _ => Likeness.keeps_same _)
        generalize (Session.requireSubject subject).on workspace = ran at settledAfter
        obtain ⟨outcome, after⟩ := ran
        cases outcome with
        | error fault => exact List.forall_mem_nil _
        | ok value => exact inductionHypothesis settledAfter

/-- What a step locates was made. -/
theorem Settled.madeIn_of_mem_effects
    (settled : workspace.Settled made)
    (number : Nat)
    (step : Step) :
    ∀ effect ∈ step.effects workspace number, effect.MadeIn made := by
  cases step with
  | ask container request name =>
      rw [Step.effects]
      split
      · exact settled.madeIn_of_mem_askEffects number request
      · exact List.forall_mem_nil _
  | unreadable subjects fault => exact settled.madeIn_of_mem_subjectsEffects number subjects
  | _ => exact List.forall_mem_nil _

end Workspace
end ModuleInterface

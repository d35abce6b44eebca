import Mathlib
import ModuleInterface.Proofs.Container.Byteless
import ModuleInterface.Proofs.Workspace.Asking
import ModuleInterface.Proofs.Workspace.History

/-!
# Sessions in which a container is closed

A session is compared with the same session in which a container is closed at some point.
From then on the container outlasts the closed one, and the two workspaces differ in nothing
else (`Likeness.release`): a step that is refused because the bytes are released would have
bound no name, since what is answered by a view needs no byte. So every step has the same
outcome in both sessions, or fails in the second one because the bytes are released.
-/

namespace ModuleInterface

/-! ## Workspaces in which a container is closed -/

/-- A container that has the tables of one that has just been opened is not closed. -/
theorem Container.Sound.reopened_eq
    {container : Container}
    {made : List PartitionSpec}
    (sound : container.Sound made) :
    container.reopened = container := by
  obtain ⟨data, backing, fresh, loaded, tables⟩ := sound.opened
  have blob : container.blob = .of data backing :=
    (congrArg Container.blob tables).trans (stores_of_load loaded).blob
  rw [reopened, blob]
  exact congrArg (fun blob => { container with blob }) blob.symm

namespace Likeness

/-- Before a container is closed it is the same in both workspaces, and from then on it
outlasts a closed one. What it remembers is what it would find if it had not been closed. -/
def release (closed : Bool) : Likeness where
  alike made left right :=
    (∀ container, left = some container → container.reopened.Sound made) ∧
      match closed with
      | false => left = right
      | true => ∃ container other, left = some container ∧ right = some other ∧
          container.Outlasts other made
  admits _ _ := True
  mono alike grown := by
    refine ⟨fun container found => (alike.1 container found).mono grown, ?_⟩
    cases closed with
    | false => exact alike.2
    | true =>
        obtain ⟨_, container, other, found, foundOther, outlasts⟩ := alike
        exact ⟨container, other, found, foundOther, outlasts.mono grown⟩
  environment alike := by
    cases closed with
    | false => exact congrArg (·.bind Container.environment) alike.2
    | true =>
        obtain ⟨_, container, other, rfl, rfl, outlasts⟩ := alike
        exact (congrArg Container.environment outlasts.tables).symm
  opened alike opened := by
    cases closed with
    | false =>
        refine ⟨fun container found => ?_, rfl⟩
        cases found
        rw [opened.sound.reopened_eq]
        exact opened.sound
    | true =>
        obtain ⟨_, container, other, found, _⟩ := alike
        cases found

variable {closed : Bool} {made : List PartitionSpec} {left right : Container}

theorem sound_of_release
    (alike : (release closed).alike made (some left) (some right)) :
    left.reopened.Sound made :=
  alike.1 left rfl

/-- What a container that is closed would outlast, it still outlasts afterwards. -/
theorem release_of_outlasts
    (alike : (release closed).alike made (some left) (some right))
    {leftAfter rightAfter : Container}
    (alone : leftAfter.Outlasts left.closed made)
    (together : match closed with
      | false => leftAfter = rightAfter
      | true => leftAfter.Outlasts rightAfter made) :
    (release closed).alike made (some leftAfter) (some rightAfter) := by
  refine ⟨fun container found => ?_, ?_⟩
  · cases found
    exact (sound_of_release alike).of_bare alone.tables.symm alone.remembers
  · cases closed with
    | false => exact congrArg some together
    | true => exact ⟨leftAfter, rightAfter, rfl, rfl, together⟩

/-- A partition is located without a byte. -/
theorem keeps_release_partition
    {spec : PartitionSpec}
    (own : spec.MadeIn made) :
    (release closed).Keeps made (Query.partition spec) := by
  intro left right alike
  have respects := (Query.memo_partition own).respects_release
  have alone := respects.alone trivial
    (Container.outlasts_closed (sound_of_release alike).remembers)
  cases closed with
  | false =>
      obtain ⟨_, same⟩ := id alike
      cases same
      exact ⟨rfl, release_of_outlasts alike alone rfl⟩
  | true =>
      obtain ⟨_, container, other, found, foundOther, outlasts⟩ := id alike
      cases found
      cases foundOther
      exact ⟨(outlasts.partition own).symm,
        release_of_outlasts alike alone (respects.together outlasts).2⟩

/-- Containers that are alike are left so, and what the second one answers is what the first
one answers, or neither answers by a view and the bytes are released. -/
theorem release_answer
    (alike : (release closed).alike made (some left) (some right))
    (grown : Catalogue.specs <+: made)
    {registry : Registry}
    (known : ∀ spec ∈ registry.sorted, spec.MadeIn made)
    (environment : Option Environment)
    {request : Request Target}
    (own : request.OnTarget fun target => target.MadeIn made)
    (keeps : request.keepsContents) :
    (release closed).alike made (some ((request.answer registry environment).on left).2)
      (some ((request.answer registry environment).on right).2) ∧
    (((request.answer registry environment).on right).1 =
        ((request.answer registry environment).on left).1 ∨
      (∀ view, ((request.answer registry environment).on left).1 ≠ .ok (.view view)) ∧
      (∀ view, ((request.answer registry environment).on right).1 ≠ .ok (.view view)) ∧
      (request.asksReleased = false →
        ((request.answer registry environment).on right).1 = .error .released)) := by
  have alone := ((Container.outlasts_closed (sound_of_release alike).remembers).answer grown
    known environment own keeps).2.2
  cases closed with
  | false =>
      obtain ⟨_, same⟩ := id alike
      cases same
      exact ⟨release_of_outlasts alike alone rfl, .inl rfl⟩
  | true =>
      obtain ⟨_, container, other, found, foundOther, outlasts⟩ := id alike
      cases found
      cases foundOther
      obtain ⟨answer, together, _⟩ := outlasts.answer grown known environment own keeps
      refine ⟨release_of_outlasts alike alone together, ?_⟩
      by_cases same : ((request.answer registry environment).on right).1 =
          ((request.answer registry environment).on left).1
      · exact .inl same
      · cases answersView : request.answersView with
        | true =>
            have keepsContainer : request.keepsContainer := by
              cases request <;> first | rfl | contradiction
            exact absurd (outlasts.answer_eq grown known environment own keepsContainer
              (Query.needsNoByte_of_byteless environment
                (Request.byteless_of_answersView answersView registry right))) same
        | false =>
            have never : Query.NeverView (request.answer registry environment) :=
              Query.neverView_answer answersView
            exact .inr ⟨never left, never right, fun plain => (answer plain).resolve_left same⟩

end Likeness

namespace Request

/-- Looking up what stands for a partition changes nothing else about a request. -/
@[simp] theorem keepsContents_erased
    {target : Type}
    (request : Request target) :
    request.erased.keepsContents = request.keepsContents := by
  cases request <;> rfl

@[simp] theorem asksReleased_erased
    {target : Type}
    (request : Request target) :
    request.erased.asksReleased = request.asksReleased := by
  cases request <;> rfl

end Request

/-! ## Parts of steps that may fail -/

namespace Session

variable {α β : Type} {closed : Bool} {number : Nat} {before : List PartitionSpec}
variable {shown : Prop}

/-- A part of a session has the same outcome if the container was closed, or fails because
the bytes are released, and leaves workspaces that agree. What it answers counts only where
it is shown. -/
def Lenient (closed : Bool) (number : Nat) (before : List PartitionSpec) (shown : Prop)
    (session : Session α) : Prop :=
  ∀ made left right, before <+: made → Workspace.Agrees (.release closed) number made left right →
    (shown → (session.on right).1 = (session.on left).1 ∨
      (session.on right).1 = .error .released) ∧
    ∃ after, made <+: after ∧
      Workspace.Agrees (.release closed) number after (session.on left).2 (session.on right).2

theorem Steady.lenient
    {promise : Promise α}
    {session : Session α}
    (steady : Steady (.release closed) number before promise session) :
    Lenient closed number before shown session := by
  intro made left right grown agrees
  obtain ⟨same, after, grownAfter, agreesAfter, _⟩ := steady made left right grown agrees
  exact ⟨fun _ => .inl same.symm, after, grownAfter, agreesAfter⟩

/-- What does nothing to a workspace unless it is given a view. -/
def Idle (rest : Answer → Session α) : Prop :=
  ∀ answer, (∀ view, answer ≠ .view view) → ∀ workspace,
    ((rest answer).on workspace).2 = workspace

theorem Idle.continued
    {rest : Answer → Session α}
    (idle : Idle rest)
    {outcome : Except Fault Answer}
    (apart : ∀ view, outcome ≠ .ok (.view view))
    (workspace : Workspace) :
    (Session.continued rest outcome workspace).2 = workspace := by
  cases outcome with
  | error fault => rfl
  | ok answer => exact idle answer (fun view same => apart view (congrArg _ same)) workspace

/-- An answer that is no view is named nowhere. -/
theorem idle_answered
    (name : Option String)
    (number : Nat) :
    Idle (answered name number) := by
  intro answer apart workspace
  cases answer with
  | view view => exact absurd rfl (apart view)
  | _ => rfl

namespace Lenient

/-- A part that has the same outcome in both workspaces comes first. -/
theorem bind
    {promise : Promise α}
    {first : Session α}
    {rest : α → Session β}
    (steadyFirst : Steady (.release closed) number before promise first)
    (lenientRest : ∀ made value, before <+: made → promise made value →
      Lenient closed number made shown (rest value)) :
    Lenient closed number before shown (first >>= rest) := by
  intro made left right grown agrees
  obtain ⟨same, between, grownBetween, agreesBetween, promised⟩ :=
    steadyFirst made left right grown agrees
  rw [on_bind, on_bind]
  generalize first.on left = ranLeft at same agreesBetween promised
  generalize first.on right = ranRight at same agreesBetween
  obtain ⟨outcome, afterLeft⟩ := ranLeft
  obtain ⟨outcomeRight, afterRight⟩ := ranRight
  simp only at same agreesBetween promised
  subst same
  cases outcome with
  | error fault => exact ⟨fun _ => .inl rfl, between, grownBetween, agreesBetween⟩
  | ok value =>
      obtain ⟨answer, after, grownAfter, agreesAfter⟩ :=
        lenientRest between value (grown.trans grownBetween) (promised value rfl) between
          afterLeft afterRight List.prefix_rfl agreesBetween
      exact ⟨answer, after, grownBetween.trans grownAfter, agreesAfter⟩

/-- When a closed container fails, neither workspace binds a name. -/
theorem continued
    {made : List PartitionSpec}
    {left right : Workspace}
    (agrees : Workspace.Agrees (.release closed) number made left right)
    {outcome other : Except Fault Answer}
    (answer : other = outcome ∨
      (∀ view, outcome ≠ .ok (.view view)) ∧ (∀ view, other ≠ .ok (.view view)) ∧
        (shown → other = .error .released))
    {promise : Promise α}
    {rest : Answer → Session α}
    (steady : ∀ answer, Steady (.release closed) number made promise (rest answer))
    (idle : Idle rest) :
    (shown → (Session.continued rest other right).1 = (Session.continued rest outcome left).1 ∨
      (Session.continued rest other right).1 = .error .released) ∧
    ∃ after, made <+: after ∧ Workspace.Agrees (.release closed) number after
      (Session.continued rest outcome left).2 (Session.continued rest other right).2 := by
  obtain rfl | ⟨apart, apartOther, released⟩ := answer
  · cases other with
    | error fault => exact ⟨fun _ => .inl rfl, made, List.prefix_rfl, agrees⟩
    | ok answer =>
        obtain ⟨same, after, grown, agreesAfter, _⟩ :=
          steady answer made left right List.prefix_rfl agrees
        exact ⟨fun _ => .inl same.symm, after, grown, agreesAfter⟩
  · rw [idle.continued apart, idle.continued apartOther]
    refine ⟨fun isShown => .inr ?_, made, List.prefix_rfl, agrees⟩
    rw [released isShown]
    rfl

/-- A container is asked, and what follows is given its answer. -/
theorem ask
    (grown : Catalogue.specs <+: before)
    (found : Request Target)
    (own : found.OnTarget fun target => target.MadeIn before)
    (keeps : found.keepsContents)
    (plain : shown → found.asksReleased = false)
    {promise : Promise α}
    {rest : Answer → Session α}
    (steady : ∀ made answer, before <+: made →
      Steady (.release closed) number made promise (rest answer))
    (idle : Idle rest) :
    Lenient closed number before shown (askContainer number found >>= rest) := by
  intro made left right grownMade agrees
  have environments := (agrees.steady (Steady.environmentOf number)).1
  rw [on_askContainer_bind, on_askContainer_bind, ← environments, ← agrees.registry]
  cases ((environmentOf number).on left).1 with
  | error fault => exact ⟨fun _ => .inl rfl, made, List.prefix_rfl, agrees⟩
  | ok environment =>
      simp only
      cases foundLeft : left.containers[number]? with
      | none =>
          rw [agrees.right_none foundLeft]
          exact ⟨fun _ => .inl rfl, made, List.prefix_rfl, agrees⟩
      | some container =>
          obtain ⟨other, foundRight⟩ := agrees.exists_right foundLeft
          have alike := agrees.alike
          rw [foundLeft, foundRight] at alike
          rw [foundRight]
          obtain ⟨alikeAfter, answer⟩ := Likeness.release_answer alike (grown.trans grownMade)
            agrees.knows.sorted environment (own.imp fun target own => own.mono grownMade) keeps
          have stored := agrees.store (fun different => absurd rfl different) fun _ => alikeAfter
          exact continued (stored.report _ _)
            (answer.imp_right fun apart =>
              ⟨apart.1, apart.2.1, fun isShown => apart.2.2 (plain isShown)⟩)
            (fun answer => steady made answer grownMade) idle

/-- Asking a container binds a name only if the answer is a view. -/
theorem askNumbered
    (grown : Catalogue.specs <+: before)
    {request : Request TargetName}
    (keeps : request.keepsContents)
    (plain : shown → request.asksReleased = false)
    (name : Option String) :
    Lenient closed number before shown (Session.askNumbered number request name) := by
  refine bind (Steady.lookup grown request) fun made found grownMade own => ?_
  obtain ⟨own, same⟩ := own
  rw [← Request.keepsContents_erased, ← same, Request.keepsContents_erased] at keeps
  rw [← Request.asksReleased_erased, ← same, Request.asksReleased_erased] at plain
  exact ask (grown.trans grownMade) found own keeps plain
    (fun later answer _ => (Steady.bindAnswer name number answer).bind fun _ _ _ _ =>
      (Steady.nameAnswer answer).bind fun _ _ _ _ => (Steady.pure fun _ _ => trivial :
        Steady _ _ _ .nothing _)) (idle_answered name number)

theorem useView
    (grown : Catalogue.specs <+: before)
    (other : Nat)
    (view : View)
    (request : ViewRequest) :
    Lenient closed number before shown (Session.useView other view request) := by
  by_cases here : other = number
  · subst here
    cases request with
    | element key =>
        exact ask grown (.element view key) trivial rfl (fun _ => rfl)
          (fun _ _ _ => (Steady.pure fun _ _ => trivial : Steady _ _ _ .nothing _))
          fun _ _ _ => rfl
    | elements =>
        exact ask grown (.elements view) trivial rfl (fun _ => rfl)
          (fun _ _ _ => (Steady.pure fun _ _ => trivial : Steady _ _ _ .nothing _))
          fun _ _ _ => rfl
    | slice range name =>
        refine ask grown (.slice view range) trivial rfl (fun _ => rfl)
          (fun _ answer _ => (Steady.bindAnswer name other answer).bind fun _ _ _ _ =>
            (Steady.pure fun _ _ => trivial : Steady _ _ _ .nothing _)) ?_
        intro answer apart workspace
        cases answer with
        | view view => exact absurd rfl (apart view)
        | _ => rfl
    | describe => exact (Steady.pure fun _ _ => trivial : Steady _ _ _ .nothing _).lenient
  · exact (Steady.useView other view request (.inl here)).lenient

theorem viewPart
    (grown : Catalogue.specs <+: before)
    (part : String)
    (request : ViewRequest) :
    Lenient closed number before shown (Step.viewPart part request).perform := by
  intro made left right grownMade agrees
  rw [Step.perform, on_get_bind, on_get_bind, ← agrees.views]
  exact bind (Steady.known left.views part)
    (fun _ found later _ => useView (grown.trans later) found.1 found.2 request) made left right
      grownMade agrees

end Lenient
end Session

/-! ## Steps and runs -/

namespace Workspace

/-- A step does not forget the table of contents of the container of a number. -/
def KeepsContents (workspace : Workspace) (number : Nat) : Step → Prop
  | .ask container request _ =>
      workspace.containerNames.find? container = some number → request.keepsContents
  | _ => True

/-- No step of a run forgets the table of contents of the container of a number. -/
def KeepsContentsAll (number : Nat) : Workspace → List Step → Prop
  | _, [] => True
  | workspace, step :: rest =>
      workspace.KeepsContents number step ∧ KeepsContentsAll number (workspace.run step).2.1 rest

/-- A step asks if the bytes of the container of a number are released. -/
def AsksReleased (workspace : Workspace) (number : Nat) : Step → Prop
  | .ask container request _ =>
      workspace.containerNames.find? container = some number ∧ request.asksReleased
  | _ => False

variable {closed : Bool} {number : Nat} {made : List PartitionSpec}
variable {left right : Workspace}

/-- A step has the same outcome if a container was closed, or fails because the bytes are
released. -/
theorem Agrees.perform_release
    (agrees : Agrees (.release closed) number made left right)
    {step : Step}
    (keeps : left.KeepsContents number step) :
    (¬left.AsksReleased number step →
      (step.perform.on right).1 = (step.perform.on left).1 ∨
        (step.perform.on right).1 = .error .released) ∧
    ∃ later, made <+: later ∧
      Agrees (.release closed) number later (step.perform.on left).2 (step.perform.on right).2 := by
  have grown := agrees.knows.catalogue
  have lenient : ∀ {shown : Prop}, Session.Lenient closed number made shown step.perform →
      (shown → (step.perform.on right).1 = (step.perform.on left).1 ∨
        (step.perform.on right).1 = .error .released) ∧
      ∃ later, made <+: later ∧
        Agrees (.release closed) number later (step.perform.on left).2 (step.perform.on right).2 :=
    fun lenient => lenient made left right List.prefix_rfl agrees
  cases asks : step.asks with
  | false =>
      exact lenient (Session.Steady.perform grown asks (.inr fun _ _ _ _ => trivial)
        (.inr fun _ _ _ => trivial)).lenient
  | true =>
      cases step with
      | ask container request name =>
          have names := agrees.containerNames
          cases named : left.containerNames.find? container with
          | none =>
              rw [Session.on_ask_of_none named, Session.on_ask_of_none (names ▸ named)]
              exact ⟨fun _ => .inl rfl, made, List.prefix_rfl, agrees⟩
          | some other =>
              rw [Session.on_ask_of_some named, Session.on_ask_of_some (names ▸ named)]
              by_cases here : other = number
              · subst here
                refine Session.Lenient.askNumbered grown (keeps named) (fun plain => ?_) name
                  made left right List.prefix_rfl agrees
                rw [AsksReleased, not_and] at plain
                exact Bool.eq_false_iff.mpr (plain named)
              · exact (Session.Steady.askNumbered grown (.inl here) name).lenient made left
                  right List.prefix_rfl agrees
      | viewPart part request =>
          exact lenient (Session.Lenient.viewPart grown part request)
      | unreadable subjects fault =>
          exact lenient (Session.Steady.unreadable grown
            (fun _ _ own => Likeness.keeps_release_partition own) subjects fault).lenient
      | _ => contradiction

theorem Agrees.run_release
    (agrees : Agrees (.release closed) number made left right)
    {step : Step}
    (keeps : left.KeepsContents number step)
    (plain : ¬left.AsksReleased number step) :
    (right.run step).1 = (left.run step).1 ∨ (right.run step).1 = .error .released := by
  rw [run_fst, run_fst]
  obtain same | released := (agrees.perform_release keeps).1 plain
  · exact .inl (by rw [same])
  · exact .inr (by rw [released]; rfl)

theorem Agrees.after_release
    (agrees : Agrees (.release closed) number made left right)
    {steps : List Step}
    (keeps : KeepsContentsAll number left steps) :
    ∃ later, made <+: later ∧
      Agrees (.release closed) number later (left.after steps) (right.after steps) := by
  induction steps generalizing made left right with
  | nil => exact ⟨made, List.prefix_rfl, agrees⟩
  | cons step rest inductionHypothesis =>
      obtain ⟨first, others⟩ := keeps
      obtain ⟨_, between, grown, agreesBetween⟩ := agrees.perform_release first
      obtain ⟨later, grownLater, agreesLater⟩ := inductionHypothesis agreesBetween others
      exact ⟨later, grown.trans grownLater, agreesLater⟩

end Workspace
end ModuleInterface

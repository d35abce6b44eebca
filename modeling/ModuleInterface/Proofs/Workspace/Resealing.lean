import Mathlib
import ModuleInterface.Proofs.Container.Overlooking
import ModuleInterface.Proofs.Workspace.Release
import ModuleInterface.Proofs.Workspace.Views

/-!
# Sessions over another checksum

A session is compared with the same session in which a container was opened over bytes that
record another checksum. The two workspaces differ in nothing but this container
(`Likeness.resealed`), and whatever the session does it has the same outcome in both, unless
it asks for the checksum (`Workspace.Twins.run`). What it names as views of the container
starts after the checksum in both.
-/

namespace ModuleInterface

open Acceptance

/-! ## Containers that are compared -/

namespace Likeness

variable {data altered : List UInt8} {made : List PartitionSpec}

/-- The second container is the first one over other bytes, apart from its journal. -/
def resealed (data altered : List UInt8) : Likeness where
  alike _ left right := ∃ container journal, left = some container ∧
    right = some (container.rebased altered journal) ∧ container.Based data
  admits _ _ := True
  mono alike _ := alike
  environment alike := by
    obtain ⟨container, journal, rfl, rfl, _⟩ := alike
    rfl
  opened alike _ := by
    obtain ⟨container, _, absent, _⟩ := alike
    cases absent

/-- A query that overlooks the checksum has the same answer on both containers. -/
theorem keeps_resealed
    {α : Type}
    {promise : α → Prop}
    {query : Query α}
    (overlooks : query.Overlooks data altered promise) :
    (resealed data altered).Keeps made query := by
  intro left right alike
  obtain ⟨container, journal, ⟨⟩, ⟨⟩, based⟩ := alike
  obtain ⟨⟨later, same⟩, basedAfter, _⟩ := overlooks left journal based
  rw [same]
  exact ⟨rfl, _, later, rfl, rfl, basedAfter⟩

/-- So has a request that does not ask for the checksum. -/
theorem answers_resealed
    (differs : Resealed data altered)
    (table : 36 ≤ tableStart data)
    {request : Request Target}
    (clear : request.Clear)
    (quiet : request.asksChecksum = false) :
    (resealed data altered).Answers request :=
  fun _ registry environment _ _ _ =>
    keeps_resealed (.answer differs table registry environment clear quiet)

end Likeness

namespace Request

variable {target : Type}

/-- Looking up what stands for a partition changes nothing else about a request. -/
@[simp] theorem view?_erased
    (request : Request target) :
    request.erased.view? = request.view? := by
  cases request <;> rfl

@[simp] theorem asksChecksum_erased
    (request : Request target) :
    request.erased.asksChecksum = request.asksChecksum := by
  cases request <;> rfl

theorem Clear.of_erased
    {other : Type}
    {request : Request target}
    {found : Request other}
    (clear : request.Clear)
    (same : found.erased = request.erased) :
    found.Clear := by
  intro view isView
  rw [← view?_erased, same, view?_erased] at isView
  exact clear view isView

theorem asksChecksum_of_erased
    {other : Type}
    {request : Request target}
    {found : Request other}
    (same : found.erased = request.erased) :
    found.asksChecksum = request.asksChecksum := by
  rw [← asksChecksum_erased, same, asksChecksum_erased]

end Request

/-! ## Steps -/

namespace Workspace

/-- Where a step asks the container of a number for a part of a view that it gives outright,
the view starts after the checksum, as all views do that the container answers. -/
def AsksClear (workspace : Workspace) (number : Nat) : Step → Prop
  | .ask container request _ =>
      workspace.containerNames.find? container = some number → request.Clear
  | _ => True

/-- A step asks for the checksum of the container of a number. -/
def AsksChecksum (workspace : Workspace) (number : Nat) : Step → Prop
  | .ask container request _ =>
      workspace.containerNames.find? container = some number ∧ request.asksChecksum
  | _ => False

variable {data altered : List UInt8} {number : Nat} {made : List PartitionSpec}
variable {left right : Workspace}

/-- Asking for the checksum names nothing. -/
theorem Agrees.ask_checksum
    (agrees : Agrees (.resealed data altered) number made left right)
    {request : Request TargetName}
    (asks : request.asksChecksum)
    (name : Option String) :
    Agrees (.resealed data altered) number made
      ((Session.askNumbered number request name).on left).2
      ((Session.askNumbered number request name).on right).2 := by
  obtain ⟨found, looked, asksFound⟩ : ∃ found : Request Target,
      (∀ workspace, ((request.lookup Session.target).on workspace).1 = .ok found) ∧
        found.asksChecksum := by
    cases request with
    | header => exact ⟨.header, fun _ => rfl, rfl⟩
    | verifyChecksum => exact ⟨.verifyChecksum, fun _ => rfl, rfl⟩
    | _ => contradiction
  have never : ∀ environment,
      Query.NeverView (found.answer left.registry environment) := by
    refine fun environment => Query.neverView_answer ?_
    cases found <;> first | rfl | contradiction
  have environments := (agrees.steady (Session.Steady.environmentOf number)).1
  rw [Session.on_askNumbered, Session.on_askNumbered, looked, looked]
  simp only
  rw [Session.on_askContainer_bind, Session.on_askContainer_bind, ← environments,
    ← agrees.registry]
  cases ((Session.environmentOf number).on left).1 with
  | error fault => exact agrees
  | ok environment =>
      simp only
      obtain ⟨container, journal, foundLeft, foundRight, based⟩ := agrees.alike
      rw [foundLeft, foundRight]
      simp only
      rw [(Session.idle_answered name number).continued (never environment _),
        (Session.idle_answered name number).continued (never environment _)]
      obtain ⟨⟨later, same⟩, basedAfter⟩ := based.exists_rebased_of_asksChecksum altered
        asksFound left.registry environment journal
      exact (agrees.store (fun different => absurd rfl different) fun _ =>
        ⟨_, later, rfl, congrArg some same, basedAfter⟩).report _ _

/-- Two workspaces differ in one container, which the second one has over other bytes, and
the views of it that have names start after the checksum. -/
structure Twins (data altered : List UInt8) (number : Nat) (made : List PartitionSpec)
    (left right : Workspace) : Prop where
  agrees : Agrees (.resealed data altered) number made left right
  views : left.HoldOfViews fun owner view => owner = number → view.Clear

namespace Twins

variable {step : Step} (twins : Twins data altered number made left right)

include twins

/-- A part of a named view is asked for. -/
theorem viewPart
    (differs : Resealed data altered)
    (table : 36 ≤ tableStart data)
    (part : String)
    (request : ViewRequest) :
    ((Step.viewPart part request).perform.on left).1 =
        ((Step.viewPart part request).perform.on right).1 ∧
      ∃ later, made <+: later ∧ Agrees (.resealed data altered) number later
        ((Step.viewPart part request).perform.on left).2
        ((Step.viewPart part request).perform.on right).2 := by
  rw [Step.perform, Session.on_get_bind, Session.on_get_bind, ← twins.agrees.views,
    Session.bound]
  cases bound : left.views.find? part with
  | none => exact ⟨rfl, made, List.prefix_rfl, twins.agrees⟩
  | some found =>
      obtain ⟨owner, view⟩ := found
      rw [pure_bind]
      refine twins.agrees.steady (Session.Steady.useView owner view request ?_)
      by_cases here : owner = number
      · refine .inr fun asked isView => Likeness.answers_resealed differs table ?_ ?_
        · intro other same
          rw [isView] at same
          exact Option.some.inj same ▸ twins.views part owner view bound here
        · cases asked <;> first | rfl | contradiction
      · exact .inl here

/-- A step has the same outcome in both workspaces unless it asks for the checksum, and they
differ afterwards as they did. -/
theorem perform
    (differs : Resealed data altered)
    (table : 36 ≤ tableStart data)
    (clear : left.AsksClear number step) :
    (¬left.AsksChecksum number step → (step.perform.on left).1 = (step.perform.on right).1) ∧
      ∃ later, made <+: later ∧ Agrees (.resealed data altered) number later
        (step.perform.on left).2 (step.perform.on right).2 := by
  have agrees := twins.agrees
  have grown := agrees.knows.catalogue
  have steady : ∀ {shown : Prop} {promise : Promise Outcome} {session : Session Outcome},
      Session.Steady (.resealed data altered) number made promise session →
        (shown → (session.on left).1 = (session.on right).1) ∧
        ∃ later, made <+: later ∧ Agrees (.resealed data altered) number later
          (session.on left).2 (session.on right).2 := by
    intro shown promise session steady
    obtain ⟨same, later⟩ := agrees.steady steady
    exact ⟨fun _ => same, later⟩
  cases asks : step.asks with
  | false =>
      exact steady (Session.Steady.perform grown asks (.inr fun _ _ _ _ => trivial)
        (.inr fun _ _ _ => trivial))
  | true =>
      cases step with
      | ask container request name =>
          have names := agrees.containerNames
          cases named : left.containerNames.find? container with
          | none =>
              rw [Session.on_ask_of_none named, Session.on_ask_of_none (names ▸ named)]
              exact ⟨fun _ => rfl, made, List.prefix_rfl, agrees⟩
          | some other =>
              rw [Session.on_ask_of_some named, Session.on_ask_of_some (names ▸ named)]
              by_cases here : other = number
              · subst here
                cases asksChecksum : request.asksChecksum with
                | true =>
                    exact ⟨fun quiet => absurd ⟨named, asksChecksum⟩ quiet, made,
                      List.prefix_rfl, agrees.ask_checksum asksChecksum name⟩
                | false =>
                    refine steady (Session.Steady.askNumbered grown (.inr fun found same => ?_)
                      name)
                    exact Likeness.answers_resealed differs table ((clear named).of_erased same)
                      ((Request.asksChecksum_of_erased same).trans asksChecksum)
              · exact steady (Session.Steady.askNumbered grown (.inl here) name)
      | viewPart part request =>
          obtain ⟨same, later⟩ := twins.viewPart differs table part request
          exact ⟨fun _ => same, later⟩
      | unreadable subjects fault =>
          exact steady (Session.Steady.unreadable grown
            (fun _ spec _ => Likeness.keeps_resealed (.partition spec)) subjects fault)
      | _ => contradiction

/-- A view that a step is answered by the container starts after the checksum. -/
theorem views_perform
    (differs : Resealed data altered)
    (table : 36 ≤ tableStart data)
    (clear : left.AsksClear number step) :
    (step.perform.on left).2.HoldOfViews fun owner view => owner = number → view.Clear := by
  refine twins.views.perform fun owner found view asks answered here => ?_
  subst here
  obtain ⟨environment, container, present, answered⟩ := Session.exists_answer_of_ask answered
  obtain ⟨_, journal, same, _, based⟩ := twins.agrees.alike
  cases present.symm.trans same
  have clearFound : found.Clear := by
    cases step with
    | ask name request binding =>
        obtain ⟨named, looked⟩ := asks
        obtain ⟨_, _, _, _, promised⟩ :=
          Session.Steady.lookup twins.agrees.knows.catalogue request made left right
            List.prefix_rfl twins.agrees
        exact (clear named).of_erased (promised found looked).2
    | viewPart part request =>
        obtain ⟨source, bound, isView⟩ := asks
        intro other same
        rw [isView] at same
        exact Option.some.inj same ▸ twins.views part owner source bound rfl
    | _ => exact asks.elim
  cases asksChecksum : found.asksChecksum with
  | true =>
      have answersView : found.answersView = false := by
        cases found <;> first | rfl | contradiction
      exact absurd answered (Query.neverView_answer answersView container view)
  | false =>
      have overlooks := Query.Overlooks.answer differs table left.registry environment
        clearFound asksChecksum
      exact (overlooks container journal based).2.2 _ answered

/-- A step that is carried out keeps the two workspaces apart in nothing else. -/
theorem run
    (differs : Resealed data altered)
    (table : 36 ≤ tableStart data)
    (clear : left.AsksClear number step) :
    (¬left.AsksChecksum number step → (left.run step).1 = (right.run step).1) ∧
      ∃ later, Twins data altered number later (left.run step).2.1 (right.run step).2.1 := by
  obtain ⟨same, later, _, agrees⟩ := twins.perform differs table clear
  refine ⟨fun quiet => ?_, later, agrees, twins.views_perform differs table clear⟩
  rw [run_fst, run_fst, same quiet]

end Twins

/-- Every step of a run that asks the container of a number for a part of a view that it
gives outright gives one that starts after the checksum. -/
def AsksClearAll (number : Nat) : Workspace → List Step → Prop
  | _, [] => True
  | workspace, step :: rest =>
      workspace.AsksClear number step ∧ AsksClearAll number (workspace.run step).2.1 rest

theorem Twins.after
    (twins : Twins data altered number made left right)
    (differs : Resealed data altered)
    (table : 36 ≤ tableStart data)
    {steps : List Step}
    (clear : AsksClearAll number left steps) :
    ∃ later, Twins data altered number later (left.after steps) (right.after steps) := by
  induction steps generalizing made left right with
  | nil => exact ⟨made, twins⟩
  | cons step rest inductionHypothesis =>
      obtain ⟨_, between, twinsBetween⟩ := twins.run differs table clear.1
      exact inductionHypothesis twinsBetween clear.2

/-! ## Opening containers -/

/-- A workspace once a container was opened and named, and some events were reported. -/
def withOpened (workspace : Workspace) (name : String) (opened : Container)
    (events : List Event) : Workspace :=
  { workspace with
    containers := workspace.containers.push opened
    containerNames := workspace.containerNames.bind name workspace.containers.size
    log := workspace.log ++ events }

end Workspace

/-- The steps that open a container over some bytes without comparing its checksum. -/
inductive Step.Opening : (List UInt8 → Step) → Prop
  | container (name : String) (backing : Backing) (environment : Option String) :
      Opening fun data => .openContainer name data backing environment
  | file (name path : String) (environment : Option String) :
      Opening fun data => .loadFile name path (some data) false environment

namespace Session

theorem on_mapM_environmentNumber_snd
    (environment : Option String)
    (workspace : Workspace) :
    ((environment.mapM environmentNumber).on workspace).2 = workspace := by
  have leaves : Leaves id (environment.mapM environmentNumber) :=
    .optionMapM Leaves.environmentNumber environment
  exact leaves workspace

/-- Opening a container reports what happened, whether it opens or not. -/
theorem on_openBlob
    (blob : Blob)
    (environment : Option Nat)
    (workspace : Workspace) :
    (openBlob blob environment).on workspace =
      ((Container.load blob environment).1,
        { workspace with log := workspace.log ++ (Container.load blob environment).2 }) := by
  rw [openBlob]
  cases Container.load blob environment with
  | mk outcome events => cases outcome <;> rfl

/-- A container that opens is added and named. -/
theorem on_openContainer
    {environment : Option String}
    {place : Option Nat}
    {workspace : Workspace}
    (known : ((environment.mapM environmentNumber).on workspace).1 = .ok place)
    {data : List UInt8}
    {backing : Backing}
    (rows : backing.require data = .ok ())
    {opened : Container}
    {events : List Event}
    (loaded : Container.load (.of data backing) place = (.ok opened, events))
    (name : String) :
    (Step.openContainer name data backing environment).perform.on workspace =
      (.ok (.answer (.text opened.render)), workspace.withOpened name opened events) := by
  have found : (environment.mapM environmentNumber).on workspace = (.ok place, workspace) :=
    Prod.ext known (on_mapM_environmentNumber_snd environment workspace)
  rw [Step.perform, on_bind, found]
  simp only
  rw [on_bind, on_ofExcept, rows]
  simp only
  rw [on_bind, on_openBlob, loaded]
  rfl

/-- Where a step opens a container, its environment is known and its bytes are opened. -/
theorem exists_load_of_openContainer
    {name : String}
    {data : List UInt8}
    {backing : Backing}
    {environment : Option String}
    {workspace : Workspace}
    {outcome : Outcome}
    (answered : ((Step.openContainer name data backing environment).perform.on workspace).1 =
      .ok outcome) :
    ∃ place opened, ((environment.mapM environmentNumber).on workspace).1 = .ok place ∧
      backing.require data = .ok () ∧
      (Container.load (.of data backing) place).1 = .ok opened := by
  have kept := on_mapM_environmentNumber_snd environment workspace
  rw [Step.perform, on_bind] at answered
  generalize (environment.mapM environmentNumber).on workspace = ran at answered kept
  obtain ⟨found, after⟩ := ran
  cases found with
  | error fault => contradiction
  | ok place =>
      simp only at answered
      rw [on_bind, on_ofExcept] at answered
      cases rows : backing.require data with
      | error fault =>
          rw [rows] at answered
          contradiction
      | ok _ =>
          rw [rows] at answered
          simp only at answered
          rw [on_bind, on_openBlob] at answered
          cases loaded : (Container.load (.of data backing) place).1 with
          | error fault =>
              rw [loaded] at answered
              contradiction
          | ok opened => exact ⟨place, opened, rfl, rfl, loaded⟩

end Session

/-- Loading a file without comparing its checksum opens a container over its bytes. -/
theorem Step.perform_loadFile
    (name path : String)
    (data : List UInt8)
    (environment : Option String) :
    (loadFile name path (some data) false environment).perform =
      (openContainer name data .bytes environment).perform := by
  simp only [perform, Session.openFile, Session.openFileWith, bind_assoc]
  rfl

namespace Workspace

/-- Bytes with another checksum are owned in the same way. -/
theorem require_resealed
    {data altered : List UInt8}
    (differs : Resealed data altered)
    (backing : Backing) :
    backing.require altered = backing.require data := by
  cases backing <;> simp only [Backing.require, Backing.requireRows, differs.length]

/-- A container that is opened is the last one, and no name stands for a view of it yet. -/
theorem twins_withOpened
    {data altered : List UInt8}
    (steps : List Step)
    {opened : Container}
    (based : opened.Based data)
    (name : String)
    (journal events : List Event) :
    Twins data altered (initial.after steps).containers.size
      (Catalogue.specs ++ initial.made steps)
      ((initial.after steps).withOpened name opened events)
      ((initial.after steps).withOpened name (opened.rebased altered journal) events) := by
  refine ⟨⟨rfl, rfl, rfl, rfl, rfl, rfl, rfl, rfl, rfl, ?_, ?_, ?_, settled_after steps,
    trivial⟩, ?_⟩
  · simp [withOpened]
  · intro other different
    simp [withOpened, Array.getElem?_push, different]
  · exact ⟨opened, journal, Array.getElem?_push_size, Array.getElem?_push_size, based⟩
  · intro part owner view bound here
    exact absurd here (views_after steps part owner view bound).ne

/-- A step that opens a container over some bytes opens one over the same bytes with
another checksum, with the same outcome. -/
theorem run_opening
    {data altered : List UInt8}
    (differs : Resealed data altered)
    (clear : ClearOfChecksum data)
    {opening : List UInt8 → Step}
    (opens : Step.Opening opening)
    (steps : List Step)
    {outcome : Outcome}
    (answered : ((initial.after steps).run (opening data)).1 = .ok outcome) :
    ((initial.after steps).run (opening altered)).1 = .ok outcome ∧
      ∃ made, Twins data altered (initial.after steps).containers.size made
        ((initial.after steps).run (opening data)).2.1
        ((initial.after steps).run (opening altered)).2.1 := by
  obtain ⟨name, backing, environment, same⟩ : ∃ name backing environment, ∀ bytes,
      (opening bytes).perform = (Step.openContainer name bytes backing environment).perform := by
    cases opens with
    | container name backing environment => exact ⟨name, backing, environment, fun _ => rfl⟩
    | file name path environment =>
        exact ⟨name, .bytes, environment, fun _ => Step.perform_loadFile name path _ environment⟩
  rw [run_fst] at answered ⊢
  change _ ∧ ∃ made, Twins data altered _ made ((opening data).perform.on _).2
    ((opening altered).perform.on _).2
  rw [same] at answered
  rw [same, same]
  cases performed : ((Step.openContainer name data backing environment).perform.on
      (initial.after steps)).1 with
  | error fault =>
      rw [performed] at answered
      contradiction
  | ok given =>
      obtain ⟨place, opened, known, rows, loaded⟩ :=
        Session.exists_load_of_openContainer performed
      obtain ⟨_, loadedBoth⟩ := Container.load_eq_of_load loaded
      have based := Container.based_of_load clear loaded
      have loadedOther := Container.load_resealed differs clear loaded
      have rowsOther := (require_resealed differs backing).trans rows
      rw [Session.on_openContainer known rows loadedBoth name] at answered ⊢
      rw [Session.on_openContainer known rowsOther loadedOther name]
      rw [based.render_rebased differs]
      exact ⟨answered, _, twins_withOpened steps based name _ _⟩

end Workspace
end ModuleInterface

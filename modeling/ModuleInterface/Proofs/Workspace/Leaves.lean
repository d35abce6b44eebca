import Mathlib
import ModuleInterface.Proofs.Workspace.Steps

/-!
# What steps leave as it is

The environments of a session change where one is made or added to, and its views where a
container is asked, or a view for a part of itself. Every other part of a step leaves both
as they are (`Session.Leaves.perform`): whatever is looked up leaves the whole workspace as
it is, and what is written is the registry, a container, a record or the like.
-/

namespace ModuleInterface

/-- Something of a workspace depends on its environments and on its views alone. -/
def Workspace.Apart {β : Type} (aspect : Workspace → β) : Prop :=
  ∀ left right : Workspace, left.environments = right.environments →
    left.views = right.views → aspect left = aspect right

theorem Workspace.apart_environments : Apart Workspace.environments :=
  fun _ _ same _ => same

theorem Workspace.apart_views : Apart Workspace.views :=
  fun _ _ _ same => same

namespace Step

/-- Whether a step may make an environment, or add to one. -/
def registersModule : Step → Bool
  | .newEnvironment _ => true
  | .useEnvironment _ (.add ..) => true
  | _ => false

end Step

namespace Session

/-- A part of a session leaves something of every workspace as it is. -/
def Leaves {α β : Type} (aspect : Workspace → β) (session : Session α) : Prop :=
  ∀ workspace, aspect (session.on workspace).2 = aspect workspace

namespace Leaves

variable {α β γ : Type} {aspect : Workspace → γ}

/-! ## Parts that are put together -/

theorem pure
    (value : α) :
    Leaves aspect (Pure.pure value : Session α) :=
  fun _ => rfl

theorem throw
    (fault : Fault) :
    Leaves aspect (MonadExcept.throw fault : Session α) :=
  fun _ => rfl

theorem plain
    (outcome : Except Fault α) :
    Leaves aspect (ofExcept outcome : Session α) := by
  intro workspace
  rw [on_ofExcept]

theorem bind
    {first : Session α}
    {rest : α → Session β}
    (leavesFirst : Leaves aspect first)
    (leavesRest : ∀ value, Leaves aspect (rest value)) :
    Leaves aspect (first >>= rest) := by
  intro workspace
  have kept := leavesFirst workspace
  rw [on_bind]
  generalize first.on workspace = ran at kept
  obtain ⟨outcome, after⟩ := ran
  cases outcome with
  | error fault => exact kept
  | ok value => exact (leavesRest value after).trans kept

theorem map
    {session : Session α}
    (leaves : Leaves aspect session)
    (update : α → β) :
    Leaves aspect (update <$> session) := by
  intro workspace
  rw [on_map]
  exact leaves workspace

theorem discard
    {session : Session α}
    (leaves : Leaves aspect session) :
    Leaves aspect (Functor.discard session) :=
  leaves.map _

/-- A part that reads the workspace goes on with what it read. -/
theorem read
    {rest : Workspace → Session α}
    (leaves : ∀ workspace, Leaves aspect (rest workspace)) :
    Leaves aspect (get >>= rest) :=
  fun workspace => leaves workspace workspace

theorem change
    {update : Workspace → Workspace}
    (kept : ∀ workspace, aspect (update workspace) = aspect workspace) :
    Leaves aspect (modify update : Session Unit) :=
  kept

theorem choice
    {condition : Prop}
    [Decidable condition]
    {yes no : Session α}
    (leavesYes : Leaves aspect yes)
    (leavesNo : Leaves aspect no) :
    Leaves aspect (if condition then yes else no) := by
  split
  · exact leavesYes
  · exact leavesNo

theorem mapM
    {each : α → Session β}
    (leaves : ∀ value, Leaves aspect (each value))
    (values : List α) :
    Leaves aspect (values.mapM each) := by
  induction values with
  | nil => exact pure _
  | cons value rest inductionHypothesis =>
      rw [List.mapM_cons]
      exact (leaves value).bind fun _ => inductionHypothesis.bind fun _ => pure _

theorem forM
    {each : α → Session Unit}
    (leaves : ∀ value, Leaves aspect (each value))
    (values : List α) :
    Leaves aspect (values.forM each) := by
  induction values with
  | nil => exact pure _
  | cons value rest inductionHypothesis =>
      exact (leaves value).bind fun _ => inductionHypothesis

theorem optionMapM
    {each : α → Session β}
    (leaves : ∀ value, Leaves aspect (each value))
    (value? : Option α) :
    Leaves aspect (value?.mapM each) := by
  cases value? with
  | none => exact pure _
  | some value => exact (leaves value).map _

/-! ## Names -/

theorem bound
    (bindings : Bindings String α)
    (name : String) :
    Leaves aspect (Session.bound bindings name) := by
  unfold Session.bound
  split
  · exact pure _
  · exact throw _

theorem containerNumber
    (name : String) :
    Leaves aspect (Session.containerNumber name) :=
  read fun _ => bound _ _

theorem environmentNumber
    (name : String) :
    Leaves aspect (Session.environmentNumber name) :=
  read fun _ => bound _ _

theorem environmentAt
    (place : Nat) :
    Leaves aspect (Session.environmentAt place) := by
  refine read fun workspace => ?_
  split
  · exact pure _
  · exact throw _

theorem environmentOf
    (number : Nat) :
    Leaves aspect (Session.environmentOf number) := by
  refine read fun workspace => ?_
  split
  · exact pure _
  · exact (environmentAt _).bind fun _ => pure _

theorem nameOfContainer
    (number : Nat) :
    Leaves aspect (Session.nameOfContainer number) :=
  read fun _ => pure _

theorem recordNamed
    (name : String) :
    Leaves aspect (Session.recordNamed name) :=
  read fun _ => bound _ _

theorem target
    (name : TargetName) :
    Leaves aspect (Session.target name) := by
  cases name with
  | value value => exact pure _
  | known spec placed => exact pure _
  | named name =>
      refine read fun workspace => ?_
      split
      · split
        · exact pure _
        · exact pure _
      · split
        · exact pure _
        · split
          · exact pure _
          · exact throw _

theorem specNamed
    (name : TargetName) :
    Leaves aspect (Session.specNamed name) :=
  (target name).bind fun _ => plain _

theorem elementNamed
    (name : String) :
    Leaves aspect (Session.elementNamed name) := by
  refine choice (pure _) ?_
  split
  · exact pure _
  · exact (recordNamed name).bind fun _ => pure _

theorem indexKindNamed
    (name : String) :
    Leaves aspect (Session.indexKindNamed name) := by
  unfold Session.indexKindNamed
  split
  · exact pure _
  · exact throw _

theorem codecNamed
    (name : CodecName) :
    Leaves aspect (Session.codecNamed name) := by
  cases name with
  | padding length => exact (plain _).bind fun _ => pure _
  | nested record => exact (recordNamed record).bind fun _ => pure _
  | coerced width vocabulary => exact (plain _).bind fun _ => pure _
  | strict vocabulary => exact (plain _).bind fun _ => pure _
  | index kind => exact (indexKindNamed kind).bind fun _ => pure _
  | named name =>
      simp only [Session.codecNamed]
      split
      · exact pure _
      · exact pure _
      · exact throw _

theorem placeNamed
    (name : PlaceName) :
    Leaves aspect (Session.placeNamed name) :=
  (indexKindNamed name.indexKind).bind fun _ => (plain _).bind fun _ =>
    choice ((plain _).bind fun _ => pure _) (pure _)

theorem lookup
    (request : Request TargetName) :
    Leaves aspect (request.lookup Session.target) := by
  cases request with
  | findPartition name _ => exact (target name).bind fun _ => pure _
  | requirePartition name _ => exact (target name).bind fun _ => pure _
  | partition name => exact (target name).bind fun _ => pure _
  | resolveHeap name _ => exact (target name).bind fun _ => pure _
  | _ => exact pure _

theorem nameAnswer
    (answer : Answer) :
    Leaves aspect (Session.nameAnswer answer) := by
  unfold Session.nameAnswer
  split
  · exact (nameOfContainer _).bind fun _ => pure _
  · exact pure _

theorem shapeCodecs
    (name : String)
    (fields : List String)
    (layout : List CodecName) :
    Leaves aspect (Session.shapeCodecs name fields layout) :=
  (mapM codecNamed layout).bind fun _ => (plain _).bind fun _ => (plain _).bind fun _ =>
    (plain _).bind fun _ => pure _

/-! ## Containers -/

variable (apart : Workspace.Apart aspect)

include apart in
theorem report
    (events : List Event) :
    Leaves aspect (Session.report events) :=
  change fun _ => apart _ _ rfl rfl

include apart in
theorem onContainer
    (number : Nat)
    (query : Query α) :
    Leaves aspect (Session.onContainer number query) := by
  intro workspace
  rw [on_onContainer]
  split
  · rfl
  · exact apart _ _ rfl rfl

include apart in
theorem requireSubject
    (subject : Subject) :
    Leaves aspect (Session.requireSubject subject) := by
  cases subject with
  | container name => exact (containerNumber name).discard
  | view name => exact read fun _ => (bound _ _).discard
  | record name => exact (recordNamed name).discard
  | element name => exact (elementNamed name).discard
  | partition name => exact (target name).discard
  | blob name => exact read fun _ => (bound _ _).discard
  | environment name => exact (environmentNumber name).discard
  | located container spec placed =>
      exact (containerNumber container).bind fun _ => (onContainer apart _ _).discard

include apart in
theorem askContainer
    (number : Nat)
    (request : Request Target) :
    Leaves aspect (Session.askContainer number request) :=
  (environmentOf number).bind fun _ => read fun _ => onContainer apart _ _

include apart in
theorem openBlob
    (blob : Blob)
    (environment : Option Nat) :
    Leaves aspect (Session.openBlob blob environment) :=
  (report apart _).bind fun _ => plain _

include apart in
theorem openFileWith
    (digest : List UInt8 → List UInt8)
    (path : String)
    (data : Option (List UInt8))
    (verify : Bool)
    (environment : Option String) :
    Leaves aspect (Session.openFileWith digest path data verify environment) := by
  refine (optionMapM environmentNumber environment).bind fun _ => ?_
  cases data with
  | none => exact throw _
  | some data =>
      refine (openBlob apart _ _).bind fun _ => choice ?_ (pure _)
      exact (report apart _).bind fun _ => (plain _).bind fun _ => pure _

include apart in
theorem bindContainer
    (name : String)
    (container : Container) :
    Leaves aspect (Session.bindContainer name container) :=
  change fun _ => apart _ _ rfl rfl

/-- What does not depend on the views either is left as it is by naming one. -/
theorem bindAnswer
    (views : ∀ workspace views, aspect { workspace with views } = aspect workspace)
    (name : Option String)
    (number : Nat)
    (answer : Answer) :
    Leaves aspect (Session.bindAnswer name number answer) := by
  unfold Session.bindAnswer
  split
  · cases name with
    | none => exact pure _
    | some name => exact change fun workspace => views workspace _
  · exact pure _

include apart in
theorem useView
    (views : ∀ workspace views, aspect { workspace with views } = aspect workspace)
    (number : Nat)
    (view : View)
    (request : ViewRequest) :
    Leaves aspect (Session.useView number view request) := by
  cases request with
  | element key => exact (askContainer apart _ _).bind fun _ => pure _
  | elements => exact (askContainer apart _ _).bind fun _ => pure _
  | slice range name =>
      exact (askContainer apart _ _).bind fun _ => (bindAnswer views _ _ _).bind fun _ =>
        pure _
  | describe => exact pure _

/-! ## Specifications, records and blobs -/

include apart in
theorem createSpec
    (place : Place)
    (element : Element)
    (register : Bool) :
    Leaves aspect (Session.createSpec place element register) := by
  intro workspace
  rw [on_createSpec]
  exact apart _ _ rfl rfl

include apart in
theorem registered
    (spec : PartitionSpec) :
    Leaves aspect (Session.registered spec) := by
  intro workspace
  rw [on_registered]
  exact apart _ _ rfl rfl

include apart in
theorem newRecord
    (name : String)
    (fields : List String)
    (named : List (Except Fault Codec))
    (place : Option PlaceName) :
    Leaves aspect (Session.newRecord name fields named place) :=
  (optionMapM placeNamed place).bind fun _ => (plain _).bind fun _ => (plain _).bind fun _ =>
    (optionMapM (fun _ => createSpec apart _ _ _) _).bind fun _ => pure _

include apart in
theorem defineRecord
    (name : String)
    (fields : List String)
    (layout : List CodecName)
    (place : Option PlaceName) :
    Leaves aspect (Session.defineRecord name fields layout place) :=
  (shapeCodecs name fields layout).bind fun _ =>
    bind (change fun _ => apart _ _ rfl rfl) fun _ =>
      (newRecord apart _ _ _ _).bind fun _ =>
        bind (change fun _ => apart _ _ rfl rfl) fun _ => pure _

include apart in
theorem useBlob
    (name : String)
    (blob : Blob)
    (request : BlobRequest) :
    Leaves aspect (Session.useBlob name blob request) := by
  cases request with
  | length => exact (plain _).bind fun _ => pure _
  | slice start stop => exact (plain _).bind fun _ => pure _
  | released => exact pure _
  | release => exact bind (change fun _ => apart _ _ rfl rfl) fun _ => pure _
  | findNul start => exact (plain _).bind fun _ => pure _
  | textAt start => exact (plain _).bind fun _ => pure _
  | unpack format offset => exact (plain _).bind fun _ => pure _
  | signature => exact (plain _).bind fun _ => (plain _).bind fun _ => pure _
  | header => exact (plain _).bind fun _ => (plain _).bind fun _ => pure _
  | layout =>
      exact (plain _).bind fun _ => (plain _).bind fun _ => (plain _).bind fun _ => pure _

include apart in
theorem setBuilder
    (builder : Builder) :
    Leaves aspect (modify fun workspace => { workspace with builder } : Session Unit) :=
  change fun _ => apart _ _ rfl rfl

/-! ## Steps -/

/-- Using an environment without adding to it only reads it. -/
theorem useEnvironment
    (place : Nat)
    {request : EnvironmentRequest}
    (reads : ∀ module container, request ≠ .add module container) :
    Leaves aspect (Session.useEnvironment place request) := by
  cases request with
  | add module container => exact absurd rfl (reads module container)
  | find module =>
      exact (environmentAt place).bind fun _ => (plain _).bind fun _ =>
        (nameOfContainer _).bind fun _ => pure _
  | contains module => exact (environmentAt place).bind fun _ => pure _
  | names => exact (environmentAt place).bind fun _ => pure _
  | size => exact (environmentAt place).bind fun _ => pure _

include apart in
/-- What does not depend on the environments either is left as it is by adding to one. -/
theorem addModule
    (environments : ∀ workspace environments,
      aspect { workspace with environments } = aspect workspace)
    (place : Nat)
    (module container : String) :
    Leaves aspect (Session.useEnvironment place (.add module container)) :=
  (containerNumber container).bind fun _ => (environmentAt place).bind fun _ =>
    (report apart _).bind fun _ => bind (change fun workspace => environments workspace _)
      fun _ => pure _

include apart in
/-- A step leaves environments and views as they are, apart from the few that are about
them. -/
theorem perform
    {step : Step}
    (views : step.asks = false ∨
      ∀ workspace views, aspect { workspace with views } = aspect workspace)
    (environments : step.registersModule = false ∨
      ∀ workspace environments, aspect { workspace with environments } = aspect workspace) :
    Leaves aspect step.perform := by
  cases step with
  | openContainer name data backing environment =>
      exact (optionMapM environmentNumber environment).bind fun _ => (plain _).bind fun _ =>
        (openBlob apart _ _).bind fun _ => (bindContainer apart _ _).bind fun _ => pure _
  | loadFile name path data verify environment =>
      exact (openFileWith apart _ _ _ _ _).bind fun _ => (bindContainer apart _ _).bind fun _ =>
        pure _
  | ask container request name =>
      have views := views.resolve_left (by simp [Step.asks])
      exact (containerNumber container).bind fun _ => (lookup request).bind fun _ =>
        (askContainer apart _ _).bind fun _ => (bindAnswer views _ _ _).bind fun _ =>
          (nameAnswer _).bind fun _ => pure _
  | viewPart part request =>
      have views := views.resolve_left (by simp [Step.asks])
      exact read fun _ => (bound _ _).bind fun _ => useView apart views _ _ _
  | newEnvironment name =>
      have environments := environments.resolve_left (by simp [Step.registersModule])
      refine bind (change fun workspace => ?_) fun _ => pure _
      rw [← environments workspace (workspace.environments.push .empty)]
      exact apart _ _ rfl rfl
  | useEnvironment environment request =>
      refine (environmentNumber environment).bind fun place => ?_
      cases request with
      | add module container =>
          have environments := environments.resolve_left (by simp [Step.registersModule])
          exact addModule apart environments place module container
      | find module => exact useEnvironment place fun _ _ same => by contradiction
      | contains module => exact useEnvironment place fun _ _ same => by contradiction
      | names => exact useEnvironment place fun _ _ same => by contradiction
      | size => exact useEnvironment place fun _ _ same => by contradiction
  | newBlob name data backing =>
      exact (plain _).bind fun _ =>
        bind (change fun _ => apart _ _ rfl rfl) fun _ => pure _
  | useBlob blob request => exact read fun _ => (bound _ _).bind fun _ => useBlob apart _ _ _
  | defineRecord name fields layout place =>
      exact (defineRecord apart _ _ _ _).bind fun _ => pure _
  | createSpec place element register binding =>
      exact (placeNamed place).bind fun _ => (elementNamed element).bind fun _ =>
        (createSpec apart _ _ _).bind fun _ =>
          bind (change fun _ => apart _ _ rfl rfl) fun _ => pure _
  | registerSpec target => exact (specNamed target).bind fun _ => registered apart _
  | describeSpec target => exact (specNamed target).bind fun _ => pure _
  | specForName name => exact read fun _ => pure _
  | specForIndex index =>
      cases index with
      | tagged index => exact read fun _ => pure _
      | floating index => exact read fun _ => pure _
      | _ => exact (plain _).discard.bind fun _ => pure _
  | slotCount => exact read fun _ => pure _
  | registered => exact read fun _ => pure _
  | unpack element data offset =>
      exact (elementNamed element).bind fun _ => (plain _).bind fun _ => (plain _).bind fun _ =>
        pure _
  | pack record fields =>
      exact (recordNamed record).bind fun _ => (plain _).bind fun _ => pure _
  | packElement element value =>
      exact (elementNamed element).bind fun _ => (plain _).bind fun _ => pure _
  | flatten values => exact (plain _).bind fun _ => pure _
  | addString text =>
      exact read fun _ => (plain _).bind fun _ => (setBuilder apart _).bind fun _ => pure _
  | addPartition name entrySize data cardinality =>
      exact read fun _ => (plain _).bind fun _ => (setBuilder apart _).bind fun _ => pure _
  | addElements target values name =>
      exact (specNamed target).bind fun _ => read fun _ => (plain _).bind fun _ =>
        (setBuilder apart _).bind fun _ => pure _
  | unreadable subjects fault =>
      exact (forM (requireSubject apart) subjects).bind fun _ => throw _

end Leaves
end Session
end ModuleInterface

import Mathlib
import ModuleInterface.Proofs.Container.Contents
import ModuleInterface.Proofs.Workspace.Naming
import ModuleInterface.Workspace.Step

/-!
# Steps of sessions on workspaces that agree

Every step of a session that asks no container is steady, and the others are as far as
containers that are alike answer alike: those that differ in what they remember do, unless
they are closed or their table of contents is forgotten. New specifications take slots of
their own, so that no location that is remembered comes to stand for another partition.
-/

namespace ModuleInterface

/-! ## What is known -/

namespace Knows

variable {made : List PartitionSpec} {registry : Registry}
variable {records : Bindings String KnownRecord} {specs : Bindings String PartitionSpec}

/-- A new specification is made for the next slot. -/
theorem create
    (knows : Knows made registry records specs)
    {spec : PartitionSpec}
    (slot : spec.slot = registry.nextSlot) :
    spec.MadeIn (made ++ [spec]) ∧
      Knows (made ++ [spec]) { registry with nextSlot := registry.nextSlot + 1 } records
        specs := by
  have grown : made <+: made ++ [spec] := List.prefix_append _ _
  refine ⟨?_, knows.catalogue.trans grown, ?_, ?_, ?_, knows.unambiguous, ?_, ?_⟩
  · rw [PartitionSpec.MadeIn, slot, ← knows.slots, List.getElem?_concat_length]
  · rw [List.length_append, knows.slots, List.length_singleton]
  · exact fun other member => getElem?_of_isPrefix grown (knows.named other member)
  · exact fun other member => getElem?_of_isPrefix grown (knows.sorted other member)
  · exact fun name record found other place =>
      getElem?_of_isPrefix grown (knows.records name record found other place)
  · exact fun name other found => getElem?_of_isPrefix grown (knows.specs name other found)

theorem registerName
    (knows : Knows made registry records specs)
    {spec : PartitionSpec}
    (own : spec.MadeIn made)
    {known : Registry}
    (registered : registry.registerName spec = .ok known) :
    Knows made known records specs := by
  unfold Registry.registerName at registered
  split at registered
  · cases registered
    refine { knows with named := fun other member => ?_ }
    obtain earlier | last := List.mem_append.mp member
    · exact knows.named other earlier
    · rw [List.mem_singleton.mp last]
      exact own
  · split at registered
    · cases registered
      exact knows
    · contradiction

theorem registerSort
    (knows : Knows made registry records specs)
    {spec : PartitionSpec}
    (own : spec.MadeIn made)
    {known : Registry}
    (registered : registry.registerSort spec = .ok known) :
    Knows made known records specs := by
  unfold Registry.registerSort at registered
  split at registered
  · cases registered
    exact knows
  next sort sorted =>
    split at registered
    next free =>
      cases registered
      refine { knows with sorted := fun other member => ?_, unambiguous := ?_ }
      · obtain earlier | last := List.mem_append.mp member
        · exact knows.sorted other earlier
        · rw [List.mem_singleton.mp last]
          exact own
      · rw [Registry.Unambiguous, List.map_append, List.map_singleton, List.nodup_append]
        refine ⟨knows.unambiguous, List.nodup_singleton _, ?_⟩
        rintro _ earlierKey _ lastKey rfl
        obtain ⟨earlier, member, key⟩ := List.mem_map.mp earlierKey
        rw [List.mem_singleton, ← key, Prod.mk.injEq, sorted] at lastKey
        simpa [lastKey] using List.find?_eq_none.mp free earlier member
    · split at registered
      · cases registered
        exact knows
      · contradiction

/-- Registering a specification that was made makes no other one known, whether it
succeeds or not. -/
theorem register
    (knows : Knows made registry records specs)
    {spec : PartitionSpec}
    (own : spec.MadeIn made) :
    Knows made (registry.register spec).2 records specs := by
  unfold Registry.register
  split
  · exact knows
  next known named =>
    have knowsNamed := knows.registerName own named
    split
    · exact knowsNamed
    next complete sorted => exact knowsNamed.registerSort own sorted

theorem bindRecord
    (knows : Knows made registry records specs)
    {record : KnownRecord}
    (own : record.MadeIn made)
    (name : String) :
    Knows made registry (records.bind name record) specs := by
  refine { knows with records := fun other found bound => ?_ }
  by_cases same : name = other
  · subst same
    obtain rfl := Option.some.inj ((Bindings.find?_update_self _ _ _).symm.trans bound)
    exact own
  · rw [Bindings.bind, Bindings.find?_update_of_ne _ same] at bound
    exact knows.records other found bound

theorem eraseRecord
    (knows : Knows made registry records specs)
    (name : String) :
    Knows made registry (records.erase name) specs := by
  refine { knows with records := fun other found bound => ?_ }
  by_cases same : name = other
  · subst same
    rw [Bindings.find?_erase_self] at bound
    contradiction
  · rw [Bindings.find?_erase_of_ne _ same] at bound
    exact knows.records other found bound

theorem bindSpec
    (knows : Knows made registry records specs)
    {spec : PartitionSpec}
    (own : spec.MadeIn made)
    (name : String) :
    Knows made registry records (specs.bind name spec) := by
  refine { knows with specs := fun other found bound => ?_ }
  by_cases same : name = other
  · subst same
    obtain rfl := Option.some.inj ((Bindings.find?_update_self _ _ _).symm.trans bound)
    exact own
  · rw [Bindings.bind, Bindings.find?_update_of_ne _ same] at bound
    exact knows.specs other found bound

end Knows

namespace Registry

/-- The specification that is made for a place. -/
def specFor (registry : Registry) (place : Place) (element : Element) : PartitionSpec :=
  (registry.create place.partition element place.indexKind place.sort).1

/-- The registry once a slot was taken. -/
def advanced (registry : Registry) : Registry :=
  { registry with nextSlot := registry.nextSlot + 1 }

/-- The registry once a specification was made for a place, and registered if asked to. -/
def afterCreate (registry : Registry) (place : Place) (element : Element) (register : Bool) :
    Registry :=
  match register with
  | true => (registry.advanced.register (registry.specFor place element)).2
  | false => registry.advanced

theorem slot_specFor
    (registry : Registry)
    (place : Place)
    (element : Element) :
    (registry.specFor place element).slot = registry.nextSlot := rfl

end Registry

/-- A container that has just been opened is sound. -/
theorem Container.sound_of_load
    {data : List UInt8}
    {backing : Backing}
    {environment : Option Nat}
    {opened : Container}
    (loaded : (load (.of data backing) environment).1 = .ok opened)
    (made : List PartitionSpec) :
    opened.Sound made := by
  obtain ⟨rfl, _⟩ := load_eq_of_load loaded
  have fresh : (openedOver data backing environment).Remembers made :=
    ⟨fun _ _ found => by contradiction, fun _ found => by contradiction,
      fun _ _ found => by contradiction⟩
  exact ⟨fresh, data, backing, _, loaded, rfl⟩

/-- A container that has just been opened remembers nothing, and reported only what it
passed over and that it was opened. -/
theorem Container.blank_of_load
    {data : List UInt8}
    {backing : Backing}
    {environment : Option Nat}
    {opened : Container}
    (loaded : (load (.of data backing) environment).1 = .ok opened) :
    (∀ cell, ¬opened.Filled cell) ∧ opened.Logged := by
  obtain ⟨rfl, _⟩ := load_eq_of_load loaded
  have quiet : ∀ counted : Event → Bool, (∀ name, counted (.duplicateEntry name) = false) →
      (∀ size count, counted (.opened size count) = false) →
        (openedOver data backing environment).journal.countP counted = 0 := by
    intro counted passedOver reported
    rw [List.countP_eq_zero]
    refine List.forall_mem_append.mpr ⟨?_, List.forall_mem_singleton.mpr ?_⟩
    · exact List.forall_mem_map.mpr fun _ _ => by simp [passedOver]
    · simp [reported]
  refine ⟨fun cell filled => by cases cell <;> contradiction, fun slot => ?_, ?_,
    fun kind => ?_⟩
  · exact quiet _ (fun _ => rfl) fun _ _ => rfl
  · exact quiet _ (fun _ => rfl) fun _ _ => rfl
  · exact quiet _ (fun _ => rfl) fun _ _ => rfl

theorem Container.opened_of_load
    {data : List UInt8}
    {backing : Backing}
    {environment : Option Nat}
    {opened : Container}
    (loaded : (load (.of data backing) environment).1 = .ok opened)
    (made : List PartitionSpec) :
    opened.Opened made :=
  ⟨sound_of_load loaded made, (blank_of_load loaded).1, (blank_of_load loaded).2⟩

/-- A container whose digest is compared is still as good as just opened. -/
theorem Container.Opened.requireDigest
    {container : Container}
    {made : List PartitionSpec}
    (opened : container.Opened made)
    (digest : List UInt8 → List UInt8)
    (path : String) :
    ((Query.requireDigest digest path).on container).2.Opened made := by
  rw [Query.Does.requireDigest digest path]
  cases ((Query.computeDigest digest).on container).1 with
  | error fault => exact opened
  | ok computed =>
      refine ⟨opened.sound.of_bare rfl ?_, fun cell filled => ?_,
        opened.logged.apply (.compared _)⟩
      · have remembers := opened.sound.remembers
        exact ⟨remembers.located, remembers.attributes, remembers.traits⟩
      · obtain filled | ⟨fills, _⟩ :=
          (filled_apply container (.compared (computed == container.header.checksum))
            cell).mp filled
        · exact opened.blank cell filled
        · contradiction

namespace Step

/-- Whether a step may open a container. -/
def opens : Step → Bool
  | .openContainer .. => true
  | .loadFile .. => true
  | _ => false

/-- Whether a step may change the registry. -/
def registers : Step → Bool
  | .defineRecord .. => true
  | .createSpec .. => true
  | .registerSpec _ => true
  | _ => false

/-- Whether a step may ask a container. -/
def asks : Step → Bool
  | .ask .. => true
  | .viewPart .. => true
  | .unreadable .. => true
  | _ => false

end Step

namespace Request

/-- Whether a request is to a view. -/
def onView {target : Type} : Request target → Bool
  | .element .. => true
  | .elements _ => true
  | .slice .. => true
  | _ => false

theorem keepsContainer_of_onView
    {target : Type}
    {request : Request target}
    (onView : request.onView) :
    request.keepsContainer := by
  cases request with
  | element view key => rfl
  | elements view => rfl
  | slice view range => rfl
  | _ => contradiction

theorem onView_of_view?
    {target : Type}
    {request : Request target}
    {view : View}
    (isView : request.view? = some view) :
    request.onView := by
  cases request with
  | element view key => rfl
  | elements view => rfl
  | slice view range => rfl
  | _ => contradiction

/-- A request without what stands for a partition. -/
def erased {target : Type} (request : Request target) : Request Unit :=
  Id.run (request.lookup fun _ => pure ())

@[simp] theorem keepsContainer_erased
    {target : Type}
    (request : Request target) :
    request.erased.keepsContainer = request.keepsContainer := by
  cases request <;> rfl

end Request

namespace Likeness

/-- A request has the same answer on containers that are alike, if it names partitions that
were made, and leaves containers that are alike. -/
def Answers (likeness : Likeness) (request : Request Target) : Prop :=
  ∀ made registry environment, Catalogue.specs <+: made →
    (∀ spec ∈ registry.sorted, spec.MadeIn made) →
    (request.OnTarget fun target => target.MadeIn made) →
    likeness.Keeps made (request.answer registry environment)

theorem answers_same
    {admits : Registry → Nat → Prop}
    (request : Request Target) :
    (same admits).Answers request :=
  fun _ _ _ _ _ _ => keeps_same _

/-- What is remembered does not matter, unless a container is closed or loses its table of
contents. -/
theorem answers_memory
    (request : Request Target)
    (keeps : request.keepsContainer) :
    memory.Answers request :=
  fun _ _ environment grown known own =>
    keeps_memory (Query.Steady.answer grown known environment own keeps)

/-- Containers that are alike answer alike, unless they are closed or lose their table of
contents. -/
structure Persists (likeness : Likeness) : Prop where
  locates : ∀ made spec, spec.MadeIn made → likeness.Keeps made (Query.partition spec)
  answers : ∀ request, request.keepsContainer → likeness.Answers request

theorem persists_same
    {admits : Registry → Nat → Prop} :
    (same admits).Persists :=
  ⟨fun _ _ _ => keeps_same _, fun request _ => answers_same request⟩

theorem persists_memory : memory.Persists :=
  ⟨fun _ _ own => keeps_memory (Query.Steady.partition own), answers_memory⟩

end Likeness

namespace Session

/-- What is left of a step that asks a container, once its number is known. -/
def askNumbered (number : Nat) (request : Request TargetName) (name : Option String) :
    Session Outcome := do
  let answer ← askContainer number (← request.lookup target)
  bindAnswer name number answer
  return .answer (← nameAnswer answer)

/-- What is left of a step that registers a specification, once its name was looked up. -/
def registered (spec : PartitionSpec) : Session Outcome := do
  let (outcome, complete) := (← get).registry.register spec
  setRegistry complete
  ofExcept outcome
  return Outcome.spec spec

theorem on_registered
    (spec : PartitionSpec)
    (workspace : Workspace) :
    (registered spec).on workspace =
      ((workspace.registry.register spec).1.map fun _ => .spec spec,
        { workspace with registry := (workspace.registry.register spec).2 }) := by
  rw [registered, on_get_bind]
  generalize workspace.registry.register spec = answered
  obtain ⟨outcome, complete⟩ := answered
  cases outcome <;> rfl

/-- A specification is made for the next slot, and registered if asked to. -/
theorem on_createSpec
    (place : Place)
    (element : Element)
    (register : Bool)
    (workspace : Workspace) :
    (createSpec place element register).on workspace =
      (match register with
        | true =>
            ((workspace.registry.advanced.register
              (workspace.registry.specFor place element)).1.map fun _ =>
                workspace.registry.specFor place element)
        | false => .ok (workspace.registry.specFor place element),
      { workspace with
        registry := workspace.registry.afterCreate place element register }) := by
  rw [createSpec, on_get_bind]
  cases register with
  | false => rfl
  | true =>
      change ((setRegistry workspace.registry.advanced >>= fun _ =>
        setRegistry (workspace.registry.afterCreate place element true) >>= fun _ =>
          ofExcept (workspace.registry.advanced.register
            (workspace.registry.specFor place element)).1 >>= fun _ =>
              Pure.pure (workspace.registry.specFor place element)) : Session _).on
                workspace = _
      cases (workspace.registry.advanced.register
        (workspace.registry.specFor place element)).1 <;> rfl

theorem on_ask_of_none
    {container : String}
    {workspace : Workspace}
    (missing : workspace.containerNames.find? container = none)
    (request : Request TargetName)
    (name : Option String) :
    (Step.ask container request name).perform.on workspace =
      (.error (.unbound container), workspace) := by
  rw [Step.perform, on_bind, containerNumber, on_get_bind, bound, missing]
  rfl

theorem on_ask_of_some
    {container : String}
    {number : Nat}
    {workspace : Workspace}
    (named : workspace.containerNames.find? container = some number)
    (request : Request TargetName)
    (name : Option String) :
    (Step.ask container request name).perform.on workspace =
      (askNumbered number request name).on workspace := by
  rw [Step.perform, on_bind, containerNumber, on_get_bind, bound, named]
  rfl

namespace Steady

variable {α β : Type} {likeness : Likeness} {number : Nat} {before : List PartitionSpec}

/-- Parts are carried out for what is there. -/
theorem optionMapM
    {promise : Promise β}
    {each : α → Session β}
    (steady : ∀ value, Steady likeness number before promise (each value))
    (value? : Option α) :
    Steady likeness number before
      (fun made found => ∀ value, found = some value → promise made value)
      (value?.mapM each) := by
  cases value? with
  | none => exact pure fun _ _ _ absent => by contradiction
  | some value =>
      exact (steady value).map fun _ _ kept _ same => Option.some.inj same ▸ kept

/-! ## Asking containers -/

/-- What is looked up for a request rests on what was made, and is the same request
otherwise. -/
theorem lookup
    (grown : Catalogue.specs <+: before)
    (request : Request TargetName) :
    Steady likeness number before
      (fun made found => (found.OnTarget fun target => target.MadeIn made) ∧
        found.erased = request.erased)
      (request.lookup Session.target) := by
  cases request with
  | findPartition name _ =>
      exact (target grown name).bind fun _ _ _ own => pure fun _ later => ⟨own.mono later, rfl⟩
  | requirePartition name _ =>
      exact (target grown name).bind fun _ _ _ own => pure fun _ later => ⟨own.mono later, rfl⟩
  | partition name =>
      exact (target grown name).bind fun _ _ _ own => pure fun _ later => ⟨own.mono later, rfl⟩
  | resolveHeap name _ =>
      exact (target grown name).bind fun _ _ _ own => pure fun _ later => ⟨own.mono later, rfl⟩
  | _ => exact pure fun _ _ => ⟨trivial, rfl⟩

/-- Asking a container is steady, if it is another container or containers that are alike
answer alike. -/
theorem askContainer
    {other : Nat}
    (request : Request Target)
    (own : request.OnTarget fun target => target.MadeIn before)
    (answers : other ≠ number ∨ likeness.Answers request) :
    Steady likeness number before .nothing (Session.askContainer other request) := by
  refine (environmentOf other).bind fun made environment grown _ => ?_
  refine read (fun _ _ _ agrees => ?_) fun later left _ grownLater agrees => ?_
  · rw [agrees.registry]
  · refine onContainer (answers.imp_right fun answers last grownLast => ?_)
    refine answers last left.registry environment (agrees.knows.catalogue.trans grownLast) ?_ ?_
    · exact fun spec member => getElem?_of_isPrefix grownLast (agrees.knows.sorted spec member)
    · exact own.imp fun target ownTarget =>
        ownTarget.mono (grown.trans (grownLater.trans grownLast))

theorem bindView
    (name : Option String)
    (other : Nat)
    (view : View) :
    Steady likeness number before .nothing (Session.bindView name other view) := by
  cases name with
  | none => exact pure fun _ _ => trivial
  | some name =>
      refine change fun made _ _ _ agrees => ⟨made, List.prefix_rfl, ?_⟩
      exact { agrees with views := congrArg (·.bind name (other, view)) agrees.views }

theorem bindAnswer
    (name : Option String)
    (other : Nat)
    (answer : Answer) :
    Steady likeness number before .nothing (Session.bindAnswer name other answer) := by
  unfold Session.bindAnswer
  split
  · exact bindView _ _ _
  · exact pure fun _ _ => trivial

theorem nameAnswer
    (answer : Answer) :
    Steady likeness number before .nothing (Session.nameAnswer answer) := by
  unfold Session.nameAnswer
  split
  · exact (nameOfContainer _).bind fun _ _ _ _ => pure fun _ _ => trivial
  · exact pure fun _ _ => trivial

theorem useView
    (other : Nat)
    (view : View)
    (request : ViewRequest)
    (answers : other ≠ number ∨
      ∀ request, request.view? = some view → likeness.Answers request) :
    Steady likeness number before .nothing (Session.useView other view request) := by
  cases request with
  | element key =>
      exact (askContainer (.element view key) trivial
        (answers.imp_right fun answers => answers _ rfl)).bind
          fun _ _ _ _ => pure fun _ _ => trivial
  | elements =>
      exact (askContainer (.elements view) trivial
        (answers.imp_right fun answers => answers _ rfl)).bind
          fun _ _ _ _ => pure fun _ _ => trivial
  | slice range name =>
      exact (askContainer (.slice view range) trivial
        (answers.imp_right fun answers => answers _ rfl)).bind
        fun _ answer _ _ => (bindAnswer name other answer).bind fun _ _ _ _ =>
          pure fun _ _ => trivial
  | describe => exact pure fun _ _ => trivial

/-! ## Opening containers -/

theorem openBlob
    (data : List UInt8)
    (backing : Backing)
    (environment : Option Nat) :
    Steady likeness number before (fun made opened => opened.Opened made)
      (Session.openBlob (.of data backing) environment) :=
  (report _).bind fun _ _ _ _ => ofOutcome fun _ loaded made _ =>
    Container.opened_of_load loaded made

theorem openFileWith
    (digest : List UInt8 → List UInt8)
    (path : String)
    (data : Option (List UInt8))
    (verify : Bool)
    (environment : Option String) :
    Steady likeness number before (fun made opened => opened.Opened made)
      (Session.openFileWith digest path data verify environment) := by
  refine (optionMapM environmentNumber environment).bind fun made environment _ _ => ?_
  cases data with
  | none => exact throw _
  | some data =>
      refine (openBlob data .bytes environment).bind fun made opened _ fresh => ?_
      refine choice ?_ (pure fun _ later => fresh.mono later)
      refine (report _).bind fun _ _ grown _ => (plain _).bind fun _ _ grownNext _ => ?_
      refine pure fun later grownLast => ?_
      exact (fresh.requireDigest digest path).mono (grown.trans (grownNext.trans grownLast))

theorem bindContainer
    (opens : likeness.Opens)
    (name : String)
    {container : Container}
    (opened : container.Opened before) :
    Steady likeness number before .nothing (Session.bindContainer name container) := by
  refine change fun made left right grown agrees => ⟨made, List.prefix_rfl, ?_⟩
  refine { agrees.push opens (opened.mono grown) with containerNames := ?_ }
  simp only [agrees.containerNames, agrees.size]

/-! ## Environments and blobs -/

theorem useEnvironment
    (place : Nat)
    (request : EnvironmentRequest) :
    Steady likeness number before .nothing (Session.useEnvironment place request) := by
  cases request with
  | add module container =>
      refine (containerNumber container).bind fun _ other _ _ => ?_
      refine (environmentAt place).bind fun _ environment _ _ => (report _).bind fun _ _ _ _ => ?_
      refine (change fun made left right _ agrees => ⟨made, List.prefix_rfl, ?_⟩).bind
        fun _ _ _ _ => pure fun _ _ => trivial
      exact { agrees with environments := by rw [agrees.environments] }
  | find module =>
      exact (environmentAt place).bind fun _ _ _ _ => (plain _).bind fun _ container _ _ =>
        (nameOfContainer container).bind fun _ _ _ _ => pure fun _ _ => trivial
  | contains module =>
      exact (environmentAt place).bind fun _ _ _ _ => pure fun _ _ => trivial
  | names => exact (environmentAt place).bind fun _ _ _ _ => pure fun _ _ => trivial
  | size => exact (environmentAt place).bind fun _ _ _ _ => pure fun _ _ => trivial

theorem useBlob
    (name : String)
    (blob : Blob)
    (request : BlobRequest) :
    Steady likeness number before .nothing (Session.useBlob name blob request) := by
  cases request with
  | length => exact (plain _).bind fun _ _ _ _ => pure fun _ _ => trivial
  | slice start stop => exact (plain _).bind fun _ _ _ _ => pure fun _ _ => trivial
  | released => exact pure fun _ _ => trivial
  | release =>
      refine (change fun made left right _ agrees => ⟨made, List.prefix_rfl, ?_⟩).bind
        fun _ _ _ _ => pure fun _ _ => trivial
      exact { agrees with blobs := by rw [agrees.blobs] }
  | findNul start => exact (plain _).bind fun _ _ _ _ => pure fun _ _ => trivial
  | textAt start => exact (plain _).bind fun _ _ _ _ => pure fun _ _ => trivial
  | unpack format offset => exact (plain _).bind fun _ _ _ _ => pure fun _ _ => trivial
  | signature =>
      exact (plain _).bind fun _ _ _ _ => (plain _).bind fun _ _ _ _ => pure fun _ _ => trivial
  | header =>
      exact (plain _).bind fun _ _ _ _ => (plain _).bind fun _ _ _ _ => pure fun _ _ => trivial
  | layout =>
      exact (plain _).bind fun _ _ _ _ => (plain _).bind fun _ _ _ _ =>
        (plain _).bind fun _ _ _ _ => pure fun _ _ => trivial

/-! ## Specifications and records -/

theorem setRegistry
    {made : List PartitionSpec}
    {left right : Workspace}
    (agrees : Workspace.Agrees likeness number made left right)
    {later : List PartitionSpec}
    (grown : made <+: later)
    {registry : Registry}
    (knows : Knows later registry left.records left.specs)
    (admitted : likeness.admits registry left.containers.size) :
    Workspace.Agrees likeness number later { left with registry } { right with registry } :=
  { agrees with
    registry := rfl
    knows
    alike := likeness.mono agrees.alike grown
    admitted }

/-- A new specification takes a slot of its own, whether it is registered or not. -/
theorem createSpec
    (registers : likeness.Registers)
    (place : Place)
    (element : Element)
    (register : Bool) :
    Steady likeness number before (fun made spec => spec.MadeIn made)
      (Session.createSpec place element register) := by
  intro made left right grown agrees
  have grownAfter : made <+: made ++ [left.registry.specFor place element] :=
    List.prefix_append _ _
  obtain ⟨own, knows⟩ := agrees.knows.create (left.registry.slot_specFor place element)
  rw [on_createSpec, on_createSpec, ← agrees.registry]
  cases register with
  | false =>
      refine ⟨rfl, _, grownAfter, setRegistry agrees grownAfter knows
        (registers _ _ _ agrees.admitted),
        fun value answered => ?_⟩
      cases answered
      exact own
  | true =>
      refine ⟨rfl, _, grownAfter, setRegistry agrees grownAfter (knows.register own)
        (registers _ _ _ agrees.admitted),
        fun value answered => ?_⟩
      obtain ⟨_, _, rfl⟩ := Fallible.map_eq_ok.mp answered
      exact own

/-- A specification that was made is registered. -/
theorem registerSpec
    (registers : likeness.Registers)
    {spec : PartitionSpec}
    (own : spec.MadeIn before) :
    Steady likeness number before .nothing (Session.registered spec) := by
  intro made left right grown agrees
  rw [on_registered, on_registered, ← agrees.registry]
  exact ⟨rfl, made, List.prefix_rfl, setRegistry agrees List.prefix_rfl
    (agrees.knows.register (getElem?_of_isPrefix grown own))
    (registers _ _ _ agrees.admitted), fun _ _ => trivial⟩

theorem shapeCodecs
    (name : String)
    (fields : List String)
    (layout : List CodecName) :
    Steady likeness number before .nothing (Session.shapeCodecs name fields layout) :=
  (mapM (fun _ codec _ => codecNamed codec) layout).bind fun _ _ _ _ =>
    (plain _).bind fun _ _ _ _ => (plain _).bind fun _ _ _ _ =>
      (plain _).bind fun _ _ _ _ => pure fun _ _ => trivial

theorem newRecord
    (registers : likeness.Registers)
    (name : String)
    (fields : List String)
    (named : List (Except Fault Codec))
    (place : Option PlaceName) :
    Steady likeness number before (fun made record => record.MadeIn made)
      (Session.newRecord name fields named place) := by
  refine (optionMapM placeNamed place).bind fun _ place _ _ => ?_
  refine (plain _).bind fun _ _ _ _ => (plain _).bind fun _ schema _ _ => ?_
  refine (optionMapM (fun place => createSpec registers place (.record schema) true) place).bind
    fun _ spec? _ own => ?_
  exact pure fun _ later spec found => getElem?_of_isPrefix later (own spec found)

theorem defineRecord
    (registers : likeness.Registers)
    (name : String)
    (fields : List String)
    (layout : List CodecName)
    (place : Option PlaceName) :
    Steady likeness number before .nothing (Session.defineRecord name fields layout place) := by
  refine (shapeCodecs name fields layout).bind fun _ named _ _ => ?_
  refine (change fun made _ _ _ agrees => ⟨made, List.prefix_rfl, ?_⟩).bind fun _ _ _ _ => ?_
  · exact { agrees with
      records := by rw [agrees.records]
      knows := agrees.knows.eraseRecord name }
  refine (newRecord registers name fields named place).bind fun _ record _ own => ?_
  refine (change fun made _ _ grown agrees => ⟨made, List.prefix_rfl, ?_⟩).bind
    fun _ _ _ _ => pure fun _ _ => trivial
  exact { agrees with
    records := by rw [agrees.records]
    knows := agrees.knows.bindRecord
      (fun spec placed => getElem?_of_isPrefix grown (own spec placed)) name }

/-! ## Steps -/

theorem askNumbered
    (grown : Catalogue.specs <+: before)
    {other : Nat}
    {request : Request TargetName}
    (answers : other ≠ number ∨
      ∀ found, found.erased = request.erased → likeness.Answers found)
    (name : Option String) :
    Steady likeness number before .nothing (Session.askNumbered other request name) := by
  refine (lookup grown request).bind fun _ found _ own => ?_
  refine (askContainer found own.1 (answers.imp_right fun answers => answers found own.2)).bind
    fun _ answer _ _ => ?_
  exact
    (bindAnswer name other answer).bind fun _ _ _ _ =>
      (nameAnswer answer).bind fun _ _ _ _ => pure fun _ _ => trivial

theorem setBuilder
    (builder : Builder) :
    Steady likeness number before .nothing
      (modify fun workspace => { workspace with builder } : Session Unit) :=
  change fun made _ _ _ agrees => ⟨made, List.prefix_rfl, { agrees with builder := rfl }⟩

theorem requireSubjects
    (grown : Catalogue.specs <+: before)
    (locates : ∀ made spec, spec.MadeIn made → likeness.Keeps made (Query.partition spec))
    (subjects : List Subject) :
    Steady likeness number before .nothing (subjects.forM Session.requireSubject) := by
  induction subjects generalizing before with
  | nil => exact pure fun _ _ => trivial
  | cons subject rest inductionHypothesis =>
      exact (requireSubject grown subject fun _ spec _ _ made => locates made spec).bind
        fun _ _ later _ => inductionHypothesis (grown.trans later)

theorem viewPart
    (answers : ∀ request, request.onView → likeness.Answers request)
    (part : String)
    (request : ViewRequest) :
    Steady likeness number before .nothing (Step.viewPart part request).perform := by
  refine read (fun _ _ _ agrees => ?_) fun _ _ _ _ _ => ?_
  · rw [agrees.views]
  · exact (known _ part).bind fun _ found _ _ => useView found.1 found.2 request <|
      .inr fun request isView => answers request (Request.onView_of_view? isView)

theorem unreadable
    (grown : Catalogue.specs <+: before)
    (locates : ∀ made spec, spec.MadeIn made → likeness.Keeps made (Query.partition spec))
    (subjects : List Subject)
    (fault : Fault) :
    Steady likeness number before .nothing (Step.unreadable subjects fault).perform :=
  (requireSubjects grown locates subjects).bind fun _ _ _ _ => throw _

/-- Every step that asks no container is steady. -/
theorem perform
    (grown : Catalogue.specs <+: before)
    {step : Step}
    (apart : step.asks = false)
    (registers : step.registers = false ∨ likeness.Registers)
    (opens : step.opens = false ∨ likeness.Opens) :
    Steady likeness number before .nothing step.perform := by
  cases step with
  | openContainer name data backing environment =>
      have opens := opens.resolve_left (by simp [Step.opens])
      refine (optionMapM environmentNumber environment).bind fun _ environment _ _ => ?_
      refine (plain _).bind fun _ _ _ _ => ?_
      refine (openBlob data backing environment).bind fun _ _ _ opened => ?_
      exact (bindContainer opens name opened).bind fun _ _ _ _ => pure fun _ _ => trivial
  | loadFile name path data verify environment =>
      have opens := opens.resolve_left (by simp [Step.opens])
      refine (openFileWith _ path data verify environment).bind fun _ _ _ opened => ?_
      exact (bindContainer opens name opened).bind fun _ _ _ _ => pure fun _ _ => trivial
  | ask container request name => contradiction
  | viewPart part request => contradiction
  | newEnvironment name =>
      refine (change fun made _ _ _ agrees => ⟨made, List.prefix_rfl, ?_⟩).bind
        fun _ _ _ _ => pure fun _ _ => trivial
      exact { agrees with
        environments := by rw [agrees.environments]
        environmentNames := by rw [agrees.environments, agrees.environmentNames] }
  | useEnvironment environment request =>
      exact (environmentNumber environment).bind fun _ place _ _ => useEnvironment place request
  | newBlob name data backing =>
      refine (plain _).bind fun _ _ _ _ => ?_
      refine (change fun made _ _ _ agrees => ⟨made, List.prefix_rfl, ?_⟩).bind
        fun _ _ _ _ => pure fun _ _ => trivial
      exact { agrees with blobs := by rw [agrees.blobs] }
  | useBlob blob request =>
      refine read (fun _ _ _ agrees => ?_) fun _ _ _ _ _ => ?_
      · rw [agrees.blobs]
      · exact (known _ blob).bind fun _ found _ _ => useBlob blob found request
  | defineRecord name fields layout place =>
      have registers := registers.resolve_left (by simp [Step.registers])
      exact (defineRecord registers name fields layout place).bind fun _ _ _ _ =>
        pure fun _ _ => trivial
  | createSpec place element register binding =>
      have registers := registers.resolve_left (by simp [Step.registers])
      refine (placeNamed place).bind fun _ place _ _ => ?_
      refine (elementNamed element).bind fun _ element _ _ => ?_
      refine (createSpec registers place element register).bind fun _ spec _ own => ?_
      refine (change fun made _ _ later agrees => ⟨made, List.prefix_rfl, ?_⟩).bind
        fun _ _ _ _ => pure fun _ _ => trivial
      exact { agrees with
        specs := by rw [agrees.specs]
        knows := agrees.knows.bindSpec (getElem?_of_isPrefix later own) binding }
  | registerSpec target =>
      have registers := registers.resolve_left (by simp [Step.registers])
      exact (specNamed grown target).bind fun _ _ _ own => registerSpec registers own
  | describeSpec target =>
      exact (specNamed grown target).bind fun _ _ _ _ => pure fun _ _ => trivial
  | specForName name =>
      refine read (fun _ _ _ agrees => ?_) fun _ _ _ _ _ => pure fun _ _ => trivial
      rw [agrees.registry]
  | specForIndex index =>
      cases index with
      | tagged index =>
          refine read (fun _ _ _ agrees => ?_) fun _ _ _ _ _ => pure fun _ _ => trivial
          rw [agrees.registry]
      | floating index =>
          refine read (fun _ _ _ agrees => ?_) fun _ _ _ _ _ => pure fun _ _ => trivial
          rw [agrees.registry]
      | _ => exact (plain _).discard.bind fun _ _ _ _ => pure fun _ _ => trivial
  | slotCount =>
      refine read (fun _ _ _ agrees => ?_) fun _ _ _ _ _ => pure fun _ _ => trivial
      rw [agrees.registry]
  | registered =>
      refine read (fun _ _ _ agrees => ?_) fun _ _ _ _ _ => pure fun _ _ => trivial
      rw [agrees.registry]
  | unpack element data offset =>
      exact (elementNamed element).bind fun _ _ _ _ => (plain _).bind fun _ _ _ _ =>
        (plain _).bind fun _ _ _ _ => pure fun _ _ => trivial
  | pack record fields =>
      exact (recordNamed record).bind fun _ _ _ _ => (plain _).bind fun _ _ _ _ =>
        pure fun _ _ => trivial
  | packElement element value =>
      exact (elementNamed element).bind fun _ _ _ _ => (plain _).bind fun _ _ _ _ =>
        pure fun _ _ => trivial
  | flatten values => exact (plain _).bind fun _ _ _ _ => pure fun _ _ => trivial
  | addString text =>
      refine read (fun _ _ _ agrees => ?_) fun _ _ _ _ _ => ?_
      · rw [agrees.builder]
      · exact (plain _).bind fun _ added _ _ => (setBuilder added.2).bind fun _ _ _ _ =>
          pure fun _ _ => trivial
  | addPartition name entrySize data cardinality =>
      refine read (fun _ _ _ agrees => ?_) fun _ _ _ _ _ => ?_
      · rw [agrees.builder]
      · exact (plain _).bind fun _ builder _ _ => (setBuilder builder).bind fun _ _ _ _ =>
          pure fun _ _ => trivial
  | addElements target values name =>
      refine (specNamed grown target).bind fun _ spec _ _ => ?_
      refine read (fun _ _ _ agrees => ?_) fun _ _ _ _ _ => ?_
      · rw [agrees.builder]
      · exact (plain _).bind fun _ builder _ _ => (setBuilder builder).bind fun _ _ _ _ =>
          pure fun _ _ => trivial
  | unreadable subjects fault => contradiction

end Steady
end Session
end ModuleInterface

import Mathlib
import ModuleInterface.Proofs.Workspace.Effects

/-!
# Located once, located for good

What a container remembers after any run is what the accesses of the run have achieved, no
more and no less (`Workspace.remembered_after`): a container that is opened remembers
nothing, and every step does to it what its effects do. So when the table of contents is
emptied, exactly the partitions that were located earlier can still be had, and exactly the
tables that were gathered earlier, whatever the run does afterwards
(`Workspace.located_for_good`).
-/

namespace ModuleInterface

/-- The container is the same, and it has just been opened, if it is there at all. -/
def Likeness.fresh : Likeness where
  alike made left right :=
    left = right ∧ ∀ container, left = some container → container.Opened made
  admits _ _ := True
  mono alike grown :=
    ⟨alike.1, fun container found => (alike.2 container found).mono grown⟩
  environment alike := congrArg (·.bind Container.environment) alike.1
  opened _ opened := ⟨rfl, fun _ found => Option.some.inj found ▸ opened⟩

namespace Workspace

variable {made : List PartitionSpec} {workspace : Workspace}
variable {number : Nat} {container : Container}

/-! ## Runs one after another -/

theorem made_append
    (workspace : Workspace)
    (earlier later : List Step) :
    workspace.made (earlier ++ later) =
      workspace.made earlier ++ (workspace.after earlier).made later := by
  induction earlier generalizing workspace with
  | nil => rfl
  | cons step rest inductionHypothesis =>
      rw [List.cons_append, made, made, inductionHypothesis, List.append_assoc]
      rfl

/-- A specification that a run makes stands at the place of its slot. -/
theorem madeIn_after
    {steps : List Step}
    {spec : PartitionSpec}
    (member : spec ∈ Catalogue.specs ++ initial.made steps) :
    spec.MadeIn (Catalogue.specs ++ initial.made steps) := by
  obtain ⟨place, bound, rfl⟩ := List.getElem_of_mem member
  have slot := congrArg (·[place]?) (slots_after steps)
  simp only [List.getElem?_map, List.getElem?_eq_getElem bound, Option.map_some,
    List.getElem?_range bound, Option.some.injEq] at slot
  rw [PartitionSpec.MadeIn, slot, List.getElem?_eq_getElem bound]

/-! ## Containers in runs -/

/-- A container stays where it is, and the steps of a run do their effects to it. -/
theorem Settled.applyAll_after
    (settled : workspace.Settled made)
    (present : workspace.containers[number]? = some container)
    (steps : List Step) :
    ∃ effects, (workspace.after steps).containers[number]? =
      some (container.applyAll effects) := by
  induction steps generalizing made workspace container with
  | nil => exact ⟨[], present⟩
  | cons step rest inductionHypothesis =>
      have presentNext := (settled.leaves_perform present step).1
      obtain ⟨effects, presentLast⟩ := inductionHypothesis (settled.run step).2 presentNext
      rw [← Container.applyAll_append] at presentLast
      exact ⟨_, presentLast⟩

/-- A container that a step adds has just been opened: the steps that ask containers add
none. -/
theorem Settled.opened_of_absent
    (settled : workspace.Settled made)
    (absent : workspace.containers[number]? = none)
    {step : Step}
    (present : (step.perform.on workspace).2.containers[number]? = some container) :
    ∃ later, container.Opened later := by
  cases asks : step.asks with
  | false =>
      have nothing : Likeness.fresh.alike made workspace.containers[number]?
          workspace.containers[number]? :=
        ⟨rfl, fun _ found => by rw [absent] at found; contradiction⟩
      obtain ⟨_, later, _, agrees⟩ := (Agrees.self nothing settled trivial).steady
        (Session.Steady.perform settled.catalogue asks (.inr fun _ _ _ _ => trivial)
          (.inr fun _ _ _ => trivial))
      exact ⟨later, agrees.alike.2 container present⟩
  | true =>
      have opensNone : step.opens = false := by cases step <;> first | rfl | contradiction
      obtain ⟨_, _, _, agrees⟩ :=
        (settled.agrees (fun _ count => count = workspace.containers.size) rfl number).perform
          Likeness.persists_same (.inr fun _ _ _ same => same) (.inl opensNone)
          (.inr Likeness.answers_same)
      obtain ⟨bound, _⟩ := Array.getElem?_eq_some_iff.mp present
      rw [agrees.admitted] at bound
      rw [Array.getElem?_eq_none_iff] at absent
      omega

/-! ## What a run achieves -/

/-- In some step of a run, an effect on the container of a number is answered when its turn
comes. -/
def Achieves (workspace : Workspace) (number : Nat) (steps : List Step) (effect : Effect) :
    Prop :=
  ∃ earlier step later container, steps = earlier ++ step :: later ∧
    (workspace.after earlier).containers[number]? = some container ∧
    container.Achieves (step.effects (workspace.after earlier) number) effect

theorem achieves_concat
    (workspace : Workspace)
    (number : Nat)
    (steps : List Step)
    (step : Step)
    (effect : Effect) :
    workspace.Achieves number (steps ++ [step]) effect ↔
      workspace.Achieves number steps effect ∨
        ∃ container, (workspace.after steps).containers[number]? = some container ∧
          container.Achieves (step.effects (workspace.after steps) number) effect := by
  constructor
  · rintro ⟨earlier, other, later, container, split, present, achieves⟩
    obtain rfl | ⟨init, last, rfl⟩ := List.eq_nil_or_concat later
    · obtain ⟨rfl, same⟩ := List.append_inj' split rfl
      cases same
      exact .inr ⟨container, present, achieves⟩
    · rw [List.concat_eq_append, ← List.cons_append, ← List.append_assoc] at split
      obtain ⟨rfl, _⟩ := List.append_inj' split rfl
      exact .inl ⟨earlier, other, init, container, rfl, present, achieves⟩
  · rintro (⟨earlier, other, later, container, rfl, present, achieves⟩ |
      ⟨container, present, achieves⟩)
    · exact ⟨earlier, other, later ++ [step], container, by simp, present, achieves⟩
    · exact ⟨steps, step, [], container, rfl, present, achieves⟩

/-- A container that a run asked is there afterwards. -/
theorem present_of_achieves
    {steps : List Step}
    {effect : Effect}
    (achieves : initial.Achieves number steps effect) :
    ∃ container, (initial.after steps).containers[number]? = some container := by
  obtain ⟨earlier, step, later, container, rfl, present, _⟩ := achieves
  rw [after_append]
  obtain ⟨effects, presentLast⟩ := (settled_after earlier).applyAll_after present (step :: later)
  exact ⟨_, presentLast⟩

/-- A partition that a run locates is that of a specification that was made. -/
theorem madeIn_of_achieves
    {steps : List Step}
    {effect : Effect}
    (achieves : initial.Achieves number steps effect) :
    effect.MadeIn (Catalogue.specs ++ initial.made steps) := by
  obtain ⟨earlier, step, later, container, rfl, _, before, after, split, _⟩ := achieves
  have own : effect.MadeIn (Catalogue.specs ++ initial.made earlier) :=
    (settled_after earlier).madeIn_of_mem_effects number step effect (by simp [split])
  intro spec same
  rw [made_append, ← List.append_assoc]
  exact getElem?_of_isPrefix (List.prefix_append _ _) (own spec same)

/-- What a container remembers after a run is what the run has achieved, and its journal
reports this, once each. -/
theorem remembered_after
    (steps : List Step)
    (present : (initial.after steps).containers[number]? = some container) :
    (∀ cell, container.Filled cell ↔
      ∃ effect, effect.cell? = some cell ∧ initial.Achieves number steps effect) ∧
    container.Logged := by
  induction steps using List.reverseRecOn generalizing container with
  | nil => contradiction
  | append_singleton steps step inductionHypothesis =>
      have settled := settled_after steps
      rw [after_append] at present
      cases found : (initial.after steps).containers[number]? with
      | none =>
          obtain ⟨_, opened⟩ := settled.opened_of_absent found present
          refine ⟨fun cell => iff_of_false (opened.blank cell) ?_, opened.logged⟩
          rintro ⟨effect, _, achieves⟩
          obtain earlier | ⟨other, foundOther, _⟩ :=
            (achieves_concat _ _ _ _ _).mp achieves
          · obtain ⟨other, foundOther⟩ := present_of_achieves earlier
            rw [found] at foundOther
            contradiction
          · rw [found] at foundOther
            contradiction
      | some earlier =>
          obtain ⟨remembered, logged⟩ := inductionHypothesis found
          have presentNext := (settled.leaves_perform found step).1
          obtain rfl := Option.some.inj (present.symm.trans presentNext)
          refine ⟨fun cell => ?_, logged.applyAll _⟩
          rw [Container.filled_applyAll, remembered, ← exists_or]
          refine exists_congr fun effect => ?_
          rw [← and_or_left, achieves_concat]
          simp [found]

/-- The slot of a specification that was made is filled if its partition was located. -/
theorem filled_slot_iff
    {steps : List Step}
    (present : (initial.after steps).containers[number]? = some container)
    {later : List Step}
    {spec : PartitionSpec}
    (member : spec ∈ Catalogue.specs ++ initial.made (steps ++ later)) :
    container.Filled (.slot spec.slot) ↔ initial.Achieves number steps (.partition spec) := by
  rw [(remembered_after steps present).1]
  refine ⟨?_, fun achieves => ⟨.partition spec, rfl, achieves⟩⟩
  rintro ⟨effect, fills, achieves⟩
  cases effect with
  | partition other =>
      have slot : other.slot = spec.slot := by simpa [Effect.cell?] using fills
      have own := madeIn_after member
      have ownOther : other.MadeIn (Catalogue.specs ++ initial.made (steps ++ later)) := by
        rw [made_append, ← List.append_assoc]
        exact getElem?_of_isPrefix (List.prefix_append _ _)
          (madeIn_of_achieves achieves other rfl)
      rw [PartitionSpec.MadeIn, slot, own] at ownOther
      exact Option.some.inj ownOther ▸ achieves
  | _ => simp [Effect.cell?] at fills

/-- The attributes are remembered if they were gathered. -/
theorem filled_attributes_iff
    {steps : List Step}
    (present : (initial.after steps).containers[number]? = some container) :
    container.Filled .attributes ↔ initial.Achieves number steps .attributes := by
  rw [(remembered_after steps present).1]
  refine ⟨?_, fun achieves => ⟨.attributes, rfl, achieves⟩⟩
  rintro ⟨effect, fills, achieves⟩
  cases effect with
  | attributes => exact achieves
  | _ => simp [Effect.cell?] at fills

/-- A single trait is remembered if it was gathered. -/
theorem filled_trait_iff
    {steps : List Step}
    (present : (initial.after steps).containers[number]? = some container)
    (kind : SingleTrait) :
    container.Filled (.trait kind) ↔ initial.Achieves number steps (.trait kind) := by
  rw [(remembered_after steps present).1]
  refine ⟨?_, fun achieves => ⟨.trait kind, rfl, achieves⟩⟩
  rintro ⟨effect, fills, achieves⟩
  cases effect with
  | trait other =>
      obtain rfl : other = kind := by simpa [Effect.cell?] using fills
      exact achieves
  | _ => simp [Effect.cell?] at fills

/-! ## Without a table of contents -/

/-- A step that empties a table of contents does just that, if it is answered. -/
theorem Settled.effects_clearContents
    (settled : workspace.Settled made)
    (present : workspace.containers[number]? = some container)
    {name : String}
    (named : workspace.containerNames.find? name = some number)
    {binding : Option String}
    {outcome : Outcome}
    (cleared : (workspace.run (.ask name .clearContents binding)).1 = .ok outcome) :
    (Step.ask name .clearContents binding).effects workspace number = [.emptied] := by
  have looked : Session.lookedUp number .clearContents =
      (fun environment => (Request.clearContents, environment)) <$>
        Session.environmentOf number := rfl
  obtain ⟨kept, _⟩ := settled.keeps present (Session.Steady.environmentOf number)
  rw [run_fst, Session.on_ask_of_some named, Session.askNumbered_eq, Session.on_bind, looked,
    Session.on_map] at cleared
  rw [Step.effects, if_pos named, Session.askEffects, looked, Session.on_map]
  generalize (Session.environmentOf number).on workspace = ran at kept cleared
  obtain ⟨environment, after⟩ := ran
  cases environment with
  | error fault => contradiction
  | ok environment =>
      have kept : after.containers[number]? = some container := kept
      simp only [Except.map, kept]
      rfl

/-- In every run, with any of its steps failing, a container locates every partition at most
once and gathers every one of the four kinds of tables at most once, and what it located or
gathered it keeps unchanged. When its table of contents is emptied, whatever the run does
afterwards, a partition is answered as before if an access to it was answered earlier in the
run, be it in the middle of another request or of one that failed, and is absent otherwise;
the attributes and every single trait of a declaration are answered as before if their table
was gathered earlier, and are empty otherwise. -/
theorem located_for_good
    {before : List Step}
    {number : Nat}
    {container : Container}
    (present : (initial.after before).containers[number]? = some container) :
    (∀ slot, container.journal.countP (Event.locates slot) ≤ 1) ∧
    container.journal.countP Event.gathersAttributes ≤ 1 ∧
    (∀ kind, container.journal.countP (Event.gathers kind) ≤ 1) ∧
    (∀ later, ∃ last, (initial.after (before ++ later)).containers[number]? = some last ∧
      last.Retains container) ∧
    ∀ name binding outcome later,
      (initial.after before).containerNames.find? name = some number →
      ((initial.after before).run (.ask name .clearContents binding)).1 = .ok outcome →
      ∃ last, (initial.after (before ++ .ask name .clearContents binding :: later)).containers[
          number]? = some last ∧
        (∀ spec ∈ Catalogue.specs ++
            initial.made (before ++ .ask name .clearContents binding :: later),
          (initial.Achieves number before (.partition spec) →
            ((Query.partition spec).on last).1 = ((Query.partition spec).on container).1 ∧
              ∃ view, ((Query.partition spec).on last).1 = .ok view) ∧
          (¬initial.Achieves number before (.partition spec) →
            ((Query.partition spec).on last).1 = .error (.partitionAbsent spec.name))) ∧
        (∀ declaration,
          (initial.Achieves number before .attributes →
            ((Query.attributesOf declaration).on last).1 =
              ((Query.attributesOf declaration).on container).1) ∧
          (¬initial.Achieves number before .attributes →
            ((Query.attributesOf declaration).on last).1 =
              declaration.requireKey.map fun _ => [])) ∧
        ∀ kind declaration,
          (initial.Achieves number before (.trait kind) →
            ((Query.traitOf kind declaration).on last).1 =
              ((Query.traitOf kind declaration).on container).1) ∧
          (¬initial.Achieves number before (.trait kind) →
            ((Query.traitOf kind declaration).on last).1 =
              declaration.requireKey.map fun _ => kind.absent) := by
  obtain ⟨_, logged⟩ := remembered_after before present
  have settled := settled_after before
  refine ⟨fun slot => ?_, ?_, fun kind => ?_, fun later => ?_, ?_⟩
  · exact (logged.located slot).trans_le (Bool.toNat_le _)
  · exact logged.attributes.trans_le (Bool.toNat_le _)
  · exact (logged.traits kind).trans_le (Bool.toNat_le _)
  · obtain ⟨effects, presentLast⟩ := settled.applyAll_after present later
    rw [after_append]
    exact ⟨_, presentLast, container.retains_applyAll effects⟩
  intro name binding outcome later named cleared
  have presentNext :
      ((initial.after before).run (.ask name .clearContents binding)).2.1.containers[number]? =
        some (container.apply .emptied) := by
    have leaves := settled.leaves_perform present (.ask name .clearContents binding)
    rw [settled.effects_clearContents present named cleared] at leaves
    exact leaves.1
  obtain ⟨effects, presentLast⟩ := (settled.run _).2.applyAll_after presentNext later
  have remains : ((container.apply .emptied).applyAll effects).Remains container :=
    container.remains_emptied.applyAll effects
  refine ⟨_, by rw [after_append]; exact presentLast, fun spec member => ?_,
    fun declaration => ?_, fun kind declaration => ?_⟩
  · rw [← filled_slot_iff present member]
    exact remains.on_partition spec
  · rw [← filled_attributes_iff present]
    exact remains.on_attributesOf declaration
  · rw [← filled_trait_iff present]
    exact remains.on_traitOf kind declaration

theorem placed_scopeDesc :
    Catalogue.specs[Catalogue.scopeDesc.slot]? = some Catalogue.scopeDesc := rfl

/-- A session that makes a specification for the partition of a container, and asks for it
once before the table of contents is emptied. -/
def locatedBefore : List Step := [
  .openContainer "f" Container.oneByteData .bytes none,
  .defineRecord "R" ["a"] [.named "U8"] (some ⟨"r", "Index", .null⟩),
  .ask "f" (.partition (.named "R")) none,
  .ask "f" (.partition (.known Catalogue.scopeDesc placed_scopeDesc)) none]

theorem located_for_good_locatedBefore :
    ∃ container, (initial.after locatedBefore).containers[0]? = some container ∧
      (initial.after locatedBefore).containerNames.find? "f" = some 0 ∧
      container.journal.countP (Event.locates 104) ≤ 1 ∧
      ∃ last, (initial.after (locatedBefore ++ [.ask "f" .clearContents none])).containers[0]? =
          some last ∧
        ∃ spec ∈ initial.made locatedBefore,
          (∃ view, ((Query.partition spec).on last).1 = .ok view) ∧
          ((Query.partition Catalogue.scopeDesc).on last).1 =
            .error (.partitionAbsent Catalogue.scopeDesc.name) := by
  have found : (initial.after locatedBefore).containers[0]?.map (fun container =>
      (container.located? 104, container.located? Catalogue.scopeDesc.slot)) =
      some (some ⟨79, 1⟩, none) := by
    decide +kernel
  have slots : (initial.made locatedBefore).map PartitionSpec.slot = [104] := by decide +kernel
  have named : (initial.after locatedBefore).containerNames.find? "f" = some 0 := by
    decide +kernel
  have answered : ((initial.after locatedBefore).run (.ask "f" .clearContents none)).1.isOk := by
    decide +kernel
  obtain ⟨container, present, located⟩ := Option.map_eq_some_iff.mp found
  obtain ⟨here, nowhere⟩ := Prod.mk.inj located
  obtain ⟨spec, member, slot⟩ : ∃ spec ∈ initial.made locatedBefore, spec.slot = 104 := by
    rw [← List.mem_map, slots]
    exact List.mem_singleton_self 104
  obtain ⟨outcome, cleared⟩ := Fallible.exists_of_isOk answered
  obtain ⟨once, _, _, _, emptied⟩ := located_for_good present
  obtain ⟨last, presentLast, partitions, _⟩ :=
    emptied "f" none outcome [] named cleared
  have memberWhole : spec ∈ Catalogue.specs ++
      initial.made (locatedBefore ++ [.ask "f" .clearContents none]) := by
    rw [made_append]
    exact List.mem_append_right _ (List.mem_append_left _ member)
  have standard : Catalogue.scopeDesc ∈ Catalogue.specs ++
      initial.made (locatedBefore ++ [.ask "f" .clearContents none]) :=
    List.mem_of_getElem? (Catalogue.madeIn_of_mem_standard (by simp [Catalogue.standard])
      (List.prefix_append _ _))
  have filled : container.Filled (.slot spec.slot) := by
    rw [Container.Filled, slot, here]
    rfl
  have empty : ¬container.Filled (.slot Catalogue.scopeDesc.slot) := by
    rw [Container.Filled, nowhere]
    exact Bool.false_ne_true
  exact ⟨container, present, named, once 104, last, presentLast, spec, member,
    ((partitions spec memberWhole).1 ((filled_slot_iff present memberWhole).mp filled)).2,
    (partitions _ standard).2 fun achieves =>
      empty ((filled_slot_iff present standard).mpr achieves)⟩

end Workspace
end ModuleInterface

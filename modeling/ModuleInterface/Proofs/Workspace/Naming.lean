import Mathlib
import ModuleInterface.Proofs.Workspace.Agreement

/-!
# Names stand for the same in workspaces that agree

What a name stands for is found in the same way in workspaces that agree, and a name of a
partition stands for a specification that was made.
-/

namespace ModuleInterface
namespace Session

/-- A query is run on the container of a number, which is replaced and reports. -/
theorem on_onContainer
    {α : Type}
    (other : Nat)
    (query : Query α)
    (workspace : Workspace) :
    (onContainer other query).on workspace =
      match workspace.containers[other]? with
      | none => (.error (.unbound (toString other)), workspace)
      | some container =>
          ((query.on container).1, { workspace with
            containers := workspace.containers.setIfInBounds other (query.on container).2
            log := workspace.log ++
              (query.on container).2.journal.drop container.journal.length }) := by
  rw [onContainer, on_get_bind]
  cases workspace.containers[other]? with
  | none => rfl
  | some container =>
      simp only
      generalize query.on container = ran
      obtain ⟨outcome, after⟩ := ran
      cases outcome <;> rfl

namespace Steady

variable {α : Type} {likeness : Likeness} {number : Nat} {before : List PartitionSpec}
variable {promise : Promise α}

/-! ## Reports and queries -/

theorem report
    (events : List Event) :
    Steady likeness number before .nothing (Session.report events) :=
  change fun made _ _ _ agrees => ⟨made, List.prefix_rfl, agrees.report _ _⟩

/-- A query of a container is steady, if it is that of another container or is answered in
the same way by containers that are alike. -/
theorem onContainer
    {other : Nat}
    {query : Query α}
    (keeps : other ≠ number ∨ ∀ made, before <+: made → likeness.Keeps made query) :
    Steady likeness number before .nothing (Session.onContainer other query) := by
  intro made left right grown agrees
  rw [on_onContainer, on_onContainer]
  by_cases elsewhere : other = number
  · subst elsewhere
    have keepsHere := (keeps.resolve_left (fun different => different rfl)) made grown
    cases foundLeft : left.containers[other]? with
    | none =>
        rw [agrees.right_none foundLeft]
        exact ⟨rfl, made, List.prefix_rfl, agrees, fun _ _ => trivial⟩
    | some leftContainer =>
        obtain ⟨rightContainer, foundRight⟩ := agrees.exists_right foundLeft
        have alike := agrees.alike
        rw [foundLeft, foundRight] at alike
        obtain ⟨same, alikeAfter⟩ := keepsHere leftContainer rightContainer alike
        rw [foundRight]
        refine ⟨same, made, List.prefix_rfl, ?_, fun _ _ => trivial⟩
        exact (agrees.store (fun different => absurd rfl different) fun _ => alikeAfter).report
          _ _
  · rw [agrees.others other elsewhere]
    cases right.containers[other]? with
    | none => exact ⟨rfl, made, List.prefix_rfl, agrees, fun _ _ => trivial⟩
    | some container =>
        refine ⟨rfl, made, List.prefix_rfl, ?_, fun _ _ => trivial⟩
        exact (agrees.store (fun _ => rfl) fun here => absurd here elsewhere).report _ _

/-! ## Names -/

theorem bound
    {bindings : Bindings String α}
    {name : String}
    (kept : ∀ value, bindings.find? name = some value →
      ∀ made, before <+: made → promise made value) :
    Steady likeness number before promise (Session.bound bindings name) := by
  unfold Session.bound
  split
  next value found => exact pure (kept value found)
  next => exact throw _

theorem known
    (bindings : Bindings String α)
    (name : String) :
    Steady likeness number before .nothing (Session.bound bindings name) :=
  bound fun _ _ _ _ => trivial

theorem containerNumber
    (name : String) :
    Steady likeness number before .nothing (Session.containerNumber name) := by
  refine read (fun _ _ _ agrees => ?_) fun _ _ _ _ _ => known _ name
  rw [agrees.containerNames]

theorem environmentNumber
    (name : String) :
    Steady likeness number before .nothing (Session.environmentNumber name) := by
  refine read (fun _ _ _ agrees => ?_) fun _ _ _ _ _ => known _ name
  rw [agrees.environmentNames]

theorem environmentAt
    (place : Nat) :
    Steady likeness number before .nothing (Session.environmentAt place) := by
  refine read (fun _ _ _ agrees => ?_) fun _ left _ _ _ => ?_
  · rw [agrees.environments]
  · cases left.environments[place]? with
    | none => exact throw _
    | some environment => exact pure fun _ _ => trivial

/-- The environment that a container was opened with is not a thing that it remembers. -/
theorem environmentOf
    (other : Nat) :
    Steady likeness number before .nothing (Session.environmentOf other) := by
  refine read (fun made left right agrees => ?_) fun _ left _ _ _ => ?_
  · have same : left.containers[other]? >>= Container.environment =
        right.containers[other]? >>= Container.environment := by
      by_cases elsewhere : other = number
      · subst elsewhere
        exact likeness.environment agrees.alike
      · rw [agrees.others other elsewhere]
    rw [same]
  · cases left.containers[other]? >>= Container.environment with
    | none => exact pure fun _ _ => trivial
    | some environment =>
        exact (environmentAt environment).bind fun _ _ _ _ => pure fun _ _ => trivial

theorem nameOfContainer
    (other : Nat) :
    Steady likeness number before .nothing (Session.nameOfContainer other) := by
  refine read (fun _ _ _ agrees => ?_) fun _ _ _ _ _ => pure fun _ _ => trivial
  rw [agrees.containerNames]

theorem recordNamed
    (name : String) :
    Steady likeness number before (fun made record => record.MadeIn made)
      (Session.recordNamed name) := by
  refine read (fun _ _ _ agrees => ?_) fun _ _ _ _ agrees => bound fun record found _ grown => ?_
  · rw [agrees.records]
  · exact fun spec place =>
      getElem?_of_isPrefix grown (agrees.knows.records name record found spec place)

/-- A name of a partition stands for a specification that was made. -/
theorem target
    (grown : Catalogue.specs <+: before)
    (name : TargetName) :
    Steady likeness number before (fun made target => target.MadeIn made)
      (Session.target name) := by
  cases name with
  | value value => exact pure fun _ _ _ resolved => by contradiction
  | known spec placed =>
      refine pure fun made later found resolved => ?_
      cases resolved
      exact getElem?_of_isPrefix (grown.trans later) placed
  | named name =>
      refine read (fun _ _ _ agrees => ?_) fun _ left _ _ agrees => ?_
      · rw [agrees.records, agrees.specs, agrees.registry]
      · have own : ∀ made spec, PartitionSpec.MadeIn spec made →
            ∀ later, made <+: later → (Target.spec spec).MadeIn later := by
          intro made spec own later grown found resolved
          cases resolved
          exact getElem?_of_isPrefix grown own
        cases foundRecord : left.records.find? name with
        | some record =>
            simp only
            cases placed : record.spec with
            | some spec =>
                exact pure (own _ spec (agrees.knows.records name record foundRecord spec placed))
            | none => exact pure fun _ _ _ resolved => by contradiction
        | none =>
            simp only
            cases foundSpec : left.specs.find? name with
            | some spec => exact pure (own _ spec (agrees.knows.specs name spec foundSpec))
            | none =>
                simp only
                cases known : left.registry.forName? name with
                | some spec =>
                    have member := List.mem_of_find?_eq_some known
                    exact pure (own _ spec (agrees.knows.named spec member))
                | none => exact throw _

theorem specNamed
    (grown : Catalogue.specs <+: before)
    (name : TargetName) :
    Steady likeness number before (fun made spec => spec.MadeIn made) (Session.specNamed name) :=
  (target grown name).bind fun _ _ _ own => ofOutcome fun spec resolved _ later =>
    getElem?_of_isPrefix later (own spec resolved)

theorem elementNamed
    (name : String) :
    Steady likeness number before .nothing (Session.elementNamed name) := by
  refine choice (pure fun _ _ => trivial) ?_
  cases IndexKind.ofLabel? name with
  | some kind => exact pure fun _ _ => trivial
  | none => exact (recordNamed name).bind fun _ _ _ _ => pure fun _ _ => trivial

theorem indexKindNamed
    (name : String) :
    Steady likeness number before .nothing (Session.indexKindNamed name) := by
  unfold Session.indexKindNamed
  split
  · exact pure fun _ _ => trivial
  · exact throw _

theorem codecNamed
    (name : CodecName) :
    Steady likeness number before .nothing (Session.codecNamed name) := by
  cases name with
  | padding length =>
      exact (plain _).bind fun _ _ _ _ => pure fun _ _ => trivial
  | nested record => exact (recordNamed record).bind fun _ _ _ _ => pure fun _ _ => trivial
  | coerced width vocabulary =>
      exact (plain _).bind fun _ _ _ _ => pure fun _ _ => trivial
  | strict vocabulary => exact (plain _).bind fun _ _ _ _ => pure fun _ _ => trivial
  | index kind => exact (indexKindNamed kind).bind fun _ _ _ _ => pure fun _ _ => trivial
  | named name =>
      simp only [Session.codecNamed]
      split
      · exact pure fun _ _ => trivial
      · exact pure fun _ _ => trivial
      · exact throw _

theorem placeNamed
    (name : PlaceName) :
    Steady likeness number before .nothing (Session.placeNamed name) := by
  refine (indexKindNamed name.indexKind).bind fun _ _ _ _ => ?_
  refine (plain _).bind fun _ _ _ _ => choice ?_ (pure fun _ _ => trivial)
  exact (plain _).bind fun _ _ _ _ => pure fun _ _ => trivial

theorem requireSubject
    (grown : Catalogue.specs <+: before)
    (subject : Subject)
    (locates : ∀ container spec placed, subject = .located container spec placed →
      ∀ made, spec.MadeIn made → likeness.Keeps made (Query.partition spec)) :
    Steady likeness number before .nothing (Session.requireSubject subject) := by
  cases subject with
  | container name => exact (containerNumber name).discard
  | view name =>
      refine read (fun _ _ _ agrees => ?_) fun _ _ _ _ _ => ?_
      · rw [agrees.views]
      · exact (known _ name).discard
  | record name => exact (recordNamed name).discard
  | element name => exact (elementNamed name).discard
  | partition name => exact (target grown name).discard
  | blob name =>
      refine read (fun _ _ _ agrees => ?_) fun _ _ _ _ _ => ?_
      · rw [agrees.blobs]
      · exact (known _ name).discard
  | environment name => exact (environmentNumber name).discard
  | located container spec placed =>
      refine (containerNumber container).bind fun made other later _ => ?_
      refine (onContainer (.inr fun last grownLast => ?_)).discard
      exact locates container spec placed rfl last
        (getElem?_of_isPrefix (grown.trans (later.trans grownLast)) placed)

end Steady
end Session
end ModuleInterface

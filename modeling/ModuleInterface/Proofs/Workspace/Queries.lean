import Mathlib
import ModuleInterface.Proofs.Container.Attributes
import ModuleInterface.Proofs.Container.Resolution
import ModuleInterface.Proofs.Container.SingleTraits
import ModuleInterface.Proofs.Workspace.History

/-!
# What the queries of a session answer

After any run that spares a container, its queries are answered from its bytes and from
the specifications that are registered by then.
-/

namespace ModuleInterface
namespace Workspace

/-- A container that a run spares has the tables that opening makes of its bytes, and
remembers what is right about the specifications that were made, which are all that are
known. -/
theorem exists_opened
    {steps : List Step}
    {number : Nat}
    (spares : SparesAll number initial steps)
    {container : Container}
    (present : (initial.after steps).containers[number]? = some container) :
    ∃ made data backing fresh,
      Knows made (initial.after steps).registry (initial.after steps).records
        (initial.after steps).specs ∧
      container.Remembers made ∧
      fresh.Stores data backing ∧
      container.SharesTables fresh ∧
      (Container.load container.blob container.environment).1 = .ok fresh := by
  obtain ⟨made, _, agrees⟩ := (agrees_initial number).after spares
  have sound := agrees.soundLeft container present
  obtain ⟨data, backing, fresh, loaded, tables⟩ := sound.opened
  have shared : container.SharesTables fresh := .of_bare tables
  have stores := Container.stores_of_load loaded
  refine ⟨made, data, backing, fresh, agrees.knows, sound.remembers, stores, shared, ?_⟩
  rw [shared.blob, stores.blob]
  exact loaded

/-! ## Resolution -/

/-- A tagged index designates nothing when it is null, and is refused when no specification
is known for its kind and sort. Otherwise the table of contents decides what comes of it,
and if it designates an element, then that of its bytes. Its kind and its sort are never
refused, and no bytes are missing. -/
theorem resolve_outcome
    {steps : List Step}
    {number : Nat}
    (spares : SparesAll number initial steps)
    {container : Container}
    (present : (initial.after steps).containers[number]? = some container) :
    (∃ fresh, (Container.load container.blob container.environment).1 = .ok fresh ∧
      container.SharesTables fresh) ∧
    (∀ spec ∈ Catalogue.specs, spec.element.isTotal) ∧
    ∀ index outcome,
      ((Query.resolve (initial.after steps).registry (.tagged index)).on container).1 =
          outcome →
        (outcome = .ok .null ↔ index.raw = 0) ∧
        (index.raw ≠ 0 →
          ((∃ fault, outcome = .error fault ∧ fault.kind = .reader .unsupportedSort) ↔
            ∀ spec ∈ (initial.after steps).registry.sorted, ¬spec.Holds index)) ∧
        (index.raw ≠ 0 → ∀ spec ∈ (initial.after steps).registry.sorted, spec.Holds index →
          container.Resolves spec index outcome) ∧
        ∀ fault, outcome = .error fault →
          (fault.kind = .reader .unsupportedSort →
            ∃ report, fault.report? = some report ∧ report.got = .integer index.sort) ∧
          (∀ partition expected found, fault ≠ .wrongKeyKind partition expected found) ∧
          (∀ partition sort key, fault ≠ .wrongKeySort partition sort key) ∧
          fault ≠ .layoutViolated := by
  obtain ⟨made, data, backing, fresh, knows, remembers, stores, shared, loaded⟩ :=
    exists_opened spares present
  refine ⟨⟨fresh, loaded, shared⟩, Catalogue.isTotal_of_mem_specs, ?_⟩
  rintro index _ rfl
  have answered := Query.on_resolveIndex knows.sorted remembers index
  change ((Query.resolve (initial.after steps).registry (.tagged index)).on container).1 = _
    at answered
  rw [answered]
  by_cases null : index.raw = 0
  · have isNull : index.isNull := beq_iff_eq.mpr null
    rw [if_pos isNull]
    simp [null]
  · have notNull : ¬index.isNull := fun isNull => null (beq_iff_eq.mp isNull)
    rw [if_neg notNull]
    cases found : (initial.after steps).registry.forIndex? index with
    | none =>
        have unheld := (Registry.forIndex?_eq_none_iff _ index).mp found
        refine ⟨by simp [null], fun _ => ⟨fun _ => unheld, fun _ => ⟨_, rfl, rfl⟩⟩,
          fun _ spec member holds => absurd holds (unheld spec member), ?_⟩
        rintro _ ⟨⟩
        exact ⟨fun _ => ⟨_, rfl, rfl⟩, by simp, by simp, by simp⟩
    | some spec =>
        obtain ⟨member, holds⟩ := Registry.holds_of_forIndex? found
        have resolves := Container.resolves stores shared holds
        refine ⟨iff_of_false resolves.ne_null null, fun _ => iff_of_false ?_ fun unheld =>
          unheld spec member holds, fun _ other otherMember otherHolds => ?_,
          fun fault failed => ?_⟩
        · rintro ⟨fault, failed, unsupported⟩
          exact (resolves.fault_apart failed).1 unsupported
        · have same := (knows.unambiguous.forIndex?_eq_some_iff index other).mpr
            ⟨otherMember, otherHolds⟩
          rw [found, Option.some.injEq] at same
          exact same ▸ resolves
        · obtain ⟨known, key⟩ := resolves.fault_apart failed
          exact ⟨fun unsupported => absurd unsupported known, key⟩

/-- A session that makes two records known by one sort, of which the second is refused, and
resolves an index of the sort in a container with a partition of the first. -/
def sortTaken : List Step := [
  .defineRecord "R" ["a"] [.named "U8"] (some ⟨"r", "DeclIndex", .text "BITFIELD"⟩),
  .defineRecord "S" ["b"] [.named "U16"] (some ⟨"s", "DeclIndex", .text "BITFIELD"⟩),
  .openContainer "f" Container.oneByteData .bytes none,
  .ask "f" (.resolve (.tagged (.ofWord .decl 5))) none]

theorem resolve_outcome_sortTaken :
    SparesAll 0 initial sortTaken ∧
    ∃ container, (initial.after sortTaken).containers[0]? = some container ∧
      ∃ spec ∈ (initial.after sortTaken).registry.sorted,
        spec.name = "r" ∧ spec.Holds (.ofWord .decl 5) ∧
        container.Resolves spec (.ofWord .decl 5)
          ((Query.resolve (initial.after sortTaken).registry
            (.tagged (.ofWord .decl 5))).on container).1 := by
  have spares : SparesAll 0 initial sortTaken :=
    ⟨trivial, trivial, trivial, fun _ => rfl, trivial⟩
  have opened : ((initial.after sortTaken).containers[0]?).isSome := by decide +kernel
  have known : ((initial.after sortTaken).registry.forIndex? (.ofWord .decl 5)).map (·.name) =
      some "r" := by
    decide +kernel
  obtain ⟨container, present⟩ := Option.isSome_iff_exists.mp opened
  obtain ⟨spec, found, name⟩ := Option.map_eq_some_iff.mp known
  obtain ⟨member, holds⟩ := Registry.holds_of_forIndex? found
  obtain ⟨_, _, outcomes⟩ := resolve_outcome spares present
  obtain ⟨_, _, resolves, _⟩ := outcomes (.ofWord .decl 5) _ rfl
  exact ⟨spares, container, present, spec, member, name, holds,
    resolves (by decide) spec member holds⟩

/-- A session that makes a record with a strict enumeration known by a sort, and opens a
container with a partition of the record. -/
def memberSorted : List Step := [
  .defineRecord "R" ["a"] [.strict "Access"] (some ⟨"r", "DeclIndex", .text "BITFIELD"⟩),
  .openContainer "f" Container.oneByteData .bytes none]

/-- An index that designates an element inside its partition is not resolved where the
stored number has no name in the strict enumeration. -/
theorem resolve_member_unread :
    ∃ container spec, (initial.after memberSorted).containers[0]? = some container ∧
      (initial.after memberSorted).registry.forIndex? (.ofWord .decl 5) = some spec ∧
      (TaggedIndex.ofWord .decl 5).raw ≠ 0 ∧
      container.summary? spec.name = some ⟨1, 79, 1, spec.element.size⟩ ∧
      (TaggedIndex.ofWord .decl 5).position < 1 ∧
      ((Query.resolve (initial.after memberSorted).registry
        (.tagged (.ofWord .decl 5))).on container).1 =
          .error (.notMember "200" "Access") := by
  have computed : (initial.after memberSorted).containers[0]?.map (fun container =>
      (((initial.after memberSorted).registry.forIndex? (.ofWord .decl 5)).map fun spec =>
        (spec.name, spec.element.size), container.summary? "r",
        ((Query.resolve (initial.after memberSorted).registry
          (.tagged (.ofWord .decl 5))).on container).1.map fun _ => ())) =
      some (some ("r", 1), some ⟨1, 79, 1, 1⟩, .error (.notMember "200" "Access")) := by
    decide +kernel
  obtain ⟨container, present, found⟩ := Option.map_eq_some_iff.mp computed
  simp only [Prod.mk.injEq] at found
  obtain ⟨known, stored, failed⟩ := found
  obtain ⟨spec, mapped, same⟩ := Option.map_eq_some_iff.mp known
  obtain ⟨name, size⟩ := Prod.mk.inj same
  refine ⟨container, spec, present, mapped, by decide, ?_, by decide, ?_⟩
  · rw [name, size]
    exact stored
  · cases outcome : ((Query.resolve (initial.after memberSorted).registry
        (.tagged (.ofWord .decl 5))).on container).1 with
    | ok value =>
        rw [outcome] at failed
        contradiction
    | error fault =>
        rw [outcome] at failed
        exact congrArg Except.error (Except.error.inj failed)

/-! ## Attributes -/

/-- The attributes of a declaration are those that the records of two partitions pair with
it, in the order of the records and those of the first partition first; each record counts
for one declaration. If a partition is present with elements of another size, no
declaration has an answer, whatever was asked before. -/
theorem attributes_merged
    {steps : List Step}
    {number : Nat}
    (spares : SparesAll number initial steps)
    {container : Container}
    (present : (initial.after steps).containers[number]? = some container) :
    ∃ fresh,
      (Container.load container.blob container.environment).1 = .ok fresh ∧
      container.SharesTables fresh ∧
      (container.AttributesAgree →
        (∀ declaration : Value, declaration.requireKey = .ok () →
          ((Query.attributesOf declaration).on container).1 =
            .ok (Association.attributesOf
                (container.associations "trait.attribute") declaration ++
              Association.attributesOf
                (container.associations ".msvc.trait.decl-attrs") declaration)) ∧
        ∃ answer : TaggedIndex → List TaggedIndex,
          (∀ declaration, ((Query.attributesOf (.tagged declaration)).on container).1 =
            .ok (answer declaration)) ∧
          (((container.associations "trait.attribute" ++
              container.associations ".msvc.trait.decl-attrs").map
                Association.declaration).dedup.map fun declaration =>
                  (answer declaration).length).sum =
            container.cardinality "trait.attribute" +
              container.cardinality ".msvc.trait.decl-attrs") ∧
      (¬container.AttributesAgree →
        ∀ declaration, ∃ fault,
          ((Query.attributesOf declaration).on container).1 = .error fault ∧
            fault.kind = .reader .schemaMismatch) := by
  obtain ⟨made, data, backing, fresh, _, remembers, stores, shared, loaded⟩ :=
    exists_opened spares present
  have both : container.allAssociations = container.associations "trait.attribute" ++
      container.associations ".msvc.trait.decl-attrs" := by
    simp [Container.allAssociations, Catalogue.attributeSources, Catalogue.traitAttribute,
      Catalogue.vendorAttribute]
  refine ⟨fresh, loaded, shared, fun agree => ⟨?_, ?_⟩, ?_⟩
  · intro declaration key
    rw [Container.attributesOf_of_agree stores shared remembers agree key, both,
      Association.attributesOf_append]
  · refine ⟨fun declaration => Association.attributesOf container.allAssociations
      (.tagged declaration), fun declaration => ?_, ?_⟩
    · exact Container.attributesOf_of_agree stores shared remembers agree
        (Value.requireKey_tagged declaration)
    · rw [← both,
        Association.sum_length_attributesOf Container.eq_ofWords_of_mem_allAssociations, both,
        List.length_append, Container.length_associations, Container.length_associations]
  · intro disagree declaration
    exact Container.attributesOf_of_disagree stores shared remembers disagree declaration

/-- The bytes of a container with two attributes of two declarations, and with another one
from the vendor for the first of them. -/
def attributesData : List UInt8 :=
  [0x54, 0x51, 0x45, 0x1A] ++ List.replicate 40 0 ++
    [76, 0, 0, 0, 40, 0, 0, 0] ++ List.replicate 12 0 ++
    [140, 0, 0, 0, 2, 0, 0, 0, 0, 0, 0, 0] ++
    [0, 116, 114, 97, 105, 116, 46, 97, 116, 116, 114, 105, 98, 117, 116, 101,
      0, 46, 109, 115, 118, 99, 46, 116, 114, 97, 105, 116, 46, 100, 101, 99, 108, 45, 97,
      116, 116, 114, 115, 0] ++
    [32, 0, 0, 0, 17, 0, 0, 0, 64, 0, 0, 0, 18, 0, 0, 0] ++
    [32, 0, 0, 0, 19, 0, 0, 0] ++
    [1, 0, 0, 0, 116, 0, 0, 0, 2, 0, 0, 0, 8, 0, 0, 0] ++
    [17, 0, 0, 0, 132, 0, 0, 0, 1, 0, 0, 0, 8, 0, 0, 0]

/-- A session that opens the container and asks for attributes. -/
def attributesAsked : List Step := [
  .openContainer "f" attributesData .bytes none,
  .ask "f" (.attributesOf (.tagged (.ofWord .decl 64))) none]

theorem attributes_merged_attributesAsked :
    SparesAll 0 initial attributesAsked ∧
    ∃ container, (initial.after attributesAsked).containers[0]? = some container ∧
      container.AttributesAgree ∧
      ((Query.attributesOf (.tagged (.ofWord .decl 32))).on container).1 =
        .ok [.ofWord .attr 17, .ofWord .attr 19] := by
  have spares : SparesAll 0 initial attributesAsked := ⟨trivial, fun _ => rfl, trivial⟩
  have stored : (initial.after attributesAsked).containers[0]?.map (fun container =>
      (container.summary? "trait.attribute", container.summary? ".msvc.trait.decl-attrs",
        Association.attributesOf
          (container.associations "trait.attribute") (.tagged (.ofWord .decl 32)) ++
        Association.attributesOf
          (container.associations ".msvc.trait.decl-attrs") (.tagged (.ofWord .decl 32)))) =
      some (some ⟨1, 116, 2, 8⟩, some ⟨17, 132, 1, 8⟩,
        [.ofWord .attr 17, .ofWord .attr 19]) := by
    decide +kernel
  obtain ⟨container, present, found⟩ := Option.map_eq_some_iff.mp stored
  simp only [Prod.mk.injEq] at found
  obtain ⟨first, second, attached⟩ := found
  have agree : container.AttributesAgree := by
    intro spec source summary listed
    simp only [Catalogue.attributeSources, List.mem_cons, List.not_mem_nil, or_false] at source
    obtain rfl | rfl := source
    · cases first.symm.trans listed
      rfl
    · cases second.symm.trans listed
      rfl
  obtain ⟨_, _, _, merged, _⟩ := attributes_merged spares present
  have answered := (merged agree).1 (.tagged (.ofWord .decl 32)) rfl
  rw [attached] at answered
  exact ⟨spares, container, present, agree, answered⟩

/-! ## Single traits -/

/-- A declaration has the trait of the last record that its own partition has of it, and the
empty one if there is none or no partition. A partition with elements of another size is
refused each time, and the container stays as it is. What is asked of one trait, whether it
fails or not, leaves what any other answers, attributes included. The text of a deprecated
declaration is the one at the offset that its trait is. -/
theorem traits_of_last_records
    {steps : List Step}
    {number : Nat}
    (spares : SparesAll number initial steps)
    {container : Container}
    (present : (initial.after steps).containers[number]? = some container) :
    ∃ fresh,
      (Container.load container.blob container.environment).1 = .ok fresh ∧
      container.SharesTables fresh ∧
      (∀ kind,
        (container.AgreesWith kind.spec →
          ∀ declaration : Value, declaration.requireKey = .ok () →
            ((Query.traitOf kind declaration).on container).1 =
              .ok ((TraitRecord.last? (container.traitRecords kind) declaration).getD
                kind.absent)) ∧
        (¬container.AgreesWith kind.spec →
          ∃ fault, fault.kind = .reader .schemaMismatch ∧
            ∀ declaration, (Query.traitOf kind declaration).on container =
              (.error fault, container))) ∧
      (∀ kind declaration asked,
        let after := ((Query.traitOf kind declaration).on container).2
        (∀ other, ((Query.traitOf other asked).on after).1 =
          ((Query.traitOf other asked).on container).1) ∧
        ((Query.attributesOf asked).on after).1 = ((Query.attributesOf asked).on container).1) ∧
      (container.AttributesAgree →
        ∀ declaration : Value, declaration.requireKey = .ok () →
          ((Query.attributesOf declaration).on container).1 =
            .ok (Association.attributesOf container.allAssociations declaration)) ∧
      (container.AgreesWith (SingleTrait.spec .deprecation) →
        ∀ declaration : Value, declaration.requireKey = .ok () →
          ∃ offset, container.DeprecatesAt declaration offset) ∧
      (¬container.AgreesWith (SingleTrait.spec .deprecation) →
        ∃ fault, fault.kind = .reader .schemaMismatch ∧
          ∀ declaration,
            ((Query.deprecationText declaration).on container).1 = .error fault) := by
  obtain ⟨made, data, backing, fresh, _, remembers, stores, shared, loaded⟩ :=
    exists_opened spares present
  refine ⟨fresh, loaded, shared, fun kind => ⟨?_, ?_⟩, ?_, ?_, ?_, ?_⟩
  · intro agrees declaration key
    exact Container.traitOf_of_agreesWith stores shared remembers agrees key
  · intro disagrees
    exact Container.traitOf_of_not_agreesWith remembers disagrees
  · intro kind declaration asked
    have steady : Query.Steady made (Query.traitOf kind declaration) := .traitOf _ _
    constructor
    · intro other
      exact steady.undisturbed (.traitOf other asked) remembers
    · exact steady.undisturbed (.attributesOf asked) remembers
  · intro agree declaration key
    exact Container.attributesOf_of_agree stores shared remembers agree key
  · intro agrees declaration key
    exact Container.exists_deprecatesAt stores shared remembers agrees key
  · intro disagrees
    exact Container.deprecationText_of_not_agreesWith remembers disagrees

/-- The bytes of a container with two deprecations of one declaration, and with a partition
of friends whose elements have another size. -/
def deprecationsData : List UInt8 :=
  [0x54, 0x51, 0x45, 0x1A] ++ List.replicate 40 0 ++
    [76, 0, 0, 0, 31, 0, 0, 0] ++ List.replicate 12 0 ++
    [127, 0, 0, 0, 2, 0, 0, 0, 0, 0, 0, 0] ++
    [0, 116, 114, 97, 105, 116, 46, 100, 101, 112, 114, 101, 99, 97, 116, 101, 100,
      0, 116, 114, 97, 105, 116, 46, 102, 114, 105, 101, 110, 100, 0] ++
    [32, 0, 0, 0, 1, 0, 0, 0, 32, 0, 0, 0, 18, 0, 0, 0] ++
    [7, 0, 0, 0] ++
    [1, 0, 0, 0, 107, 0, 0, 0, 2, 0, 0, 0, 8, 0, 0, 0] ++
    [18, 0, 0, 0, 123, 0, 0, 0, 1, 0, 0, 0, 4, 0, 0, 0]

/-- A session that opens the container and asks for friends and for a deprecation. -/
def deprecationsAsked : List Step := [
  .openContainer "f" deprecationsData .bytes none,
  .ask "f" (.traitOf .friendship (.tagged (.ofWord .decl 32))) none,
  .ask "f" (.deprecationText (.tagged (.ofWord .decl 32))) none]

theorem traits_of_last_records_deprecationsAsked :
    SparesAll 0 initial deprecationsAsked ∧
    ∃ container, (initial.after deprecationsAsked).containers[0]? = some container ∧
      container.AgreesWith (SingleTrait.spec .deprecation) ∧
      ¬container.AgreesWith (SingleTrait.spec .friendship) ∧
      container.DeprecatesAt (.tagged (.ofWord .decl 32)) 18 ∧
      ∃ fault, fault.kind = .reader .schemaMismatch ∧
        (Query.traitOf .friendship (.tagged (.ofWord .decl 32))).on container =
          (.error fault, container) := by
  have spares : SparesAll 0 initial deprecationsAsked :=
    ⟨trivial, fun _ => rfl, fun _ => rfl, trivial⟩
  have stored : (initial.after deprecationsAsked).containers[0]?.map (fun container =>
      (container.summary? "trait.deprecated", container.summary? "trait.friend",
        (TraitRecord.last? (container.traitRecords .deprecation)
          (.tagged (.ofWord .decl 32))).bind Value.integer?)) =
      some (some ⟨1, 107, 2, 8⟩, some ⟨18, 123, 1, 4⟩, some 18) := by
    decide +kernel
  obtain ⟨container, present, found⟩ := Option.map_eq_some_iff.mp stored
  simp only [Prod.mk.injEq] at found
  obtain ⟨deprecated, friends, last⟩ := found
  obtain ⟨trait, lastTrait, offset⟩ := Option.bind_eq_some_iff.mp last
  have agrees : container.AgreesWith (SingleTrait.spec .deprecation) := by
    intro summary listed
    cases deprecated.symm.trans listed
    rfl
  have disagrees : ¬container.AgreesWith (SingleTrait.spec .friendship) := by
    intro agrees
    exact absurd (agrees _ friends) (by decide)
  obtain ⟨_, _, _, traits, _, _, texts, _⟩ := traits_of_last_records spares present
  have attached := (traits .deprecation).1 agrees (.tagged (.ofWord .decl 32)) rfl
  obtain ⟨place, deprecates⟩ := texts agrees (.tagged (.ofWord .decl 32)) rfl
  rw [lastTrait, deprecates.trait] at attached
  cases Except.ok.inj attached
  cases offset
  obtain ⟨fault, kind, refused⟩ := (traits .friendship).2 disagrees
  exact ⟨spares, container, present, agrees, disagrees, deprecates, fault, kind, refused _⟩

end Workspace
end ModuleInterface

import Mathlib
import ModuleInterface.Proofs.Container.Resolution

/-!
# The registry stays consistent

A registry is consistent if no two of its specifications share a name, and whatever is
known by a sort has a sort and is what its own name stands for. Registering writes the
name first and the sort after it, and can fail between the two: the invariant holds there
as well, since it only says that a sort does not come without its name. Nothing that is
known is ever replaced (`Registry.Extends`).
-/

namespace ModuleInterface
namespace Registry

/-- Every name belongs to one specification, and whatever is known by a sort has a sort
and is what its name stands for. -/
structure Consistent (registry : Registry) : Prop where
  names : (registry.named.map PartitionSpec.name).Nodup
  sorts : ∀ spec ∈ registry.sorted, spec.sort.isSome
  owned : ∀ spec ∈ registry.sorted, registry.forName? spec.name = some spec

/-- A specification that is registered is what its name stands for. -/
theorem forName?_of_mem
    {registry : Registry}
    (names : (registry.named.map PartitionSpec.name).Nodup)
    {spec : PartitionSpec}
    (member : spec ∈ registry.named) :
    registry.forName? spec.name = some spec := by
  cases found : registry.forName? spec.name with
  | none => simpa using List.find?_eq_none.mp found spec member
  | some other =>
      have same : other.name = spec.name := by simpa using List.find?_some found
      rw [List.inj_on_of_nodup_map names (List.mem_of_find?_eq_some found) member same]

/-- A specification that is known by its sort is what its index kind and its sort stand
for. -/
theorem Unambiguous.forSort?_of_mem
    {registry : Registry}
    (unambiguous : registry.Unambiguous)
    {spec : PartitionSpec}
    (member : spec ∈ registry.sorted)
    {sort : Nat}
    (sorted : spec.sort = some sort) :
    registry.forSort? spec.indexKind sort = some spec := by
  cases found : registry.forSort? spec.indexKind sort with
  | none => simpa [sorted] using List.find?_eq_none.mp found spec member
  | some other =>
      have same : other.indexKind = spec.indexKind ∧ other.sort = some sort := by
        simpa using List.find?_some found
      have key : (other.indexKind, other.sort) = (spec.indexKind, spec.sort) := by
        rw [same.1, same.2, sorted]
      rw [List.inj_on_of_nodup_map unambiguous (List.mem_of_find?_eq_some found) member key]

/-! ## Growth -/

/-- A registry knows everything that another one knows. -/
structure Extends (later earlier : Registry) : Prop where
  named : earlier.named <+: later.named
  sorted : earlier.sorted <+: later.sorted

theorem Extends.refl
    (registry : Registry) :
    registry.Extends registry :=
  ⟨List.prefix_rfl, List.prefix_rfl⟩

theorem Extends.trans
    {last later earlier : Registry}
    (after : last.Extends later)
    (before : later.Extends earlier) :
    last.Extends earlier :=
  ⟨before.named.trans after.named, before.sorted.trans after.sorted⟩

/-- What a name stands for is not replaced. -/
theorem Extends.forName?_eq
    {later earlier : Registry}
    (grown : later.Extends earlier)
    {name : String}
    {spec : PartitionSpec}
    (found : earlier.forName? name = some spec) :
    later.forName? name = some spec :=
  grown.named.find?_eq_some found

/-- What an index kind and a sort stand for is not replaced. -/
theorem Extends.forSort?_eq
    {later earlier : Registry}
    (grown : later.Extends earlier)
    {kind : IndexKind}
    {sort : Nat}
    {spec : PartitionSpec}
    (found : earlier.forSort? kind sort = some spec) :
    later.forSort? kind sort = some spec :=
  grown.sorted.find?_eq_some found

/-! ## Registering -/

section Registering

variable {registry known : Registry} {spec : PartitionSpec} {made : List PartitionSpec}

/-- A specification whose name is registered is what its name stands for. -/
theorem Consistent.registerName
    (consistent : registry.Consistent)
    (own : spec.MadeIn made)
    (named : ∀ other ∈ registry.named, other.MadeIn made)
    (registered : registry.registerName spec = .ok known) :
    known.Consistent ∧ known.Extends registry ∧ known.forName? spec.name = some spec := by
  unfold Registry.registerName at registered
  split at registered
  next free =>
    cases registered
    have grown : Extends { registry with named := registry.named ++ [spec] } registry :=
      ⟨List.prefix_append _ _, List.prefix_rfl⟩
    refine ⟨⟨?_, consistent.sorts, fun other member => grown.forName?_eq
      (consistent.owned other member)⟩, grown, ?_⟩
    · rw [List.map_append, List.map_singleton, List.nodup_append]
      refine ⟨consistent.names, List.nodup_singleton _, ?_⟩
      rintro _ taken _ last rfl
      obtain ⟨other, member, same⟩ := List.mem_map.mp taken
      rw [List.mem_singleton.mp last] at same
      simpa [same] using List.find?_eq_none.mp free other member
    · change (registry.named ++ [spec]).find? _ = some spec
      rw [List.find?_append, show registry.named.find? _ = none from free]
      simp
  next holder found =>
    split at registered
    next sameSlot =>
      cases registered
      have holderOwn := named holder (List.mem_of_find?_eq_some found)
      unfold PartitionSpec.MadeIn at own holderOwn
      rw [sameSlot, own] at holderOwn
      obtain rfl := Option.some.inj holderOwn
      exact ⟨consistent, .refl _, found⟩
    next => contradiction

/-- A sort is registered for a specification that its name stands for. -/
theorem Consistent.registerSort
    (consistent : registry.Consistent)
    (named : registry.forName? spec.name = some spec)
    (registered : registry.registerSort spec = .ok known) :
    known.Consistent ∧ known.Extends registry := by
  unfold Registry.registerSort at registered
  split at registered
  next =>
    cases registered
    exact ⟨consistent, .refl _⟩
  next sort sorted =>
    split at registered
    next =>
      cases registered
      refine ⟨⟨consistent.names, ?_, ?_⟩, List.prefix_rfl, List.prefix_append _ _⟩
      · refine List.forall_mem_append.mpr ⟨consistent.sorts, List.forall_mem_singleton.mpr ?_⟩
        rw [sorted]
        rfl
      · exact List.forall_mem_append.mpr ⟨consistent.owned, List.forall_mem_singleton.mpr named⟩
    next =>
      split at registered
      next =>
        cases registered
        exact ⟨consistent, .refl _⟩
      next => contradiction

/-- Registering keeps a registry consistent, also when it fails, and replaces nothing. -/
theorem Consistent.register
    (consistent : registry.Consistent)
    (own : spec.MadeIn made)
    (named : ∀ other ∈ registry.named, other.MadeIn made) :
    (registry.register spec).2.Consistent ∧ (registry.register spec).2.Extends registry := by
  unfold Registry.register
  split
  next => exact ⟨consistent, .refl _⟩
  next known registered =>
    obtain ⟨consistentKnown, grown, found⟩ := consistent.registerName own named registered
    split
    next => exact ⟨consistentKnown, grown⟩
    next complete sorted =>
      obtain ⟨consistentComplete, grownSorted⟩ := consistentKnown.registerSort found sorted
      exact ⟨consistentComplete, grownSorted.trans grown⟩

end Registering

/-! ## Slots -/

/-- Registered specifications have slots of their own, if each is the one that was made
for its slot. -/
theorem Consistent.slots
    {registry : Registry}
    (consistent : registry.Consistent)
    {made : List PartitionSpec}
    (named : ∀ spec ∈ registry.named, spec.MadeIn made) :
    (registry.named.map PartitionSpec.slot).Nodup := by
  refine List.Nodup.map_on (fun left leftMember right rightMember same => ?_)
    (List.Nodup.of_map _ consistent.names)
  have leftOwn := named left leftMember
  have rightOwn := named right rightMember
  unfold PartitionSpec.MadeIn at leftOwn rightOwn
  rw [same] at leftOwn
  exact Option.some.inj (leftOwn.symm.trans rightOwn)

/-- The registered specifications by slot are all of them. -/
theorem perm_bySlot
    (registry : Registry) :
    registry.bySlot.Perm registry.named :=
  List.mergeSort_perm _ _

/-- The registered specifications by slot are in the strict order of their slots, if they
have slots of their own. -/
theorem pairwise_bySlot
    {registry : Registry}
    (slots : (registry.named.map PartitionSpec.slot).Nodup) :
    registry.bySlot.Pairwise fun left right => left.slot < right.slot := by
  have ordered : registry.bySlot.Pairwise fun left right =>
      decide (left.slot ≤ right.slot) = true :=
    List.pairwise_mergeSort (fun _ _ _ => by simpa using Nat.le_trans)
      (fun _ _ => by simpa using Nat.le_total _ _) _
  have apart : registry.bySlot.Pairwise fun left right => left.slot ≠ right.slot :=
    List.pairwise_map.mp ((registry.perm_bySlot.map PartitionSpec.slot).nodup_iff.mpr slots)
  refine (ordered.and apart).imp fun {left right} both => ?_
  have less := of_decide_eq_true both.1
  have different := both.2
  omega

/-- Every slot of some specifications is below the number that is found when the largest
is counted on from another number. -/
theorem slot_lt_foldl_max
    (specs : List PartitionSpec)
    (start : Nat) :
    start ≤ specs.foldl (fun count spec => max count (spec.slot + 1)) start ∧
      ∀ spec ∈ specs,
        spec.slot < specs.foldl (fun count spec => max count (spec.slot + 1)) start := by
  induction specs generalizing start with
  | nil => exact ⟨Nat.le_refl _, fun _ member => absurd member List.not_mem_nil⟩
  | cons first rest inductionHypothesis =>
      obtain ⟨above, others⟩ := inductionHypothesis (max start (first.slot + 1))
      rw [List.foldl_cons]
      refine ⟨by omega, List.forall_mem_cons.mpr ⟨by omega, others⟩⟩

theorem slot_lt_slotCount
    {registry : Registry}
    {spec : PartitionSpec}
    (member : spec ∈ registry.named) :
    spec.slot < registry.slotCount :=
  (slot_lt_foldl_max registry.named 0).2 spec member

end Registry
end ModuleInterface

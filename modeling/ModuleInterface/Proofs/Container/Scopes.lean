import Mathlib
import ModuleInterface.Proofs.Container.Attributes
import ModuleInterface.Proofs.Container.Keys
import ModuleInterface.Proofs.Container.Navigation

/-!
# Members of scopes

Scopes are counted from 1. The range of a scope counts members from 0, and says which of them
are its own. The members of a scope are listed exactly if its range ends among all members
(`Container.ListsScopes`); a range that does not is refused as a whole.
-/

namespace ModuleInterface

/-! ## Partitions that are present -/

/-- The view of the partition that an entry of the table of contents describes. -/
def PartitionSpec.viewIn
    (spec : PartitionSpec)
    (summary : Summary) :
    View :=
  ⟨spec, spec.name, summary.offset, summary.cardinality⟩

@[simp] theorem PartitionSpec.count_viewIn
    (spec : PartitionSpec)
    (summary : Summary) :
    (spec.viewIn summary).count = summary.cardinality := rfl

namespace Container

variable {container opened : Container} {data : List UInt8} {backing : Backing}
variable {spec : PartitionSpec} {summary : Summary}

/-- A partition whose elements have the right size is the one that its entry describes. -/
theorem requirePartition_eq_viewIn
    (found : container.summary? spec.name = some summary)
    (agrees : container.AgreesWith spec) :
    container.requirePartition spec spec.name = .ok (spec.viewIn summary) := by
  rw [requirePartition, findPartition_of_summary? spec found, if_pos (agrees summary found)]
  rfl

/-- Its elements are what its bytes hold. -/
theorem get_viewIn
    (stores : opened.Stores data backing)
    (shared : container.SharesTables opened)
    (found : container.summary? spec.name = some summary)
    (agrees : container.AgreesWith spec)
    (total : spec.element.isTotal)
    {position : Nat}
    (bound : position < summary.cardinality) :
    (spec.viewIn summary).get container.blob (.integer position) =
      .ok (spec.element.decode ((container.blob.bytes.toList.drop
        (summary.offset + position * spec.element.size)).take spec.element.size)) := by
  obtain ⟨fits, inside⟩ := inside_of_summary? stores shared found (agrees summary found)
  have own := (inside.faithful fits backing).own position bound
  rw [Element.read_of_isTotal total] at own
  rw [shared.blob, stores.blob]
  exact own

end Container

/-! ## What is stored of scopes -/

namespace Container

/-- The position of the first member of a scope among all members. -/
def firstMember (container : Container) (descriptors : Summary) (scope : Nat) : Nat :=
  quadAt container.blob.bytes.toList (descriptors.offset + (scope - 1) * 8)

/-- The number of members of a scope. -/
def memberCount (container : Container) (descriptors : Summary) (scope : Nat) : Nat :=
  quadAt container.blob.bytes.toList (descriptors.offset + (scope - 1) * 8 + 4)

/-- The declaration at a position among all members. -/
def memberAt (container : Container) (members : Summary) (position : Nat) : TaggedIndex :=
  .ofWord .decl (quadAt container.blob.bytes.toList (members.offset + position * 4))

end Container

/-- A range is decoded to the two numbers that its bytes store. -/
theorem Element.decode_sequence
    (data : List UInt8)
    (offset : Nat) :
    Element.sequence.decode ((data.drop offset).take 8) =
      Sequence.value ⟨quadAt data offset, quadAt data (offset + 4)⟩ := by
  have start := decode_take_four_window data offset 8 0 (by decide)
  have cardinality := decode_take_four_window data offset 8 4 (by decide)
  rw [Nat.add_zero] at start
  rw [← start, ← cardinality]
  rfl

/-- A member is decoded to the index that its bytes store. -/
theorem Element.decode_declaration
    (data : List UInt8)
    (offset : Nat) :
    (Element.record Catalogue.declaration).decode ((data.drop offset).take 4) =
      .record "Declaration" [("index", .tagged (.ofWord .decl (quadAt data offset)))] := by
  have word := decode_take_four_window data offset 4 0 (by decide)
  rw [Nat.add_zero] at word
  rw [← word]
  rfl

/-! ## Walking from scopes to members -/

namespace Query

variable {made : List PartitionSpec} {container : Container}

/-- The declarations of a range of members. -/
def membersIn (range : Value) : Query (List Value) := do
  let members ← elements (← declarationsOf range)
  return members.map (Value.field "index")

variable (grown : Catalogue.specs <+: made)

include grown

theorem Steady.declarationsOf
    (range : Value) :
    Steady made (Query.declarationsOf range) :=
  .of_respects fun tables =>
    .declarationsOf (Comparison.lawful_memory made tables) grown range

theorem Steady.membersIn
    (range : Value) :
    Steady made (Query.membersIn range) :=
  (Steady.declarationsOf grown range).bind fun part =>
    ((Reads.elements part).bind fun _ => .pure _).steady

/-- The members of a range are cut from all members and listed. -/
theorem outcome_membersIn
    (remembers : container.Remembers made)
    (range : Value) :
    ((membersIn range).on container).1 =
      container.requirePartition Catalogue.scopeMember Catalogue.scopeMember.name >>= fun members =>
        members.sliceOf range >>= fun part =>
          (part.list container.blob).map (List.map (Value.field "index")) := by
  have own : Catalogue.scopeMember.MadeIn made :=
    Catalogue.madeIn_of_mem_standard (by simp [Catalogue.standard]) grown
  have listed : ∀ part : View,
      ((List.map (Value.field "index") <$> elements part).on container).1 =
        (part.list container.blob).map (List.map (Value.field "index")) := by
    intro part
    rw [on_map, on_elements]
  have lists : ∀ part : View, Steady made (List.map (Value.field "index") <$> elements part) := by
    intro part
    rw [map_eq_pure_bind]
    exact ((Reads.elements part).bind fun _ => .pure _).steady
  have split : membersIn range =
      declarationsOf range >>= fun part => List.map (Value.field "index") <$> elements part := by
    simp only [membersIn, map_eq_pure_bind]
  rw [split, (Steady.declarationsOf grown range).outcome_bind lists remembers, declarationsOf,
    outcome_partition_bind remembers own fun _ => (Reads.ofOutcome _).steady, bind_assoc]
  simp only [on_ofExcept, listed]

/-- The range of a scope is looked up first, and then its members. -/
theorem outcome_membersOf
    (remembers : container.Remembers made)
    {scope : Value}
    (notNull : scope.holds "is_null" = .ok false) :
    ((membersOf scope).on container).1 =
      container.requirePartition Catalogue.scopeDesc Catalogue.scopeDesc.name >>= fun descriptors =>
        descriptors.get container.blob scope >>= fun range =>
          ((membersIn range).on container).1 := by
  have own : Catalogue.scopeDesc.MadeIn made :=
    Catalogue.madeIn_of_mem_standard (by simp [Catalogue.standard]) grown
  have looksUp : ∀ view : View, Steady made (element view scope >>= membersIn) :=
    fun view => (Reads.element view scope).steady.bind (Steady.membersIn grown)
  have split : (membersOf scope).on container =
      (partition Catalogue.scopeDesc >>= fun view => element view scope >>= membersIn).on
        container := by
    rw [membersOf, on_ofExcept_bind_of_ok notNull]
    rfl
  rw [split, outcome_partition_bind remembers own looksUp]
  refine bind_congr fun view => ?_
  rw [(Reads.element view scope).steady.outcome_bind (Steady.membersIn grown) remembers,
    on_element]

/-- The global scope is that of the header. -/
theorem outcome_globalScope
    (remembers : container.Remembers made) :
    (globalScope.on container).1 =
      container.requirePartition Catalogue.scopeDesc Catalogue.scopeDesc.name >>= fun descriptors =>
        descriptors.get container.blob (.plain (.scope container.header.globalScope)) := by
  have own : Catalogue.scopeDesc.MadeIn made :=
    Catalogue.madeIn_of_mem_standard (by simp [Catalogue.standard]) grown
  have looksUp : ∀ view : View, Steady made (do
      element view (.plain (.scope (← get).header.globalScope))) := by
    intro view
    have reads : Reads (get >>= fun current : Container =>
        element view (.plain (.scope current.header.globalScope))) :=
      .read (fun _ => rfl) (fun _ => rfl) fun _ => .element _ _
    exact reads.steady
  rw [globalScope, outcome_partition_bind remembers own looksUp]
  refine bind_congr fun view => ?_
  rw [on_get_bind, on_element]

end Query

/-! ## The members of each scope -/

namespace Container

/-- How scopes are answered in a container, where one entry of its table of contents describes
the ranges of all scopes and another one all members. -/
structure ListsScopes (container : Container) (descriptors members : Summary) : Prop where
  /-- The null scope has no members. -/
  null : ((Query.membersOf (.plain (.scope 0))).on container).1 = .ok []
  /-- Other numbers than those of scopes are refused as out of range, as long as the position
  before them can be shown. -/
  beyond : ∀ scope : Int, scope ≠ 0 → ¬(1 ≤ scope ∧ scope ≤ descriptors.cardinality) →
    FailsAs ((Query.membersOf (.plain (.scope scope))).on container).1
      (if Numeral.isPrintable (scope - 1) then .outOfRange else .badValue)
  /-- The members of a scope are those of its range, in order. -/
  listed : ∀ scope : Nat, 1 ≤ scope → scope ≤ descriptors.cardinality →
    container.firstMember descriptors scope + container.memberCount descriptors scope ≤
      members.cardinality →
    ((Query.membersOf (.plain (.scope scope))).on container).1 =
      .ok ((List.range (container.memberCount descriptors scope)).map fun position =>
        .tagged (container.memberAt members
          (container.firstMember descriptors scope + position)))
  /-- A range that ends after all members is refused as a whole. -/
  refused : ∀ scope : Nat, 1 ≤ scope → scope ≤ descriptors.cardinality →
    members.cardinality <
      container.firstMember descriptors scope + container.memberCount descriptors scope →
    FailsAs ((Query.membersOf (.plain (.scope scope))).on container).1 .outOfRange
  /-- The global scope is answered with its range. -/
  globalScope : 1 ≤ container.header.globalScope →
    container.header.globalScope ≤ descriptors.cardinality →
    (Query.globalScope.on container).1 =
      .ok (Sequence.value
        ⟨container.firstMember descriptors container.header.globalScope,
          container.memberCount descriptors container.header.globalScope⟩)
  /-- A global scope that is none is out of range. -/
  globalScopeBeyond : container.header.globalScope = 0 ∨
    descriptors.cardinality < container.header.globalScope →
    FailsAs (Query.globalScope.on container).1 .outOfRange

/-- The partition of the ranges takes scopes as keys. -/
theorem takes_scope
    (descriptors : Summary)
    (scope : Int) :
    (Catalogue.scopeDesc.viewIn descriptors).Takes (.plain (.scope scope)) := by
  refine ⟨rfl, ?_⟩
  rintro ⟨_, _, sorted, _⟩
  cases sorted

/-- A number that no scope has is refused by its position. -/
theorem failsAs_of_scope_beyond
    (descriptors : Summary)
    (blob : Blob)
    {scope : Int}
    (notNull : scope ≠ 0)
    (beyond : ¬(1 ≤ scope ∧ scope ≤ descriptors.cardinality)) :
    FailsAs ((Catalogue.scopeDesc.viewIn descriptors).get blob (.plain (.scope scope)))
      (if Numeral.isPrintable (scope - 1) then .outOfRange else .badValue) := by
  have outside : ¬(0 ≤ scope - 1 ∧
      scope - 1 < (Catalogue.scopeDesc.viewIn descriptors).count) := by
    rw [PartitionSpec.count_viewIn]
    omega
  rw [View.get_of_designates (takes_scope descriptors scope) (.scope notNull)]
  exact failsAs_of_number (View.get_of_outside _ blob outside) rfl rfl

variable {container opened : Container} {data : List UInt8} {backing : Backing}
variable {made : List PartitionSpec} {descriptors members : Summary}

/-- The range of a scope stands before its number, since scopes are counted from 1. -/
theorem get_scope
    (stores : opened.Stores data backing)
    (shared : container.SharesTables opened)
    (found : container.summary? Catalogue.scopeDesc.name = some descriptors)
    (agrees : container.AgreesWith Catalogue.scopeDesc)
    {scope : Nat}
    (positive : 1 ≤ scope)
    (bound : scope ≤ descriptors.cardinality) :
    (Catalogue.scopeDesc.viewIn descriptors).get container.blob (.plain (.scope scope)) =
      .ok (Sequence.value ⟨container.firstMember descriptors scope,
        container.memberCount descriptors scope⟩) := by
  have notNull : (scope : Int) ≠ 0 := by omega
  have position : (scope : Int) - 1 = (scope - 1 : Nat) := by omega
  rw [View.get_of_designates (takes_scope descriptors scope) (.scope notNull), position,
    get_viewIn stores shared found agrees rfl (by omega)]
  exact congrArg Except.ok (Element.decode_sequence _ _)

/-- The members of a range that ends among all members are those of its positions. -/
theorem membersIn_of_within
    (grown : Catalogue.specs <+: made)
    (remembers : container.Remembers made)
    (stores : opened.Stores data backing)
    (shared : container.SharesTables opened)
    (found : container.summary? Catalogue.scopeMember.name = some members)
    (agrees : container.AgreesWith Catalogue.scopeMember)
    {start count : Nat}
    (within : start + count ≤ members.cardinality) :
    ((Query.membersIn (Sequence.value ⟨start, count⟩)).on container).1 =
      .ok ((List.range count).map fun position =>
        .tagged (container.memberAt members (start + position))) := by
  have inside : Sequence.Within ⟨start, count⟩
      (Catalogue.scopeMember.viewIn members).count :=
    Sequence.within_iff_of_stored.mpr within
  have listed : ((Catalogue.scopeMember.viewIn members).stretch start count).list
      container.blob = .ok ((List.range count).map fun position =>
        .record "Declaration"
          [("index", .tagged (container.memberAt members (start + position)))]) := by
    rw [View.list_stretch container.blob within]
    refine Fallible.mapM_eq_ok_map fun position member => ?_
    have bound : start + position < members.cardinality := by
      have := List.mem_range.mp member
      omega
    rw [get_viewIn stores shared found agrees rfl bound]
    exact congrArg Except.ok (Element.decode_declaration _ _)
  rw [Query.outcome_membersIn grown remembers, requirePartition_eq_viewIn found agrees,
    Fallible.ok_bind, View.sliceOf_value, View.slice_of_within inside, Fallible.ok_bind,
    Int.toNat_natCast, Int.toNat_natCast, listed, Except.map, List.map_map]
  rfl

/-- Any other range is refused, whatever members there are before its end. -/
theorem membersIn_of_not_within
    (grown : Catalogue.specs <+: made)
    (remembers : container.Remembers made)
    (found : container.summary? Catalogue.scopeMember.name = some members)
    (agrees : container.AgreesWith Catalogue.scopeMember)
    {start count : Nat}
    (bounded : start < 4294967296 ∧ count < 4294967296)
    (beyond : members.cardinality < start + count) :
    FailsAs ((Query.membersIn (Sequence.value ⟨start, count⟩)).on container).1 .outOfRange := by
  have outside : ¬Sequence.Within ⟨start, count⟩
      (Catalogue.scopeMember.viewIn members).count := by
    rw [Sequence.within_iff_of_stored, PartitionSpec.count_viewIn]
    omega
  -- Both ends of a stored range can be shown, so that it is never refused in another way.
  have shownStart : Numeral.isPrintable start := Numeral.isPrintable_of_lt bounded.1
  have shownStop : Numeral.isPrintable ((start : Int) + count) := by
    rw [← Nat.cast_add]
    exact Numeral.isPrintable_of_lt_ten_pow (by omega)
  rw [Query.outcome_membersIn grown remembers, requirePartition_eq_viewIn found agrees,
    Fallible.ok_bind, View.sliceOf_value, View.slice_of_not_within outside]
  refine ⟨_, rfl, ?_⟩
  rw [Fault.kind_shown_of_outOfRange rfl]
  simp only [Fault.numbers, List.all_cons, List.all_nil, shownStart, shownStop, Bool.and_true,
    if_true]

/-- A container that has both partitions lists the members of its scopes, whatever it was asked
before. -/
theorem Stores.listsScopes
    (stores : opened.Stores data backing)
    (shared : container.SharesTables opened)
    (grown : Catalogue.specs <+: made)
    (remembers : container.Remembers made)
    (foundScopes : container.summary? Catalogue.scopeDesc.name = some descriptors)
    (foundMembers : container.summary? Catalogue.scopeMember.name = some members)
    (agreesScopes : container.AgreesWith Catalogue.scopeDesc)
    (agreesMembers : container.AgreesWith Catalogue.scopeMember) :
    container.ListsScopes descriptors members := by
  have notNull : ∀ scope : Int, scope ≠ 0 →
      (Value.plain (.scope scope)).holds "is_null" = .ok false := by
    intro scope other
    simp [Value.holds, Value.part, Value.parts, List.lookup_cons, PlainIndex.isNull,
      PlainIndex.scope, Value.isTrue, Value.integer?, bind, Except.bind, other]
  have lookedUp : ∀ scope : Int, scope ≠ 0 →
      ((Query.membersOf (.plain (.scope scope))).on container).1 =
        (Catalogue.scopeDesc.viewIn descriptors).get container.blob (.plain (.scope scope)) >>=
          fun range => ((Query.membersIn range).on container).1 := by
    intro scope other
    rw [Query.outcome_membersOf grown remembers (notNull scope other),
      requirePartition_eq_viewIn foundScopes agreesScopes, Fallible.ok_bind]
  have global : (Query.globalScope.on container).1 =
      (Catalogue.scopeDesc.viewIn descriptors).get container.blob
        (.plain (.scope container.header.globalScope)) := by
    rw [Query.outcome_globalScope grown remembers,
      requirePartition_eq_viewIn foundScopes agreesScopes, Fallible.ok_bind]
  constructor
  case null => rfl
  case beyond =>
    intro scope other beyond
    obtain ⟨fault, refused, shown⟩ :=
      failsAs_of_scope_beyond descriptors container.blob other beyond
    refine ⟨fault, ?_, shown⟩
    rw [lookedUp scope other, refused, Fallible.error_bind]
  case listed =>
    intro scope positive bound within
    rw [lookedUp scope (by omega),
      get_scope stores shared foundScopes agreesScopes positive bound, Fallible.ok_bind]
    exact membersIn_of_within grown remembers stores shared foundMembers agreesMembers within
  case refused =>
    intro scope positive bound beyond
    rw [lookedUp scope (by omega),
      get_scope stores shared foundScopes agreesScopes positive bound, Fallible.ok_bind]
    exact membersIn_of_not_within grown remembers foundMembers agreesMembers
      ⟨quadAt_lt _ _, quadAt_lt _ _⟩ beyond
  case globalScope =>
    intro positive bound
    rw [global, get_scope stores shared foundScopes agreesScopes positive bound]
  case globalScopeBeyond =>
    intro beyond
    rw [global]
    obtain null | after := beyond
    · rw [null]
      exact ⟨_, View.get_nullScope (takes_scope descriptors 0).1 container.blob, rfl⟩
    · have stored : container.header.globalScope < 4294967296 := by
        rw [shared.header, stores.header, Acceptance.globalScope_storedHeader]
        exact quadAt_lt _ _
      have notZero : (container.header.globalScope : Int) ≠ 0 := by omega
      have position : (container.header.globalScope : Int) - 1 =
          (container.header.globalScope - 1 : Nat) := by omega
      have fails := failsAs_of_scope_beyond descriptors container.blob notZero (by omega)
      rwa [position, if_pos (Numeral.isPrintable_of_lt (by omega))] at fails

end Container
end ModuleInterface

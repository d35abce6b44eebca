import Mathlib
import ModuleInterface.Proofs.Container.EmptyRanges
import ModuleInterface.Proofs.Container.Navigation
import ModuleInterface.Proofs.Container.Scopes
import ModuleInterface.Proofs.Workspace.Queries
import ModuleInterface.Proofs.Workspace.Registrations

/-!
# What a session finds by walking between partitions

After any run that spares a container, walking from one of its partitions to another gives
what resolving gives, for the specifications that are registered by then, and the members of
its scopes are those that its bytes store.
-/

namespace ModuleInterface
namespace Workspace

/-! ## Navigation and resolution -/

/-- What is registered later leaves what the format's own specifications are known by. -/
theorem extends_catalogue
    (steps : List Step) :
    (initial.after steps).registry.Extends Catalogue.registry :=
  (Settled.after knows_initial consistent_initial steps).2.2

/-- Walking between the partitions of a container agrees with resolving. A range of a heap of
indices that is not empty is resolved entry by entry. The declaration of a scope, its kind and
the parts of a qualified name are found in partitions of the format as if they were resolved,
and an index with a floating-point position is found in neither way. -/
theorem navigation_agrees
    {steps : List Step}
    {number : Nat}
    (spares : SparesAll number initial steps)
    {container : Container}
    (present : (initial.after steps).containers[number]? = some container) :
    (∀ target heap kind,
      ((Session.specNamed target).on (initial.after steps)).1 = .ok heap →
      heap.element = .index (.tagged kind) →
      ∀ start cardinality : Value, cardinality.same (.integer 0) = false →
        container.ResolvesEach (initial.after steps).registry heap kind
          (.sequence start cardinality)) ∧
    (initial.after steps).registry.WalksAsResolves := by
  obtain ⟨made, data, backing, fresh, knows, remembers, stores, shared, _⟩ :=
    exists_opened spares present
  have settled : (initial.after steps).Settled made := knows
  refine ⟨?_, (extends_catalogue steps).walksAsResolves⟩
  intro target heap kind named entries start cardinality nonempty
  obtain ⟨_, _, own⟩ := settled.steady (Session.Steady.specNamed settled.catalogue target)
  refine stores.resolvesEach shared settled.sorted remembers (own heap named) entries ?_
  simp [Value.holds, Value.part, Value.parts, List.lookup_cons, Value.isTrue, Value.integer?,
    nonempty, bind, Except.bind]

/-- The bytes of a container with a heap of two types, a fundamental one and the null one, and
with the one fundamental type. -/
def typesData : List UInt8 :=
  [0x54, 0x51, 0x45, 0x1A] ++ List.replicate 40 0 ++
    [76, 0, 0, 0, 28, 0, 0, 0] ++ List.replicate 12 0 ++
    [116, 0, 0, 0, 2, 0, 0, 0, 0, 0, 0, 0] ++
    [0, 104, 101, 97, 112, 46, 116, 121, 112, 101,
      0, 116, 121, 112, 101, 46, 102, 117, 110, 100, 97, 109, 101, 110, 116, 97, 108, 0] ++
    [1, 0, 0, 0, 0, 0, 0, 0] ++
    [9, 0, 0, 0] ++
    [1, 0, 0, 0, 104, 0, 0, 0, 2, 0, 0, 0, 4, 0, 0, 0] ++
    [11, 0, 0, 0, 112, 0, 0, 0, 1, 0, 0, 0, 4, 0, 0, 0]

/-- A session that opens the container and resolves its heap. -/
def typesResolved : List Step := [
  .openContainer "f" typesData .bytes none,
  .ask "f" (.resolveHeap (.known Catalogue.heapType) (Sequence.value ⟨0, 2⟩)) none]

theorem navigation_agrees_typesResolved :
    SparesAll 0 initial typesResolved ∧
    ∃ container, (initial.after typesResolved).containers[0]? = some container ∧
      ((Session.specNamed (.known Catalogue.heapType)).on (initial.after typesResolved)).1 =
        .ok Catalogue.heapType ∧
      container.ResolvesEach (initial.after typesResolved).registry Catalogue.heapType .type
        (Sequence.value ⟨0, 2⟩) ∧
      (container.resolveEach (initial.after typesResolved).registry Catalogue.heapType
        (Sequence.value ⟨0, 2⟩)).map (List.map Value.typeName) =
          .ok ["FundamentalType", "NoneType"] := by
  have spares : SparesAll 0 initial typesResolved := ⟨trivial, fun _ => rfl, trivial⟩
  have resolved : (initial.after typesResolved).containers[0]?.map (fun container =>
      (container.resolveEach (initial.after typesResolved).registry Catalogue.heapType
        (Sequence.value ⟨0, 2⟩)).map (List.map Value.typeName)) =
      some (.ok ["FundamentalType", "NoneType"]) := by
    decide +kernel
  obtain ⟨container, present, types⟩ := Option.map_eq_some_iff.mp resolved
  have named : ((Session.specNamed (.known Catalogue.heapType)).on
      (initial.after typesResolved)).1 = .ok Catalogue.heapType := rfl
  obtain ⟨heaps, _⟩ := navigation_agrees spares present
  exact ⟨spares, container, present, named, heaps _ _ .type named rfl _ _ rfl, types⟩

/-- The index of the first scope, with a floating-point number for its position. -/
def floatingScope : FloatingIndex where
  kind := .decl
  sort := 6
  position := 0
  sortSpelling := .named
  sort_lt := by decide
  position_below := by decide +kernel

/-- The scope of an index with a floating-point position is looked for in its partition, which
may be absent, where resolving the index fails at once. -/
theorem scopeOf_floating_ne_resolve :
    ∃ container, (initial.after typesResolved).containers[0]? = some container ∧
      floatingScope.kind = .decl ∧
      Enumeration.declSort.numberOf? "SCOPE" = some floatingScope.sort ∧
      FailsAs ((Query.scopeOf (.floating floatingScope)).on container).1
        (.reader .missingPartition) ∧
      FailsAs ((Query.resolve (initial.after typesResolved).registry
        (.floating floatingScope)).on container).1 .wrongType ∧
      ((Query.scopeOf (.floating floatingScope)).on container).1 ≠
        ((Query.resolve (initial.after typesResolved).registry
          (.floating floatingScope)).on container).1 := by
  have computed : (initial.after typesResolved).containers[0]?.map (fun container =>
      ((Query.scopeOf (.floating floatingScope)).on container).1.map fun _ => ()) =
      some (.error (.partitionAbsent "decl.scope")) := by
    decide +kernel
  obtain ⟨container, present, failed⟩ := Option.map_eq_some_iff.mp computed
  obtain ⟨⟨fault, kind, resolved⟩, cause, refused⟩ :=
    (extends_catalogue typesResolved).walksAsResolves.floating floatingScope container
  have absent : cause = .partitionAbsent "decl.scope" := by
    rw [refused] at failed
    exact Except.error.inj failed
  subst absent
  have scope : FailsAs ((Query.scopeOf (.floating floatingScope)).on container).1
      (.reader .missingPartition) :=
    ⟨_, refused, rfl⟩
  have other : FailsAs ((Query.resolve (initial.after typesResolved).registry
      (.floating floatingScope)).on container).1 .wrongType :=
    ⟨fault, congrArg Prod.fst resolved, kind⟩
  refine ⟨container, present, rfl, rfl, scope, other, fun same => ?_⟩
  have kinds : FaultKind.wrongType = .reader .missingPartition := by
    rw [← scope.iff_eq, same]
    exact other
  exact absurd kinds (by decide)

/-! ## Members of scopes -/

/-- Scopes are listed with the members that their ranges say, by the entries of the table of
contents for both partitions. -/
theorem scopes_listed
    {steps : List Step}
    {number : Nat}
    (spares : SparesAll number initial steps)
    {container : Container}
    (present : (initial.after steps).containers[number]? = some container)
    {descriptors members : Summary}
    (foundScopes : container.summary? "scope.desc" = some descriptors)
    (foundMembers : container.summary? "scope.member" = some members)
    (sizeScopes : descriptors.entrySize = Catalogue.scopeDesc.element.size)
    (sizeMembers : members.entrySize = Catalogue.scopeMember.element.size) :
    container.ListsScopes descriptors members := by
  obtain ⟨made, data, backing, fresh, knows, remembers, stores, shared, _⟩ :=
    exists_opened spares present
  exact stores.listsScopes shared knows.catalogue remembers foundScopes foundMembers
    (Container.agreesWith_of_summary? foundScopes sizeScopes)
    (Container.agreesWith_of_summary? foundMembers sizeMembers)

/-- The bytes of a container with two scopes, of which the first is the global one and has the
last two of three members, and the second has more than there are. -/
def scopesData : List UInt8 :=
  [0x54, 0x51, 0x45, 0x1A] ++ List.replicate 40 0 ++
    [76, 0, 0, 0, 25, 0, 0, 0] ++ List.replicate 8 0 ++ [1, 0, 0, 0] ++
    [129, 0, 0, 0, 2, 0, 0, 0, 0, 0, 0, 0] ++
    [0, 115, 99, 111, 112, 101, 46, 100, 101, 115, 99,
      0, 115, 99, 111, 112, 101, 46, 109, 101, 109, 98, 101, 114, 0] ++
    [1, 0, 0, 0, 2, 0, 0, 0, 2, 0, 0, 0, 5, 0, 0, 0] ++
    [38, 0, 0, 0, 70, 0, 0, 0, 34, 0, 0, 0] ++
    [1, 0, 0, 0, 101, 0, 0, 0, 2, 0, 0, 0, 8, 0, 0, 0] ++
    [12, 0, 0, 0, 117, 0, 0, 0, 3, 0, 0, 0, 4, 0, 0, 0]

/-- A session that opens the container and asks for the members of a scope. -/
def scopesAsked : List Step := [
  .openContainer "f" scopesData .bytes none,
  .ask "f" (.membersOf (.plain (.scope 1))) none]

/-- What is stored of the scopes. -/
theorem exists_scopes :
    ∃ container, (initial.after scopesAsked).containers[0]? = some container ∧
      container.summary? "scope.desc" = some ⟨1, 101, 2, 8⟩ ∧
      container.summary? "scope.member" = some ⟨12, 117, 3, 4⟩ ∧
      container.header.globalScope = 1 ∧
      container.firstMember ⟨1, 101, 2, 8⟩ 1 = 1 ∧ container.memberCount ⟨1, 101, 2, 8⟩ 1 = 2 ∧
      container.firstMember ⟨1, 101, 2, 8⟩ 2 = 2 ∧ container.memberCount ⟨1, 101, 2, 8⟩ 2 = 5 ∧
      container.memberAt ⟨12, 117, 3, 4⟩ 1 = .ofWord .decl 70 ∧
      container.memberAt ⟨12, 117, 3, 4⟩ 2 = .ofWord .decl 34 := by
  have computed : (initial.after scopesAsked).containers[0]?.map (fun container =>
      decide (container.summary? "scope.desc" = some ⟨1, 101, 2, 8⟩ ∧
        container.summary? "scope.member" = some ⟨12, 117, 3, 4⟩ ∧
        container.header.globalScope = 1 ∧
        container.firstMember ⟨1, 101, 2, 8⟩ 1 = 1 ∧
        container.memberCount ⟨1, 101, 2, 8⟩ 1 = 2 ∧
        container.firstMember ⟨1, 101, 2, 8⟩ 2 = 2 ∧
        container.memberCount ⟨1, 101, 2, 8⟩ 2 = 5 ∧
        container.memberAt ⟨12, 117, 3, 4⟩ 1 = .ofWord .decl 70 ∧
        container.memberAt ⟨12, 117, 3, 4⟩ 2 = .ofWord .decl 34)) = some true := by
    decide +kernel
  obtain ⟨container, present, stored⟩ := Option.map_eq_some_iff.mp computed
  exact ⟨container, present, of_decide_eq_true stored⟩

theorem scopes_listed_scopesAsked :
    SparesAll 0 initial scopesAsked ∧
    ∃ container, (initial.after scopesAsked).containers[0]? = some container ∧
      container.summary? "scope.desc" = some ⟨1, 101, 2, 8⟩ ∧
      container.summary? "scope.member" = some ⟨12, 117, 3, 4⟩ ∧
      ((Query.membersOf (.plain (.scope 1))).on container).1 =
        .ok [.tagged (.ofWord .decl 70), .tagged (.ofWord .decl 34)] ∧
      FailsAs ((Query.membersOf (.plain (.scope 2))).on container).1 .outOfRange ∧
      FailsAs ((Query.membersOf (.plain (.scope 3))).on container).1 .outOfRange ∧
      (Query.globalScope.on container).1 = .ok (Sequence.value ⟨1, 2⟩) := by
  have spares : SparesAll 0 initial scopesAsked := ⟨trivial, fun _ => rfl, trivial⟩
  obtain ⟨container, present, scopes, members, global, first, count, start, length, second,
    third⟩ := exists_scopes
  have lists := scopes_listed spares present scopes members rfl rfl
  have listed := lists.listed 1 (by decide) (by decide) (by rw [first, count])
  have refused := lists.refused 2 (by decide) (by decide) (by rw [start, length]; decide)
  have beyond := lists.beyond 3 (by decide) (by decide)
  have ranged := lists.globalScope (by rw [global]) (by rw [global]; decide)
  have shown : Numeral.isPrintable (3 - 1) := Numeral.isPrintable_of_lt (by decide)
  rw [first, count] at listed
  rw [if_pos shown] at beyond
  rw [global, first, count] at ranged
  refine ⟨spares, container, present, scopes, members, ?_, refused, beyond, ranged⟩
  rw [← second, ← third]
  exact listed

/-- A scope whose position has too many digits to be shown is none of those of a container, and
is refused with another kind of fault than that. -/
theorem membersOf_unshown :
    ∃ container, (initial.after scopesAsked).containers[0]? = some container ∧
      container.summary? "scope.desc" = some ⟨1, 101, 2, 8⟩ ∧
      container.summary? "scope.member" = some ⟨12, 117, 3, 4⟩ ∧
      (2 : Int) < 10 ^ Numeral.digitLimit + 1 ∧
      FailsAs ((Query.membersOf (.plain (.scope (10 ^ Numeral.digitLimit + 1)))).on
        container).1 .badValue ∧
      ¬FailsAs ((Query.membersOf (.plain (.scope (10 ^ Numeral.digitLimit + 1)))).on
        container).1 .outOfRange := by
  have spares : SparesAll 0 initial scopesAsked := ⟨trivial, fun _ => rfl, trivial⟩
  obtain ⟨container, present, scopes, members, _⟩ := exists_scopes
  obtain ⟨made, data, backing, fresh, knows, remembers, stores, shared, _⟩ :=
    exists_opened spares present
  have lists := stores.listsScopes shared knows.catalogue remembers scopes members
    (Container.agreesWith_of_summary? scopes rfl) (Container.agreesWith_of_summary? members rfl)
  have large : (10 : Int) ^ 1 ≤ 10 ^ Numeral.digitLimit :=
    pow_le_pow_right₀ (by decide) (by decide)
  have beyond : ¬(1 ≤ (10 : Int) ^ Numeral.digitLimit + 1 ∧
      (10 : Int) ^ Numeral.digitLimit + 1 ≤ (2 : Nat)) := by
    omega
  have fails := lists.beyond (10 ^ Numeral.digitLimit + 1) (by omega) beyond
  rw [add_sub_cancel_right, Numeral.isPrintable_limit, if_neg Bool.false_ne_true] at fails
  refine ⟨container, present, scopes, members, by omega, fails, ?_⟩
  rw [fails.iff_eq]
  decide

/-! ## Empty ranges -/

/-- An empty range of a heap is resolved to nothing, whether there is a heap or not. The slots
of an empty range of members, the elements of a tuple that has none and the members of a scope
whose range is empty are none as well, but only where the partition that would hold them is
there: it is missed although nothing is looked for in it. -/
theorem empty_ranges_answered
    {steps : List Step}
    {number : Nat}
    (spares : SparesAll number initial steps)
    {container : Container}
    (present : (initial.after steps).containers[number]? = some container) :
    (∀ heap, ((Query.resolveHeap (initial.after steps).registry heap
        Sequence.empty.value).on container).1 = .ok []) ∧
    container.AnswersEmpty Catalogue.scopeMember
      ((do Query.elements (← Query.declarationsOf Sequence.empty.value)).on container).1 ∧
    (∀ tuple : Value, tuple.field "seq" = Sequence.empty.value →
      container.AnswersEmpty Catalogue.heapExpr
        ((do Query.elements (← Query.tupleElements tuple)).on container).1) ∧
    ∀ scope : Value, scope.holds "is_null" = .ok false →
      ((do Query.element (← Query.partition Catalogue.scopeDesc) scope).on container).1 =
        .ok Sequence.empty.value →
      container.AnswersEmpty Catalogue.scopeMember ((Query.membersOf scope).on container).1 := by
  obtain ⟨made, data, backing, fresh, knows, remembers, stores, shared, _⟩ :=
    exists_opened spares present
  refine ⟨?_, ?_, ?_, ?_⟩
  · intro heap
    exact congrArg Prod.fst (Query.on_resolveHeap_empty _ heap container)
  · exact Query.answersEmpty_declarationsOf knows.catalogue remembers
  · intro tuple empty
    exact Query.answersEmpty_tupleElements knows.catalogue remembers empty
  · intro scope notNull empty
    exact Query.answersEmpty_membersOf knows.catalogue remembers notNull empty

/-- The bytes of a container with one scope without members and one tuple without elements,
which has partitions neither of members nor of expressions. -/
def memberlessData : List UInt8 :=
  [0x54, 0x51, 0x45, 0x1A] ++ List.replicate 40 0 ++
    [76, 0, 0, 0, 23, 0, 0, 0] ++ List.replicate 12 0 ++
    [127, 0, 0, 0, 2, 0, 0, 0, 0, 0, 0, 0] ++
    [0, 115, 99, 111, 112, 101, 46, 100, 101, 115, 99,
      0, 101, 120, 112, 114, 46, 116, 117, 112, 108, 101, 0] ++
    List.replicate 28 0 ++
    [1, 0, 0, 0, 99, 0, 0, 0, 1, 0, 0, 0, 8, 0, 0, 0] ++
    [12, 0, 0, 0, 107, 0, 0, 0, 1, 0, 0, 0, 20, 0, 0, 0]

/-- A session that opens the container. -/
def memberlessOpened : List Step := [.openContainer "f" memberlessData .bytes none]

-- The bytes are opened by evaluation, which goes deeper than most.
set_option maxRecDepth 4000 in
/-- What is stored of the scope. -/
theorem exists_memberless :
    ∃ container, (initial.after memberlessOpened).containers[0]? = some container ∧
      container.summary? "scope.member" = none ∧ container.summary? "heap.expr" = none ∧
      ((do Query.element (← Query.partition Catalogue.scopeDesc) (.plain (.scope 1))).on
        container).1 = .ok Sequence.empty.value :=
  ⟨_, rfl, rfl, rfl, rfl⟩

theorem empty_ranges_answered_memberlessOpened :
    SparesAll 0 initial memberlessOpened ∧
    ∃ container, (initial.after memberlessOpened).containers[0]? = some container ∧
      container.summary? "scope.member" = none ∧ container.summary? "heap.expr" = none ∧
      ((Query.resolveHeap (initial.after memberlessOpened).registry
        (.spec Catalogue.heapExpr) Sequence.empty.value).on container).1 = .ok [] ∧
      FailsAs ((do Query.elements (← Query.declarationsOf Sequence.empty.value)).on container).1
        (.reader .missingPartition) ∧
      FailsAs ((Query.membersOf (.plain (.scope 1))).on container).1
        (.reader .missingPartition) := by
  have spares : SparesAll 0 initial memberlessOpened := ⟨trivial, trivial⟩
  obtain ⟨container, present, members, expressions, range⟩ := exists_memberless
  obtain ⟨resolved, declarations, _, scopes⟩ := empty_ranges_answered spares present
  have scope : (Value.plain (.scope 1)).holds "is_null" = .ok false := by decide +kernel
  exact ⟨spares, container, present, members, expressions, resolved _,
    declarations.missing members, (scopes _ scope range).missing members⟩

/-- A scope whose range is empty is not answered with no members, where there are no members of
any scope: the partition of the members is missed. -/
theorem membersOf_empty_missed :
    ∃ container, (initial.after memberlessOpened).containers[0]? = some container ∧
      ((do Query.element (← Query.partition Catalogue.scopeDesc) (.plain (.scope 1))).on
        container).1 = .ok Sequence.empty.value ∧
      FailsAs ((Query.membersOf (.plain (.scope 1))).on container).1
        (.reader .missingPartition) ∧
      ((Query.membersOf (.plain (.scope 1))).on container).1 ≠ .ok [] := by
  have spares : SparesAll 0 initial memberlessOpened := ⟨trivial, trivial⟩
  obtain ⟨container, present, members, _, range⟩ := exists_memberless
  obtain ⟨made, data, backing, fresh, knows, remembers, _⟩ := exists_opened spares present
  have scope : (Value.plain (.scope 1)).holds "is_null" = .ok false := by decide +kernel
  have missed :=
    (Query.answersEmpty_membersOf knows.catalogue remembers scope range).missing members
  exact ⟨container, present, range, missed, missed.ne_ok []⟩

end Workspace
end ModuleInterface

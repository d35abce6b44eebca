import Mathlib
import ModuleInterface.Proofs.Container.Scopes
import ModuleInterface.Proofs.Container.Slices

/-!
# Empty ranges

A range without positions is cut from every view. Resolving an empty range of a heap asks for
no heap; the other queries that list a range ask for the partition first, so that what they
answer for an empty one depends on the partition all the same (`Container.AnswersEmpty`).
-/

namespace ModuleInterface

/-- Nothing is listed of an empty range of a view. -/
theorem View.list_sliceOf_empty
    (view : View)
    (blob : Blob) :
    (view.sliceOf Sequence.empty.value >>= fun part => part.list blob) = .ok [] := by
  have within : Sequence.empty.Within view.count :=
    ⟨le_rfl, le_rfl, by simp [Sequence.empty]⟩
  rw [View.sliceOf_value, View.slice_of_within within, Fallible.ok_bind]
  rfl

namespace Container

/-- What a query answers that lists an empty range of a partition and asks for the partition
first. -/
structure AnswersEmpty (container : Container) (spec : PartitionSpec)
    (outcome : Except Fault (List Value)) : Prop where
  /-- Nothing is listed if the partition is there, with elements of the right size. -/
  listed : ∀ summary, container.summary? spec.name = some summary →
    summary.entrySize = spec.element.size → outcome = .ok []
  /-- A partition that is not there is missed. -/
  missing : container.summary? spec.name = none → FailsAs outcome (.reader .missingPartition)
  /-- Elements of another size are refused. -/
  mismatched : ∀ summary, container.summary? spec.name = some summary →
    summary.entrySize ≠ spec.element.size → FailsAs outcome (.reader .schemaMismatch)

/-- A query that lists nothing once it has the partition fails exactly as the partition
does. -/
theorem answersEmpty_of_eq
    {container : Container}
    {spec : PartitionSpec}
    {outcome : Except Fault (List Value)}
    (looked : outcome = (container.requirePartition spec spec.name).map fun _ => []) :
    container.AnswersEmpty spec outcome := by
  subst looked
  constructor
  case listed =>
    intro summary found agrees
    rw [requirePartition_eq_viewIn found (agreesWith_of_summary? found agrees)]
    rfl
  case missing =>
    intro absent
    rw [requirePartition, findPartition, absent]
    exact ⟨_, rfl, rfl⟩
  case mismatched =>
    intro summary found differs
    rw [requirePartition, findPartition_of_summary? spec found, if_neg differs]
    exact ⟨_, rfl, rfl⟩

end Container

namespace Query

variable {made : List PartitionSpec} {container : Container}

/-- A range of a heap that has no positions designates nothing, whatever is taken for the
heap. -/
theorem on_resolveHeap_empty
    (registry : Registry)
    (heap : Target)
    (container : Container) :
    (resolveHeap registry heap Sequence.empty.value).on container = (.ok [], container) := by
  rw [resolveHeap, on_ofExcept_bind_of_ok (Value.holds_isEmpty_value Sequence.empty)]
  rfl

/-- Of an empty range nothing is listed, once the partition is located. -/
theorem outcome_elements_empty
    (remembers : container.Remembers made)
    {spec : PartitionSpec}
    (own : spec.MadeIn made) :
    ((partition spec >>= fun view =>
      ofExcept (view.sliceOf Sequence.empty.value) >>= elements).on container).1 =
        (container.requirePartition spec spec.name).map fun _ => [] := by
  have lists : ∀ view : View, Steady made
      (ofExcept (view.sliceOf Sequence.empty.value) >>= elements) :=
    fun view => ((Reads.ofOutcome _).bind fun part => .elements part).steady
  have nothing : ∀ view : View,
      ((ofExcept (view.sliceOf Sequence.empty.value) >>= elements).on container).1 = .ok [] := by
    intro view
    rw [← view.list_sliceOf_empty container.blob, (Reads.ofOutcome _).on_bind, on_ofExcept]
    cases view.sliceOf Sequence.empty.value with
    | error fault => rfl
    | ok part => exact congrArg Prod.fst (on_elements part container)
  rw [outcome_partition_bind remembers own lists]
  simp only [nothing]
  cases container.requirePartition spec spec.name <;> rfl

/-- The slots of an empty range of members are none, if there are members. -/
theorem answersEmpty_declarationsOf
    (grown : Catalogue.specs <+: made)
    (remembers : container.Remembers made) :
    container.AnswersEmpty Catalogue.scopeMember
      ((do elements (← declarationsOf Sequence.empty.value)).on container).1 := by
  have own : Catalogue.scopeMember.MadeIn made :=
    Catalogue.madeIn_of_mem_standard (by simp [Catalogue.standard]) grown
  apply Container.answersEmpty_of_eq
  rw [← outcome_elements_empty remembers own, declarationsOf, bind_assoc]

/-- A tuple of no elements has none, if there is a heap of expressions. -/
theorem answersEmpty_tupleElements
    (grown : Catalogue.specs <+: made)
    (remembers : container.Remembers made)
    {tuple : Value}
    (empty : tuple.field "seq" = Sequence.empty.value) :
    container.AnswersEmpty Catalogue.heapExpr
      ((do elements (← tupleElements tuple)).on container).1 := by
  have own : Catalogue.heapExpr.MadeIn made :=
    Catalogue.madeIn_of_mem_standard (by simp [Catalogue.standard]) grown
  apply Container.answersEmpty_of_eq
  rw [← outcome_elements_empty remembers own, tupleElements, empty, bind_assoc]

/-- A scope whose range is empty has no members, if there are members of any scope. -/
theorem answersEmpty_membersOf
    (grown : Catalogue.specs <+: made)
    (remembers : container.Remembers made)
    {scope : Value}
    (notNull : scope.holds "is_null" = .ok false)
    (empty : ((do element (← partition Catalogue.scopeDesc) scope).on container).1 =
      .ok Sequence.empty.value) :
    container.AnswersEmpty Catalogue.scopeMember ((membersOf scope).on container).1 := by
  have own : Catalogue.scopeDesc.MadeIn made :=
    Catalogue.madeIn_of_mem_standard (by simp [Catalogue.standard]) grown
  have looksUp : ∀ view : View, Steady made (element view scope) :=
    fun view => (Reads.element view scope).steady
  rw [outcome_partition_bind remembers own looksUp] at empty
  simp only [on_element] at empty
  apply Container.answersEmpty_of_eq
  rw [outcome_membersOf grown remembers notNull, ← bind_assoc, empty, Fallible.ok_bind,
    outcome_membersIn grown remembers]
  cases container.requirePartition Catalogue.scopeMember Catalogue.scopeMember.name with
  | error fault => rfl
  | ok view =>
      rw [Fallible.ok_bind, ← Fallible.bind_map, view.list_sliceOf_empty container.blob]
      rfl

end Query
end ModuleInterface

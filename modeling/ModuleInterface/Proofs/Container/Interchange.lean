import Mathlib
import ModuleInterface.Container.Request
import ModuleInterface.Proofs.Index.Encoding
import ModuleInterface.Value.Embedded

/-!
# Equal indices are interchangeable

Two indices of one kind with one encoding may show their sorts differently. Whatever a
container is asked with one of them, it answers as with the other, and what it remembers
afterwards is the same (`Request.Swaps.answer`). A fault that shows the index is of the same
kind and differs in nothing else (`Fault.Alike`).
-/

namespace ModuleInterface

/-! ## Outcomes that differ in how an index is shown -/

/-- Faults that differ at most in how they show an index. -/
inductive Fault.Alike : Fault → Fault → Prop
  | refl (fault : Fault) : Fault.Alike fault fault
  | unknownSort
      (left right : String)
      (sort : Int) :
      Fault.Alike (.unknownSort left sort) (.unknownSort right sort)
  | wrongKeySort
      (partition sort left right : String) :
      Fault.Alike (.wrongKeySort partition sort left) (.wrongKeySort partition sort right)

namespace Fault.Alike

variable {left right : Fault}

/-- They are still so once they are shown. -/
theorem shown
    (alike : left.Alike right) :
    left.shown.Alike right.shown := by
  cases alike with
  | refl => exact .refl _
  | unknownSort shownLeft shownRight sort => exact .unknownSort shownLeft shownRight sort
  | wrongKeySort partition sort shownLeft shownRight =>
      exact .wrongKeySort partition sort shownLeft shownRight

end Fault.Alike

/-- Outcomes with one value, or with faults that differ at most in how they show an
index. -/
inductive OutcomesAlike {α : Type} : Except Fault α → Except Fault α → Prop
  | ok (value : α) : OutcomesAlike (.ok value) (.ok value)
  | error
      {left right : Fault}
      (alike : left.Alike right) :
      OutcomesAlike (.error left) (.error right)

namespace OutcomesAlike

variable {α β : Type} {left right : Except Fault α}

theorem refl (outcome : Except Fault α) : OutcomesAlike outcome outcome := by
  cases outcome with
  | ok value => exact .ok value
  | error fault => exact .error (.refl fault)

theorem bind
    (alike : OutcomesAlike left right)
    {first second : α → Except Fault β}
    (next : ∀ value, OutcomesAlike (first value) (second value)) :
    OutcomesAlike (left >>= first) (right >>= second) := by
  cases alike with
  | ok value => exact next value
  | error alike => exact .error alike

theorem mapError_shown
    (alike : OutcomesAlike left right) :
    OutcomesAlike (left.mapError Fault.shown) (right.mapError Fault.shown) := by
  cases alike with
  | ok value => exact .ok value
  | error alike => exact .error alike.shown

end OutcomesAlike

/-! ## Computations that differ in how an index is shown -/

/-- Computations whose outcomes are alike and that leave the same state, whatever state they
start from. -/
def Interchangeable {σ α : Type} (left right : ExceptT Fault (StateM σ) α) : Prop :=
  ∀ state : σ, OutcomesAlike (left.run state).1 (right.run state).1 ∧
    (left.run state).2 = (right.run state).2

namespace Interchangeable

variable {σ α β : Type} {left right : ExceptT Fault (StateM σ) α}

theorem refl (computation : ExceptT Fault (StateM σ) α) :
    Interchangeable computation computation :=
  fun _ => ⟨.refl _, rfl⟩

theorem of_eq
    (same : left = right) :
    Interchangeable left right :=
  same ▸ refl left

theorem bind
    (alike : Interchangeable left right)
    {first second : α → ExceptT Fault (StateM σ) β}
    (next : ∀ value, Interchangeable (first value) (second value)) :
    Interchangeable (left >>= first) (right >>= second) := by
  intro state
  obtain ⟨outcomes, states⟩ := alike state
  change OutcomesAlike ((ExceptT.bindCont first (left.run state).1).run (left.run state).2).1
      ((ExceptT.bindCont second (right.run state).1).run (right.run state).2).1 ∧
    ((ExceptT.bindCont first (left.run state).1).run (left.run state).2).2 =
      ((ExceptT.bindCont second (right.run state).1).run (right.run state).2).2
  generalize left.run state = ranLeft at outcomes states
  generalize right.run state = ranRight at outcomes states
  obtain ⟨outcomeLeft, after⟩ := ranLeft
  obtain ⟨outcomeRight, _⟩ := ranRight
  cases states
  cases outcomes with
  | ok value => exact next value after
  | error alike => exact ⟨.error alike, rfl⟩

/-- What follows the same computation decides. -/
theorem bind_right
    (computation : ExceptT Fault (StateM σ) α)
    {first second : α → ExceptT Fault (StateM σ) β}
    (next : ∀ value, Interchangeable (first value) (second value)) :
    Interchangeable (computation >>= first) (computation >>= second) :=
  (refl computation).bind next

theorem bind_left
    (alike : Interchangeable left right)
    (next : α → ExceptT Fault (StateM σ) β) :
    Interchangeable (left >>= next) (right >>= next) :=
  alike.bind fun _ => refl _

theorem ofOutcome
    {first second : Except Fault α}
    (alike : OutcomesAlike first second) :
    Interchangeable (ofExcept first : ExceptT Fault (StateM σ) α) (ofExcept second) := by
  cases alike with
  | ok value => exact refl _
  | error alike => exact fun _ => ⟨.error alike, rfl⟩

end Interchangeable

/-! ## Equal indices -/

/-- A number is the same value however it was given. -/
theorem Value.same_spelled
    (first second : NumberSpelling)
    (number : Nat) :
    (spelled first number).same (spelled second number) = true := by
  match number with
  | 0 => cases first <;> cases second <;> rfl
  | 1 => cases first <;> cases second <;> rfl
  | number + 2 =>
      have plain : ∀ spelling, spelled spelling (number + 2) = .integer (number + 2 : Nat) := by
        intro spelling
        cases spelling <;> rfl
      rw [plain, plain, same_integer, beq_self_eq_true]

/-- Indices that differ at most in how sort and position were given. -/
structure TaggedIndex.Alike (left right : TaggedIndex) : Prop where
  kind : left.kind = right.kind
  sort : left.sort = right.sort
  position : left.position = right.position
  fraction : left.fractionalSort? = right.fractionalSort?

/-- Indices of one kind with one encoding are so, if their sorts have no fraction. -/
theorem TaggedIndex.alike_of_raw_eq
    {left right : TaggedIndex}
    (sameKind : left.kind = right.kind)
    (sameRaw : left.raw = right.raw)
    (leftWhole : left.fractionalSort? = none)
    (rightWhole : right.fractionalSort? = none) :
    left.Alike right := by
  have same := (TaggedIndex.raw_eq_iff sameKind).mp sameRaw
  simp only [designation, Prod.mk.injEq] at same
  exact ⟨same.1, same.2.1, same.2.2, leftWhole.trans rightWhole.symm⟩

namespace TaggedIndex.Alike

variable {left right : TaggedIndex}

theorem raw_eq
    (alike : left.Alike right) :
    left.raw = right.raw := by
  rw [raw, raw, alike.kind, alike.sort, alike.position]

theorem isNull_eq
    (alike : left.Alike right) :
    left.isNull = right.isNull := by
  rw [isNull, isNull, alike.raw_eq]

theorem forIndex?_eq
    (alike : left.Alike right)
    (registry : Registry) :
    registry.forIndex? left = registry.forIndex? right := by
  rw [Registry.forIndex?, Registry.forIndex?, alike.kind, alike.sort]

theorem designation?_eq
    (alike : left.Alike right) :
    (Value.tagged left).designation? = (Value.tagged right).designation? := by
  simp only [Value.designation?, designation, alike.kind, alike.sort, alike.position,
    alike.fraction]

/-- They embed the same position, if any. -/
theorem embedded?_eq
    (alike : left.Alike right) :
    left.embedded? = right.embedded? := by
  simp only [embedded?, alike.sort, alike.position, alike.fraction]

/-- A name embeds the same text. -/
theorem identifierText?_eq
    (alike : left.Alike right) :
    (Value.tagged left).identifierText? = (Value.tagged right).identifierText? := by
  rw [Value.identifierText?_tagged, Value.identifierText?_tagged]
  simp only [identifierText?, alike.embedded?_eq]

/-- A literal embeds the same value. -/
theorem immediateValue?_same
    (alike : left.Alike right) :
    ∃ first second, (Value.tagged left).immediateValue? = .ok first ∧
      (Value.tagged right).immediateValue? = .ok second ∧
      Option.Rel (fun value other => value.same other = true) first second := by
  refine ⟨_, _, rfl, rfl, ?_⟩
  rw [alike.embedded?_eq]
  cases right.embedded? with
  | none => exact .none
  | some position =>
      refine .some ?_
      rw [Value.positionOf, Value.positionOf, alike.position]
      exact Value.same_spelled _ _ _

/-- A view has the same element for both. -/
theorem get
    (alike : left.Alike right)
    (view : View)
    (blob : Blob) :
    OutcomesAlike (view.get blob (.tagged left)) (view.get blob (.tagged right)) := by
  refine OutcomesAlike.bind ?_ fun _ => .refl _
  simp only [View.position, alike.kind]
  split
  · simp only [View.taggedPosition, alike.position]
    refine OutcomesAlike.bind ?_ fun _ => .refl _
    unfold View.requireSort
    rw [alike.sort]
    split
    · split
      · exact .ok _
      · exact .error (.wrongKeySort _ _ _ _)
    · exact .ok _
  · rw [View.wrongKind, View.wrongKind, Value.typeName, Value.typeName, alike.kind]
    exact .refl _

end TaggedIndex.Alike

/-! ## Queries -/

namespace Query

variable {left right : TaggedIndex}

theorem element_interchangeable
    (alike : left.Alike right)
    (view : View) :
    Interchangeable (element view (.tagged left)) (element view (.tagged right)) :=
  .bind_right _ fun _ => .ofOutcome (alike.get view _)

theorem resolve_interchangeable
    (alike : left.Alike right)
    (registry : Registry) :
    Interchangeable (resolve registry (.tagged left)) (resolve registry (.tagged right)) := by
  simp only [resolve, resolveIndex, alike.isNull_eq, alike.forIndex?_eq]
  split
  · exact .refl _
  · split
    · rw [alike.sort]
      exact fun _ => ⟨.error (.unknownSort _ _ _), rfl⟩
    · exact .bind_right _ fun _ => element_interchangeable alike _

theorem attributesOf_eq
    (alike : left.Alike right) :
    attributesOf (.tagged left) = attributesOf (.tagged right) := by
  simp only [attributesOf, AssociationTable.attached?, alike.designation?_eq,
    Value.requireKey_tagged]

theorem traitOf_eq
    (alike : left.Alike right)
    (kind : SingleTrait) :
    traitOf kind (.tagged left) = traitOf kind (.tagged right) := by
  simp only [traitOf, AssociationTable.attached?, alike.designation?_eq,
    Value.requireKey_tagged]

theorem deprecationText_eq
    (alike : left.Alike right) :
    deprecationText (.tagged left) = deprecationText (.tagged right) := by
  rw [deprecationText, deprecationText, traitOf_eq alike]

theorem scopeOf_interchangeable
    (alike : left.Alike right) :
    Interchangeable (scopeOf (.tagged left)) (scopeOf (.tagged right)) :=
  .bind_right _ fun _ => element_interchangeable alike _

theorem membersOf_interchangeable
    (alike : left.Alike right) :
    Interchangeable (membersOf (.tagged left)) (membersOf (.tagged right)) := by
  simp only [membersOf, Value.holds_isNull_tagged, alike.isNull_eq]
  refine .bind_right _ fun null => ?_
  split
  · exact .refl _
  · exact .bind_right _ fun _ => .bind_left (element_interchangeable alike _) _

end Query

/-! ## Requests -/

/-- A request, and the same request with one index in place of another. -/
inductive Request.Swaps {target : Type} (left right : TaggedIndex) :
    Request target → Request target → Prop
  | refl (request : Request target) : Swaps left right request request
  | resolve : Swaps left right (.resolve (.tagged left)) (.resolve (.tagged right))
  | attributesOf :
      Swaps left right (.attributesOf (.tagged left)) (.attributesOf (.tagged right))
  | traitOf (kind : SingleTrait) :
      Swaps left right (.traitOf kind (.tagged left)) (.traitOf kind (.tagged right))
  | deprecationText :
      Swaps left right (.deprecationText (.tagged left)) (.deprecationText (.tagged right))
  | importVia : Swaps left right (.importVia (.tagged left)) (.importVia (.tagged right))
  | scopeOf : Swaps left right (.scopeOf (.tagged left)) (.scopeOf (.tagged right))
  | kindOf : Swaps left right (.kindOf (.tagged left)) (.kindOf (.tagged right))
  | membersOf : Swaps left right (.membersOf (.tagged left)) (.membersOf (.tagged right))
  | tupleElements :
      Swaps left right (.tupleElements (.tagged left)) (.tupleElements (.tagged right))
  | qualifiedNameParts :
      Swaps left right (.qualifiedNameParts (.tagged left))
        (.qualifiedNameParts (.tagged right))
  | element (view : View) :
      Swaps left right (.element view (.tagged left)) (.element view (.tagged right))

/-- A request is answered in the same way for equal indices. -/
theorem Request.Swaps.answer
    {left right : TaggedIndex}
    (alike : left.Alike right)
    {request other : Request Target}
    (swaps : request.Swaps left right other)
    (registry : Registry)
    (environment : Option Environment) :
    Interchangeable (request.answer registry environment)
      (other.answer registry environment) := by
  cases swaps with
  | refl => exact .refl _
  | resolve => exact .bind_left (Query.resolve_interchangeable alike registry) _
  | attributesOf => exact .of_eq (by rw [Request.answer, Request.answer, Query.attributesOf_eq alike])
  | traitOf kind => exact .of_eq (by rw [Request.answer, Request.answer, Query.traitOf_eq alike])
  | deprecationText =>
      exact .of_eq (by rw [Request.answer, Request.answer, Query.deprecationText_eq alike])
  | importVia => exact .bind_left (Query.resolve_interchangeable alike registry) _
  | scopeOf => exact .bind_left (Query.scopeOf_interchangeable alike) _
  | kindOf => exact .bind_left (Query.scopeOf_interchangeable alike) _
  | membersOf => exact .bind_left (Query.membersOf_interchangeable alike) _
  | tupleElements =>
      exact .bind_right _ fun _ => .bind_left (Query.element_interchangeable alike _) _
  | qualifiedNameParts =>
      exact .bind_right _ fun _ => .bind_left (Query.element_interchangeable alike _) _
  | element view => exact .bind_left (Query.element_interchangeable alike view) _

end ModuleInterface

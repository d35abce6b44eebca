import Mathlib

/-!
# Computations that may fail

Equations for computations that give a value or a fault. A sequence of two gives a
value exactly when both do, and a computation carried out for each item of a list
gives the list of values when every item gives one.
-/

namespace ModuleInterface
namespace Fallible

variable {ε α β : Type}

@[simp] theorem pure_eq_ok (value : α) : (pure value : Except ε α) = .ok value := rfl

@[simp] theorem throw_eq_error (fault : ε) : (throw fault : Except ε α) = .error fault := rfl

@[simp] theorem ok_bind (value : α) (next : α → Except ε β) :
    (Except.ok value >>= next) = next value := rfl

@[simp] theorem error_bind (fault : ε) (next : α → Except ε β) :
    (Except.error fault >>= next) = .error fault := rfl

@[simp] theorem discard_ok (value : α) :
    discard (Except.ok value : Except ε α) = .ok ⟨⟩ := rfl

theorem map_bind {γ : Type}
    (first : Except ε α) (change : α → β) (next : β → Except ε γ) :
    (first.map change >>= next) = (first >>= fun value => next (change value)) := by
  cases first <;> rfl

theorem bind_map {γ : Type}
    (first : Except ε α) (next : α → Except ε β) (change : β → γ) :
    (first >>= next).map change = (first >>= fun value => (next value).map change) := by
  cases first <;> rfl

theorem exists_of_isOk {outcome : Except ε α} (fine : outcome.isOk) :
    ∃ value, outcome = .ok value := by
  cases outcome with
  | error fault => contradiction
  | ok value => exact ⟨value, rfl⟩

/-- A sequence of two computations gives a value when both do. -/
theorem bind_eq_ok {first : Except ε α} {next : α → Except ε β} {result : β} :
    (first >>= next) = .ok result ↔
      ∃ value, first = .ok value ∧ next value = .ok result := by
  cases first with
  | error fault => simp
  | ok value => simp

/-- What is mapped is fine when it was fine before. -/
theorem map_eq_ok {outcome : Except ε α} {change : α → β} {result : β} :
    outcome.map change = .ok result ↔ ∃ value, outcome = .ok value ∧ change value = result := by
  cases outcome with
  | error fault => simp [Except.map]
  | ok value => simp [Except.map]

/-- A computation without faults on the items of a list gives the list of values. -/
theorem mapM_eq_ok_map {items : List α} {compute : α → Except ε β} {value : α → β}
    (computed : ∀ item ∈ items, compute item = .ok (value item)) :
    items.mapM compute = .ok (items.map value) := by
  induction items with
  | nil => rfl
  | cons item rest inductionHypothesis =>
      rw [List.mapM_cons, computed item List.mem_cons_self,
        inductionHypothesis fun other member => computed other (List.mem_cons_of_mem _ member)]
      rfl

/-- Checks that every item of a list passes are passed by the list. -/
theorem forM_eq_ok {items : List α} {check : α → Except ε Unit}
    (passed : ∀ item ∈ items, check item = .ok ()) : items.forM check = .ok () := by
  induction items with
  | nil => rfl
  | cons item rest inductionHypothesis =>
      rw [List.forM, passed item List.mem_cons_self, ok_bind]
      exact inductionHypothesis fun other member => passed other (List.mem_cons_of_mem _ member)

/-- Every item of a list has its value in the list of values. -/
theorem forall₂_of_mapM_eq_ok {items : List α} {compute : α → Except ε β} {values : List β}
    (computed : items.mapM compute = .ok values) :
    List.Forall₂ (fun item value => compute item = .ok value) items values := by
  induction items generalizing values with
  | nil =>
      cases computed
      exact .nil
  | cons item rest inductionHypothesis =>
      rw [List.mapM_cons] at computed
      obtain ⟨value, first, remaining⟩ := bind_eq_ok.mp computed
      obtain ⟨others, following, final⟩ := bind_eq_ok.mp remaining
      cases final
      exact .cons first (inductionHypothesis following)

/-- When one item of a list fails, so does the list, with the fault of some item. -/
theorem exists_error_of_mapM {items : List α} {compute : α → Except ε β} {item : α}
    (member : item ∈ items) {fault : ε} (failed : compute item = .error fault) :
    ∃ first ∈ items, ∃ cause, compute first = .error cause ∧
      items.mapM compute = .error cause := by
  induction items with
  | nil => contradiction
  | cons head rest inductionHypothesis =>
      rw [List.mapM_cons]
      cases outcome : compute head with
      | error cause => exact ⟨head, List.mem_cons_self, cause, outcome, rfl⟩
      | ok value =>
          obtain rfl | later := List.mem_cons.mp member
          · rw [outcome] at failed
            contradiction
          · obtain ⟨first, listed, cause, caused, refused⟩ := inductionHypothesis later
            refine ⟨first, List.mem_cons_of_mem _ listed, cause, caused, ?_⟩
            rw [refused]
            rfl

/-- The first item that fails decides how a list fails. -/
theorem mapM_append_cons_eq_error {before after : List α} {item : α}
    {compute : α → Except ε β} {fault : ε}
    (computed : ∀ earlier ∈ before, ∃ value, compute earlier = .ok value)
    (failed : compute item = .error fault) :
    (before ++ item :: after).mapM compute = .error fault := by
  induction before with
  | nil =>
      rw [List.nil_append, List.mapM_cons, failed, error_bind]
  | cons first rest inductionHypothesis =>
      obtain ⟨value, fine⟩ := computed first List.mem_cons_self
      rw [List.cons_append, List.mapM_cons, fine, ok_bind,
        inductionHypothesis fun earlier member => computed earlier (List.mem_cons_of_mem _ member),
        error_bind]

/-- Computations that agree on the items of a list give the same. -/
theorem mapM_congr {items : List α} {first second : α → Except ε β}
    (same : ∀ item ∈ items, first item = second item) :
    items.mapM first = items.mapM second := by
  induction items with
  | nil => rfl
  | cons item rest inductionHypothesis =>
      rw [List.mapM_cons, List.mapM_cons, same item List.mem_cons_self,
        inductionHypothesis fun other member => same other (List.mem_cons_of_mem _ member)]

end Fallible
end ModuleInterface

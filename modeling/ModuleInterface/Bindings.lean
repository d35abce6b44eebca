/-!
# Bindings

A list of keys with what is bound to each, in the order of first binding.
Binding a key again replaces what is bound to it and keeps its place.
-/

namespace ModuleInterface

/-- Keys with what is bound to each, in the order of first binding. -/
abbrev Bindings (κ : Type) (α : Type) := List (κ × α)

namespace Bindings

variable {κ α : Type} [DecidableEq κ]

/-- Change what is bound to a key. A new key is added at the end. -/
def update (key : κ) (change : Option α → α) : Bindings κ α → Bindings κ α
  | [] => [(key, change none)]
  | (other, bound) :: rest =>
      if other = key then (other, change (some bound)) :: rest
      else (other, bound) :: update key change rest

/-- Bind a key. -/
def bind (key : κ) (value : α) (bindings : Bindings κ α) : Bindings κ α :=
  bindings.update key fun _ => value

/-- Forget what is bound to a key. -/
def erase (key : κ) (bindings : Bindings κ α) : Bindings κ α :=
  List.filter (fun entry => entry.1 ≠ key) bindings

/-- What is bound to a key. -/
def find? (bindings : Bindings κ α) (key : κ) : Option α :=
  bindings.lookup key

/-- The bound keys. -/
def keys (bindings : Bindings κ α) : List κ :=
  bindings.map (·.1)

@[simp] theorem find?_nil (key : κ) : find? ([] : Bindings κ α) key = none := rfl

theorem find?_cons (other : κ) (bound : α) (rest : Bindings κ α) (key : κ) :
    find? ((other, bound) :: rest) key = if other = key then some bound else find? rest key := by
  by_cases same : other = key
  · subst same; simp [find?]
  · have different : (key == other) = false := by simpa using Ne.symm same
    simp [find?, List.lookup_cons, same, different]

theorem find?_append (earlier later : Bindings κ α) (key : κ) :
    find? (earlier ++ later) key = (find? earlier key).or (find? later key) :=
  List.lookup_append

theorem find?_eq_none_iff (bindings : Bindings κ α) (key : κ) :
    bindings.find? key = none ↔ key ∉ bindings.keys := by
  induction bindings with
  | nil => simp [keys]
  | cons entry rest inductionHypothesis =>
      obtain ⟨other, bound⟩ := entry
      have cons : keys ((other, bound) :: rest) = other :: keys rest := rfl
      rw [find?_cons, cons, List.mem_cons]
      by_cases same : other = key
      · simp [same]
      · simp [same, Ne.symm same, inductionHypothesis]

/-- What is bound to a key stands in the list under the key. -/
theorem mem_of_find? {bindings : Bindings κ α} {key : κ} {value : α}
    (found : bindings.find? key = some value) : (key, value) ∈ bindings := by
  obtain ⟨earlier, later, rfl, _⟩ := List.lookup_eq_some_iff.mp found
  exact List.mem_append_right _ List.mem_cons_self

/-- After a change the key is bound to what the change made of it. -/
theorem find?_update_self (bindings : Bindings κ α) (key : κ) (change : Option α → α) :
    (bindings.update key change).find? key = some (change (bindings.find? key)) := by
  induction bindings with
  | nil => simp [update, find?_cons]
  | cons entry rest inductionHypothesis =>
      obtain ⟨other, bound⟩ := entry
      by_cases same : other = key
      · simp [update, same, find?_cons]
      · simp [update, same, find?_cons, inductionHypothesis]

/-- A change of one key leaves what is bound to the others. -/
theorem find?_update_of_ne (bindings : Bindings κ α) {key other : κ}
    (different : key ≠ other) (change : Option α → α) :
    (bindings.update key change).find? other = bindings.find? other := by
  induction bindings with
  | nil => simp [update, find?_cons, different]
  | cons entry rest inductionHypothesis =>
      obtain ⟨first, bound⟩ := entry
      by_cases same : first = key
      · simp [update, same, find?_cons, different]
      · by_cases found : first = other
        · subst found
          simp [update, same, find?_cons]
        · simp [update, same, find?_cons, found, inductionHypothesis]

/-- Binding a key changes what is bound to this key alone. -/
theorem find?_bind (bindings : Bindings κ α) (key : κ) (value : α) (other : κ) :
    (bindings.bind key value).find? other =
      if key = other then some value else bindings.find? other := by
  split
  next same => rw [bind, same, find?_update_self]
  next different => rw [bind, find?_update_of_ne _ different]

/-- Nothing is bound to a key that was forgotten. -/
theorem find?_erase_self (bindings : Bindings κ α) (key : κ) :
    (bindings.erase key).find? key = none := by
  induction bindings with
  | nil => simp [erase]
  | cons entry rest inductionHypothesis =>
      obtain ⟨other, bound⟩ := entry
      unfold erase at inductionHypothesis ⊢
      by_cases same : other = key
      · simpa [same] using inductionHypothesis
      · simpa [same, find?_cons] using inductionHypothesis

/-- Forgetting one key leaves what is bound to the others. -/
theorem find?_erase_of_ne (bindings : Bindings κ α) {key other : κ} (different : key ≠ other) :
    (bindings.erase key).find? other = bindings.find? other := by
  induction bindings with
  | nil => simp [erase]
  | cons entry rest inductionHypothesis =>
      obtain ⟨first, bound⟩ := entry
      unfold erase at inductionHypothesis ⊢
      by_cases same : first = key
      · subst same
        simpa [find?_cons, different] using inductionHypothesis
      · simp only [ne_eq, same, not_false_eq_true, decide_true, List.filter_cons_of_pos,
          find?_cons, inductionHypothesis]

end Bindings
end ModuleInterface

import Mathlib
import ModuleInterface.Proofs.Workspace.Steps

/-!
# Asking a container

A step that asks a container looks up what its request names and the environment of the
container, which changes nothing; the container answers; and what is left of the step is
given the answer. Each of these parts has one equation, from which what is said of such
steps is read.
-/

namespace ModuleInterface
namespace Session

variable {α : Type}

/-! ## Looking up -/

theorem on_target_snd
    (name : TargetName)
    (workspace : Workspace) :
    ((target name).on workspace).2 = workspace := by
  cases name with
  | value value => rfl
  | known spec placed => rfl
  | named name =>
      unfold target
      rw [on_get_bind]
      split
      next record _ => cases record.spec <;> rfl
      next =>
        split
        · rfl
        · split <;> rfl

theorem on_lookup_snd
    (request : Request TargetName)
    (workspace : Workspace) :
    ((request.lookup target).on workspace).2 = workspace := by
  cases request with
  | findPartition name label =>
      simp only [Request.lookup, bind_pure_comp, on_map]
      exact on_target_snd name workspace
  | requirePartition name label =>
      simp only [Request.lookup, bind_pure_comp, on_map]
      exact on_target_snd name workspace
  | partition name =>
      simp only [Request.lookup, bind_pure_comp, on_map]
      exact on_target_snd name workspace
  | resolveHeap name range =>
      simp only [Request.lookup, bind_pure_comp, on_map]
      exact on_target_snd name workspace
  | _ => rfl

theorem on_environmentOf_snd
    (number : Nat)
    (workspace : Workspace) :
    ((environmentOf number).on workspace).2 = workspace := by
  rw [environmentOf, on_get_bind]
  cases workspace.containers[number]? >>= Container.environment with
  | none => rfl
  | some environment =>
      rw [on_bind]
      unfold environmentAt
      rw [on_get_bind]
      cases workspace.environments[environment]? <;> rfl

/-! ## Asking -/

/-- What is left of a step that asks the container of a number, once it has answered. -/
def answered (name : Option String) (number : Nat) (answer : Answer) : Session Outcome := do
  bindAnswer name number answer
  return .answer (← nameAnswer answer)

/-- A workspace goes on with what a container answered, if it did. -/
def continued (rest : Answer → Session α) (outcome : Except Fault Answer)
    (workspace : Workspace) : Except Fault α × Workspace :=
  match outcome with
  | .ok answer => (rest answer).on workspace
  | .error fault => (.error fault, workspace)

/-- A workspace once the container of a number was asked something. -/
def asked (number : Nat) (query : Query Answer) (container : Container)
    (workspace : Workspace) : Workspace :=
  { workspace with
    containers := workspace.containers.setIfInBounds number (query.on container).2
    log := workspace.log ++ (query.on container).2.journal.drop container.journal.length }

/-- The container of a number is asked with the environment that it was opened with. -/
theorem on_askContainer_bind
    (number : Nat)
    (found : Request Target)
    (rest : Answer → Session α)
    (workspace : Workspace) :
    (askContainer number found >>= rest).on workspace =
      match ((environmentOf number).on workspace).1 with
      | .error fault => (.error fault, workspace)
      | .ok environment =>
          match workspace.containers[number]? with
          | none => (.error (.unbound (toString number)), workspace)
          | some container =>
              let query := found.answer workspace.registry environment
              continued rest (query.on container).1 (asked number query container workspace) := by
  have split : (askContainer number found >>= rest) =
      (environmentOf number >>= fun environment => get >>= fun workspace =>
        onContainer number (found.answer workspace.registry environment) >>= rest) := by
    simp only [askContainer, bind_assoc]
  have unchanged := on_environmentOf_snd number workspace
  rw [split, on_bind]
  generalize (environmentOf number).on workspace = ran at unchanged
  obtain ⟨outcome, after⟩ := ran
  obtain rfl : after = workspace := unchanged
  cases outcome with
  | error fault => rfl
  | ok environment =>
      simp only
      rw [on_get_bind, on_bind, on_onContainer]
      cases after.containers[number]? with
      | none => rfl
      | some container =>
          simp only [continued, asked]
          cases ((found.answer after.registry environment).on container).1 <;> rfl

theorem on_askNumbered
    (number : Nat)
    (request : Request TargetName)
    (name : Option String)
    (workspace : Workspace) :
    (askNumbered number request name).on workspace =
      match ((request.lookup target).on workspace).1 with
      | .error fault => (.error fault, workspace)
      | .ok found => (askContainer number found >>= answered name number).on workspace := by
  have unchanged := on_lookup_snd request workspace
  rw [askNumbered, on_bind]
  generalize (request.lookup target).on workspace = ran at unchanged
  obtain ⟨outcome, after⟩ := ran
  obtain rfl : after = workspace := unchanged
  cases outcome <;> rfl

end Session
end ModuleInterface

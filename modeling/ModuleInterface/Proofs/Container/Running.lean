import Mathlib
import ModuleInterface.Container.Integrity
import ModuleInterface.Container.Locate

/-!
# Running queries

Equations for the outcome of a query and the container that it leaves, one for each way
in which queries are put together.
-/

namespace ModuleInterface
namespace Query

variable {α β : Type}

@[simp] theorem on_ofExcept
    (outcome : Except Fault α)
    (container : Container) :
    (ofExcept outcome : Query α).on container = (outcome, container) := by
  cases outcome <;> rfl

/-- A query that is followed by another fails where it fails, and else the other goes on
with its value and the container that it leaves. -/
theorem on_bind
    (first : Query α)
    (next : α → Query β)
    (container : Container) :
    (first >>= next).on container =
      match first.on container with
      | (.ok value, after) => (next value).on after
      | (.error fault, after) => (.error fault, after) := by
  change (ExceptT.bindCont next (first container).1).run (first container).2 = _
  change _ = match first container with
    | (.ok value, after) => (next value).on after
    | (.error fault, after) => (.error fault, after)
  cases first container with
  | mk outcome after => cases outcome <;> rfl

theorem on_map
    (change : α → β)
    (query : Query α)
    (container : Container) :
    (change <$> query).on container =
      ((query.on container).1.map change, (query.on container).2) := by
  rw [map_eq_pure_bind, on_bind]
  cases query.on container with
  | mk outcome after => cases outcome <;> rfl

@[simp] theorem on_get_bind
    (next : Container → Query β)
    (container : Container) :
    (get >>= next).on container = (next container).on container := rfl

theorem on_ofExcept_bind_of_ok
    {outcome : Except Fault α}
    {value : α}
    (answered : outcome = .ok value)
    (next : α → Query β)
    (container : Container) :
    (ofExcept outcome >>= next).on container = (next value).on container := by
  rw [answered]
  rfl

theorem on_element
    (view : View)
    (key : Value)
    (container : Container) :
    (element view key).on container = (view.get container.blob key, container) := by
  rw [element, on_get_bind, on_ofExcept]

theorem on_elements
    (view : View)
    (container : Container) :
    (elements view).on container = (view.list container.blob, container) := by
  rw [elements, on_get_bind, on_ofExcept]

/-- A partition is looked up in the table of contents. -/
theorem on_requirePartition
    {target : Target}
    {spec : PartitionSpec}
    (resolved : target.resolve = .ok spec)
    (name : Option String)
    (container : Container) :
    (requirePartition target name).on container =
      (container.requirePartition spec (name.getD spec.name), container) := by
  rw [requirePartition, on_ofExcept_bind_of_ok resolved, on_get_bind, on_ofExcept]

/-- The digest is that of the bytes after the checksum, while there are bytes. -/
theorem on_computeDigest
    (digest : List UInt8 → List UInt8)
    (container : Container) :
    (computeDigest digest).on container =
      (container.blob.access.map fun bytes => digest (bytes.tail Dimensions.checksumStart),
        container) := by
  rw [computeDigest, on_get_bind, on_bind, on_ofExcept]
  cases container.blob.access <;> rfl

/-- Comparing the digests reports whether they agree. -/
theorem on_verifyDigest
    (digest : List UInt8 → List UInt8)
    (container : Container) :
    (verifyDigest digest).on container =
      match container.blob.access with
      | .error fault => (.error fault, container)
      | .ok bytes =>
          let agrees := digest (bytes.tail Dimensions.checksumStart) == container.header.checksum
          (.ok agrees,
            { container with journal := container.journal ++ [.checksumCompared agrees] }) := by
  rw [verifyDigest, on_bind, on_computeDigest]
  cases container.blob.access <;> rfl

end Query
end ModuleInterface

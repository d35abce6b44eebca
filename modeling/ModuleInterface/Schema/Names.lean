import ModuleInterface.Fault
import ModuleInterface.Text.Identifier
import ModuleInterface.Text.Quoted

/-!
# Names in a record shape

A record shape that a session describes has a name that can be stored. Its fields
are named by identifiers that are not reserved, each used once. The first name that
breaks one of these rules is refused; accepted names differ from each other
(`nodup_of_requireFieldNames`).
-/

namespace ModuleInterface
namespace Schema

/-- Fail unless a field can have a name after fields of the given names. -/
def requireFieldName (earlier : List String) (name : String) : Except Fault Unit :=
  if !Identifier.isIdentifier name then .error (.fieldMalformed (Quoted.render name))
  else if name ∈ Identifier.reserved then .error (.fieldReserved (Quoted.render name))
  else if name ∈ earlier then .error (.fieldRepeated (Quoted.render name))
  else .ok ()

/-- Fail unless further fields can have the given names after fields of others. -/
def requireFieldNamesAfter : List String → List String → Except Fault Unit
  | _, [] => .ok ()
  | earlier, name :: rest => do
      requireFieldName earlier name
      requireFieldNamesAfter (name :: earlier) rest

/-- Fail unless the fields of a record can have the given names. -/
def requireFieldNames (names : List String) : Except Fault Unit :=
  requireFieldNamesAfter [] names

/-- Fail unless a record can have a name. -/
def requireName (name : String) : Except Fault Unit :=
  if !Symbol.isEncodable name then .error .textUnencodable
  else if '\x00' ∈ name.toList then .error .recordNameNull
  else .ok ()

/-- A name that is accepted differs from those before it. -/
theorem not_mem_of_requireFieldName {earlier : List String} {name : String}
    (accepted : requireFieldName earlier name = .ok ()) : name ∉ earlier := by
  intro repeated
  unfold requireFieldName at accepted
  rw [if_pos repeated] at accepted
  split at accepted
  · cases accepted
  · split at accepted
    · cases accepted
    · cases accepted

theorem nodup_of_requireFieldNamesAfter {earlier names : List String}
    (accepted : requireFieldNamesAfter earlier names = .ok ()) :
    names.Nodup ∧ ∀ name ∈ names, name ∉ earlier := by
  induction names generalizing earlier with
  | nil => simp
  | cons name rest inductionHypothesis =>
      cases head : requireFieldName earlier name with
      | error fault => rw [requireFieldNamesAfter, head] at accepted; cases accepted
      | ok _ =>
          rw [requireFieldNamesAfter, head] at accepted
          have tail := inductionHypothesis accepted
          refine ⟨List.nodup_cons.mpr ⟨?_, tail.1⟩, ?_⟩
          · intro member
            exact tail.2 name member List.mem_cons_self
          · intro other member
            rcases List.mem_cons.mp member with rfl | later
            · exact not_mem_of_requireFieldName head
            · intro known
              exact tail.2 other later (List.mem_cons_of_mem _ known)

/-- Names of fields that are accepted differ from each other. -/
theorem nodup_of_requireFieldNames {names : List String}
    (accepted : requireFieldNames names = .ok ()) : names.Nodup :=
  (nodup_of_requireFieldNamesAfter accepted).1

end Schema
end ModuleInterface

import ModuleInterface.Fault
import ModuleInterface.Text.Quoted
import ModuleInterface.Value.Key
import ModuleInterface.Value.Render

/-!
# Vocabularies

A vocabulary gives names to numbers: it is an enumeration, of which a value is one
member, or a flag set, of which a value is a set of members. A name that it does not
have is refused.
-/

namespace ModuleInterface

/-- The fault of a name that stands for nothing. -/
def Fault.unknownName (name : String) : Fault :=
  .nameUnknown (Quoted.render name)

/-- The name that a value is. Any other value names nothing. -/
def Value.requireName : Value → Except Fault String
  | .text name => .ok name
  | value => do
      value.requireKey
      .error (.nameUnknown value.render)

/-- The number that a name has in an enumeration. -/
def Enumeration.require (enumeration : Enumeration) (name : String) : Except Fault Nat :=
  match enumeration.numberOf? name with
  | some number => .ok number
  | none => .error (.unknownName name)

/-- What gives names to numbers. -/
inductive Vocabulary
  | enumeration (enumeration : Enumeration)
  | flags (set : FlagSet)
  deriving DecidableEq, Repr

namespace Vocabulary

/-- The vocabulary of a name. -/
def ofName? (name : String) : Option Vocabulary :=
  match Enumeration.ofName? name with
  | some found => some (enumeration found)
  | none => (FlagSet.ofName? name).map flags

/-- The vocabulary of a name, which there must be. -/
def named (name : String) : Except Fault Vocabulary :=
  match ofName? name with
  | some vocabulary => .ok vocabulary
  | none => .error (.unknownName name)

/-- The names with their numbers. -/
def members : Vocabulary → List (String × Nat)
  | enumeration known => known.members.zipIdx
  | flags set => set.members

/-- The value that a name stands for. -/
def member (name : String) : Vocabulary → Except Fault Value
  | enumeration known => do return known.value (← known.require name)
  | flags set =>
      match set.members.lookup name with
      | some number => .ok (.flags set number)
      | none => .error (.unknownName name)

/-- The members that some values stand for. A value that stands for none is kept. -/
def coerce : Vocabulary → List Value → List Value
  | enumeration known, values => values.map (Value.coerce known)
  | flags set, values => Value.coerceFlags set set.memberNumbers values

/-- Each value has one result. -/
@[simp] theorem length_coerce (vocabulary : Vocabulary) (values : List Value) :
    (vocabulary.coerce values).length = values.length := by
  cases vocabulary with
  | enumeration known => simp [coerce]
  | flags set => simp [coerce]

/-- The number of the member that a value is. -/
def memberNumber (known : Enumeration) (value : Value) : Except Fault Nat :=
  match value.coerce known with
  | .enumerator _ number => .ok number
  | other => .error (.notMember other.render known.name)

/-- The numbers of the flags that some values stand for, which each must. What is
known grows from value to value. -/
def flagNumbers (set : FlagSet) : List Int → List Value → Except Fault (List Nat)
  | _, [] => .ok []
  | known, value :: rest =>
      match value.flags? set known with
      | some (.flags _ number) =>
          do return number :: (← flagNumbers set (value.learnFlags set known) rest)
      | _ => .error (.notMember value.render set.name)

/-- The numbers that some values stand for, which each must. -/
def numbers : Vocabulary → List Value → Except Fault (List Nat)
  | enumeration known, values => values.mapM (memberNumber known)
  | flags set, values => flagNumbers set set.memberNumbers values

/-- The names whose numbers have bits, all of them set in a number. -/
def present (vocabulary : Vocabulary) (number : Nat) : List String :=
  (vocabulary.members.filter fun (_, bits) =>
    bits != 0 && Nat.land number bits == bits).map (·.1)

end Vocabulary
end ModuleInterface

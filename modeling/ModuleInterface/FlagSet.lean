/-!
# Flag sets

A field of flags is a number whose bits have names. Bits without a name are
kept, so that a reader loses nothing of what a newer writer stored.
-/

-- Powers are the core library's, whatever else a reader of this module imports.
attribute [local instance (1100)] instPowNat

namespace ModuleInterface

/-- The flag sets that the format knows. -/
inductive FlagSet
  /-- Linkage and storage of a declaration. -/
  | basicSpecifiers
  /-- Qualifiers of a type. -/
  | qualifier
  deriving DecidableEq, Repr

namespace FlagSet

/-- Every flag set. -/
def all : List FlagSet := [.basicSpecifiers, .qualifier]

/-- The name of a flag set. -/
def name : FlagSet → String
  | .basicSpecifiers => "BasicSpecifiers"
  | .qualifier => "Qualifier"

/-- The name of the empty set of flags. -/
def empty : FlagSet → String
  | .basicSpecifiers => "CXX"
  | .qualifier => "NONE"

/-- The names of the bits, the lowest first. -/
def bits : FlagSet → List String
  | .basicSpecifiers => [
      "C", "INTERNAL", "VAGUE", "EXTERNAL", "DEPRECATED", "INITIALIZED_IN_CLASS",
      "NON_EXPORTED", "IS_MEMBER_OF_GLOBAL_MODULE"]
  | .qualifier => ["CONST", "VOLATILE", "RESTRICT"]

/-- The flag set of a given name. -/
def ofName? (name : String) : Option FlagSet :=
  all.find? fun flags => flags.name = name

/-- The named members with their numbers, the empty set first. -/
def members (flags : FlagSet) : List (String × Nat) :=
  (flags.empty, 0) :: flags.bits.zipIdx.map fun (name, bit) => (name, 2 ^ bit)

/-- The names of the bits that are set in a number, the lowest first. -/
def present (flags : FlagSet) (value : Nat) : List String :=
  (flags.bits.zipIdx.filter fun (_, bit) => value.testBit bit).map (·.1)

/-- The numbers of the named bits that are set in a number, the lowest first. -/
def presentNumbers (flags : FlagSet) (value : Nat) : List Nat :=
  (flags.bits.zipIdx.filter fun (_, bit) => value.testBit bit).map fun (_, bit) => 2 ^ bit

/-- The number that the bits without a name make of a number. -/
def unnamed (flags : FlagSet) (value : Nat) : Nat :=
  value / 2 ^ flags.bits.length * 2 ^ flags.bits.length

/-- The names of a number: those of its bits, with the number of the bits that
have none. A number of which no bit has a name has no names, but for zero. -/
def label? (flags : FlagSet) (value : Nat) : Option String :=
  if value = 0 then some flags.empty
  else
    let names := flags.present value
    let rest := flags.unnamed value
    if names.isEmpty then none
    else some ("|".intercalate (if rest = 0 then names else names ++ [toString rest]))

/-- A set of flags with its names and its number. -/
def describe (flags : FlagSet) (value : Nat) : String :=
  match flags.label? value with
  | some label => s!"<{flags.name}.{label}: {value}>"
  | none => s!"<{flags.name}: {value}>"

/-- The number of bits of the magnitude of an integer. -/
def bitLength (value : Int) : Nat :=
  if value = 0 then 0 else value.natAbs.log2 + 1

/-- The flags that an integer stands for. A negative integer is the complement
of flags, taken within the least power of two above both the named bits and its
own magnitude. -/
def keep (flags : FlagSet) (value : Int) : Nat :=
  let range := 2 ^ flags.bits.length
  if 0 ≤ value then value.toNat
  else if -(range : Int) ≤ value then ((range : Int) + value).toNat
  else (max (range : Int) (2 ^ bitLength value) + value).toNat

@[simp] theorem keep_ofNat (flags : FlagSet) (value : Nat) :
    flags.keep (value : Int) = value := by
  simp [keep]

/-- The numbers of the named members, which stand for flags from the start. -/
def memberNumbers (flags : FlagSet) : List Int :=
  flags.members.map fun (_, number) => number

/-- The numbers that stand for flags once an integer has been taken for flags.
Flags that all have names are known from then on, by their own number and by the
complement within the named bits that they were given as. -/
def learn (flags : FlagSet) (known : List Int) (value : Int) : List Int :=
  if flags.unnamed (flags.keep value) ≠ 0 then known
  else if -(2 ^ flags.bits.length : Int) ≤ value then
    known ++ [(flags.keep value : Int), value]
  else known ++ [(flags.keep value : Int)]

end FlagSet
end ModuleInterface

import ModuleInterface.Index.Kind
import ModuleInterface.Number.Shortest

/-!
# Tagged indices

A tagged index is a sort and a position of one kind, both within the bits that
the kind gives them. `raw` packs it into 32 bits; `ofRaw?` accepts exactly the
32-bit numbers and undoes `raw`. An index also remembers how its sort and its
position were given, which shows only when it is printed: two indices designate
the same thing when kind, sort and position agree. A sort that was given with a
fraction designates nothing that a container holds.
-/

-- Powers are the core library's, whatever else a reader of this module imports.
attribute [local instance (1100)] instPowNat

namespace ModuleInterface

/-- How a number was given, and so how it is printed. -/
inductive NumberSpelling
  | digits
  /-- As a truth value, which counts as 0 or 1. -/
  | truth
  deriving DecidableEq, Repr

/-- A number as it was given. -/
def NumberSpelling.render : NumberSpelling → Nat → String
  | .truth, 0 => "False"
  | .truth, 1 => "True"
  | _, number => toString number

/-- How the sort of an index was given, and so how it is printed. -/
inductive SortSpelling
  | named
  | number (spelling : NumberSpelling)
  /-- As a floating-point number, of which the integer part counts. -/
  | float64 (bits : UInt64)
  deriving DecidableEq, Repr

namespace SortSpelling

/-- A sort of a kind as it is printed. -/
def render (kind : TaggedKind) (sort : Nat) : SortSpelling → String
  | .named => kind.sorts.label sort
  | .number spelling => spelling.render sort
  | .float64 bits => Binary64.text bits

/-- A sort as it was given, when it was given with a fraction. -/
def fractional? (sort : Nat) : SortSpelling → Option UInt64
  | .float64 bits => if Binary64.equalsInt bits sort then none else some bits
  | _ => none

end SortSpelling

/-- A sort and a position of one kind. -/
structure TaggedIndex where
  kind : TaggedKind
  sort : Nat
  position : Nat
  sortSpelling : SortSpelling
  positionSpelling : NumberSpelling
  sort_lt : sort < 2 ^ kind.sortBits
  position_lt : position < 2 ^ kind.positionBits
  deriving DecidableEq, Repr

namespace TaggedIndex

/-- Why a sort and a position do not make an index. -/
inductive Misfit
  | sort (number : Int)
  | position (number : Int)
  /-- A position that is given as a floating-point number. -/
  | float64 (bits : UInt64)
  deriving DecidableEq, Repr

/-- The index with a given sort and position, when both fit. The sort is
checked first. -/
def ofParts? (kind : TaggedKind) (sort position : Int)
    (sortSpelling : SortSpelling) (positionSpelling : NumberSpelling) :
    Except Misfit TaggedIndex :=
  if sortFits : 0 ≤ sort ∧ sort < 2 ^ kind.sortBits then
    if positionFits : 0 ≤ position ∧ position < 2 ^ kind.positionBits then
      .ok {
        kind
        sort := sort.toNat
        position := position.toNat
        sortSpelling
        positionSpelling
        sort_lt := by
          have bound : ((2 ^ kind.sortBits : Nat) : Int) = 2 ^ kind.sortBits := by simp
          omega
        position_lt := by
          have bound : ((2 ^ kind.positionBits : Nat) : Int) = 2 ^ kind.positionBits := by
            simp
          omega }
    else .error (.position position)
  else .error (.sort sort)

/-- The index that a number encodes, when the number has at most 32 bits. -/
def ofRaw? (kind : TaggedKind) (raw : Int) : Except Misfit TaggedIndex :=
  ofParts? kind (raw % 2 ^ kind.sortBits) (raw / 2 ^ kind.sortBits) .named .digits

/-- The index that the low 32 bits of a number encode. -/
def ofWord (kind : TaggedKind) (word : Nat) : TaggedIndex where
  kind
  sort := word % 2 ^ kind.sortBits
  position := word / 2 ^ kind.sortBits % 2 ^ kind.positionBits
  sortSpelling := .named
  positionSpelling := .digits
  sort_lt := Nat.mod_lt _ (Nat.two_pow_pos _)
  position_lt := Nat.mod_lt _ (Nat.two_pow_pos _)

/-- The 32-bit number that encodes an index. -/
def raw (index : TaggedIndex) : Nat :=
  index.position * 2 ^ index.kind.sortBits + index.sort

/-- The null index of a kind: sort 0 at position 0. -/
def null (kind : TaggedKind) : TaggedIndex :=
  ofWord kind 0

/-- Whether an index is the null index of its kind. -/
def isNull (index : TaggedIndex) : Bool :=
  index.raw == 0

/-- What an index designates, apart from how it is printed. -/
def designation (index : TaggedIndex) : TaggedKind × Nat × Nat :=
  (index.kind, index.sort, index.position)

/-- The sort as it was given, when it was given with a fraction. -/
def fractionalSort? (index : TaggedIndex) : Option UInt64 :=
  index.sortSpelling.fractional? index.sort

/-- Whether two indices are equal: they designate the same, and their sorts have
the same fraction. -/
def same (left right : TaggedIndex) : Bool :=
  left.designation == right.designation && left.fractionalSort? == right.fractionalSort?

/-- An index of a kind as it is printed, with its sort and its position as they are
printed. -/
def renderParts (kind : TaggedKind) (sort position : String) : String :=
  s!"{kind.label}({sort}, {position})"

/-- An index as it is printed. -/
def render (index : TaggedIndex) : String :=
  renderParts index.kind (index.sortSpelling.render index.kind index.sort)
    (index.positionSpelling.render index.position)

@[simp] theorem fractionalSort?_ofWord (kind : TaggedKind) (word : Nat) :
    (ofWord kind word).fractionalSort? = none := rfl

@[simp] theorem kind_ofWord (kind : TaggedKind) (word : Nat) :
    (ofWord kind word).kind = kind := rfl

@[simp] theorem sort_ofWord (kind : TaggedKind) (word : Nat) :
    (ofWord kind word).sort = word % 2 ^ kind.sortBits := rfl

/-- The encoding of an index has 32 bits. -/
theorem raw_lt (index : TaggedIndex) : index.raw < 4294967296 := by
  have sortBound := index.sort_lt
  have positionBound := index.position_lt
  have scaled : (index.position + 1) * 2 ^ index.kind.sortBits ≤
      2 ^ index.kind.positionBits * 2 ^ index.kind.sortBits :=
    Nat.mul_le_mul_right _ positionBound
  rw [TaggedKind.two_pow_positionBits_mul, Nat.add_mul, Nat.one_mul] at scaled
  unfold raw
  omega

/-- A 32-bit number is the encoding of the index read from it. -/
theorem raw_ofWord (kind : TaggedKind) (word : Nat) (bounded : word < 4294967296) :
    (ofWord kind word).raw = word := by
  have quotientBound : word / 2 ^ kind.sortBits < 2 ^ kind.positionBits := by
    rw [Nat.div_lt_iff_lt_mul (Nat.two_pow_pos _), TaggedKind.two_pow_positionBits_mul]
    exact bounded
  simp only [raw, ofWord, Nat.mod_eq_of_lt quotientBound]
  exact Nat.div_add_mod' word (2 ^ kind.sortBits)

/-- The index read from the encoding of an index designates the same. -/
theorem designation_ofWord_raw (index : TaggedIndex) :
    (ofWord index.kind index.raw).designation = index.designation := by
  have sort : index.raw % 2 ^ index.kind.sortBits = index.sort := by
    rw [raw, Nat.mul_add_mod', Nat.mod_eq_of_lt index.sort_lt]
  have position : index.raw / 2 ^ index.kind.sortBits = index.position := by
    rw [raw, Nat.add_comm, Nat.add_mul_div_right _ _ (Nat.two_pow_pos _),
      Nat.div_eq_of_lt index.sort_lt, Nat.zero_add]
  simp only [designation, ofWord, sort, position, Nat.mod_eq_of_lt index.position_lt]

/-- A 32-bit number is accepted as the encoding of the index read from it. -/
theorem ofRaw?_natCast (kind : TaggedKind) (word : Nat) (bounded : word < 4294967296) :
    ofRaw? kind word = .ok (ofWord kind word) := by
  have sortBound : word % 2 ^ kind.sortBits < 2 ^ kind.sortBits :=
    Nat.mod_lt _ (Nat.two_pow_pos _)
  have positionBound : word / 2 ^ kind.sortBits < 2 ^ kind.positionBits := by
    rw [Nat.div_lt_iff_lt_mul (Nat.two_pow_pos _), TaggedKind.two_pow_positionBits_mul]
    exact bounded
  have sortCast : (word : Int) % 2 ^ kind.sortBits = ((word % 2 ^ kind.sortBits : Nat) : Int) := by
    simp
  have positionCast :
      (word : Int) / 2 ^ kind.sortBits = ((word / 2 ^ kind.sortBits : Nat) : Int) := by
    simp
  have sortFits : 0 ≤ ((word % 2 ^ kind.sortBits : Nat) : Int) ∧
      ((word % 2 ^ kind.sortBits : Nat) : Int) < 2 ^ kind.sortBits := by
    exact ⟨Int.natCast_nonneg _, by exact_mod_cast sortBound⟩
  have positionFits : 0 ≤ ((word / 2 ^ kind.sortBits : Nat) : Int) ∧
      ((word / 2 ^ kind.sortBits : Nat) : Int) < 2 ^ kind.positionBits := by
    exact ⟨Int.natCast_nonneg _, by exact_mod_cast positionBound⟩
  rw [ofRaw?, ofParts?, sortCast, positionCast, dif_pos sortFits, dif_pos positionFits]
  simp only [ofWord, Int.toNat_natCast, Nat.mod_eq_of_lt positionBound]

end TaggedIndex
end ModuleInterface

import Mathlib
import ModuleInterface.Proofs.Fallible
import ModuleInterface.Value.Description

/-!
# Tagged indices are the 32-bit numbers

A tagged index packs its position above its sort. Both fit their bits, so that the number
that it encodes has 32 bits (`TaggedIndex.raw_lt`), and every number of 32 bits is the
encoding of an index (`TaggedIndex.exists_ofRaw?`). Two indices of one kind that integers
make are equal exactly if their encodings are (`TaggedIndex.same_iff_raw_eq`), whichever way
their sorts are given.
-/

-- Powers are the core library's, whatever else a reader of this module imports.
attribute [local instance (1100)] instPowNat

namespace ModuleInterface

open Fallible

namespace TaggedIndex

/-! ## Packing -/

/-- Two indices are the same value exactly if they are equal. -/
theorem same_value
    (left right : TaggedIndex) :
    (Value.tagged left).same (.tagged right) = left.same right := rfl

/-- The position stands in the high bits of the encoding, and the sort in the low ones. -/
theorem raw_eq_shiftLeft_or
    (index : TaggedIndex) :
    index.raw = index.position <<< index.kind.sortBits ||| index.sort := by
  rw [← Nat.shiftLeft_add_eq_or_of_lt index.sort_lt, Nat.shiftLeft_eq]
  rfl

/-- Indices of one kind have the same encoding exactly if they designate the same. -/
theorem raw_eq_iff
    {left right : TaggedIndex}
    (sameKind : left.kind = right.kind) :
    left.raw = right.raw ↔ left.designation = right.designation := by
  constructor
  · intro sameRaw
    rw [← left.designation_ofWord_raw, ← right.designation_ofWord_raw, sameKind, sameRaw]
  · intro same
    simp only [designation, Prod.mk.injEq] at same
    rw [raw, raw, same.1, same.2.1, same.2.2]

/-- Indices of one kind whose sorts have the same fraction, if any, are equal exactly if
their encodings are. -/
theorem same_iff_raw_eq
    {left right : TaggedIndex}
    (sameKind : left.kind = right.kind)
    (sameFraction : left.fractionalSort? = right.fractionalSort?) :
    left.same right = true ↔ left.raw = right.raw := by
  rw [raw_eq_iff sameKind, same, Bool.and_eq_true, beq_iff_eq, beq_iff_eq]
  exact and_iff_left sameFraction

/-- An index is null exactly if its sort and its position are zero. -/
theorem raw_eq_zero_iff
    (index : TaggedIndex) :
    index.raw = 0 ↔ index.sort = 0 ∧ index.position = 0 := by
  have apart : 2 ^ index.kind.sortBits ≠ 0 := (Nat.two_pow_pos _).ne'
  rw [raw, Nat.add_eq_zero_iff, Nat.mul_eq_zero, or_iff_left apart, and_comm]

/-! ## Indices of two numbers and of one -/

/-- A sort and a position that fit their bits make an index. -/
theorem exists_ofParts?
    {kind : TaggedKind}
    {sort position : Int}
    (sortFits : 0 ≤ sort ∧ sort < 2 ^ kind.sortBits)
    (positionFits : 0 ≤ position ∧ position < 2 ^ kind.positionBits)
    (sortSpelling : SortSpelling)
    (positionSpelling : NumberSpelling) :
    ∃ index, ofParts? kind sort position sortSpelling positionSpelling = .ok index ∧
      index.kind = kind ∧ (index.sort : Int) = sort ∧ (index.position : Int) = position ∧
      index.sortSpelling = sortSpelling := by
  refine ⟨_, (dif_pos sortFits).trans (dif_pos positionFits), rfl, ?_, ?_, rfl⟩
  · exact Int.toNat_of_nonneg sortFits.1
  · exact Int.toNat_of_nonneg positionFits.1

/-- A sort or a position that does not fit its bits makes none. -/
theorem exists_misfit_of_ofParts?
    {kind : TaggedKind}
    {sort position : Int}
    (misfit : ¬((0 ≤ sort ∧ sort < 2 ^ kind.sortBits) ∧
      0 ≤ position ∧ position < 2 ^ kind.positionBits))
    (sortSpelling : SortSpelling)
    (positionSpelling : NumberSpelling) :
    ∃ cause, ofParts? kind sort position sortSpelling positionSpelling = .error cause := by
  by_cases sortFits : 0 ≤ sort ∧ sort < 2 ^ kind.sortBits
  · have positionMisfits := fun fits => misfit ⟨sortFits, fits⟩
    exact ⟨_, (dif_pos sortFits).trans (dif_neg positionMisfits)⟩
  · exact ⟨_, dif_neg sortFits⟩

/-- An index of two parts is of the kind asked for, and its sort is printed as asked for. -/
theorem kind_and_spelling_of_ofParts?
    {kind : TaggedKind}
    {sort position : Int}
    {sortSpelling : SortSpelling}
    {positionSpelling : NumberSpelling}
    {index : TaggedIndex}
    (made : ofParts? kind sort position sortSpelling positionSpelling = .ok index) :
    index.kind = kind ∧ index.sortSpelling = sortSpelling := by
  unfold ofParts? at made
  split at made
  · split at made
    · cases made
      exact ⟨rfl, rfl⟩
    · contradiction
  · contradiction

/-- The high bits of a number fit the position exactly if the number has 32 bits. -/
theorem position_fits_iff
    (kind : TaggedKind)
    (number : Int) :
    0 ≤ number / 2 ^ kind.sortBits ∧ number / 2 ^ kind.sortBits < 2 ^ kind.positionBits ↔
      0 ≤ number ∧ number < 2 ^ 32 := by
  have positive : (0 : Int) < 2 ^ kind.sortBits := by positivity
  have bits : (2 : Int) ^ kind.positionBits * 2 ^ kind.sortBits = 2 ^ 32 := by
    cases kind <;> rfl
  rw [Int.ediv_nonneg_iff_of_pos positive, Int.ediv_lt_iff_lt_mul positive, bits]

/-- A number of 32 bits is the encoding of an index. -/
theorem exists_ofRaw?
    (kind : TaggedKind)
    {number : Int}
    (fits : 0 ≤ number ∧ number < 2 ^ 32) :
    ∃ index, ofRaw? kind number = .ok index ∧ index.kind = kind ∧
      (index.raw : Int) = number := by
  obtain ⟨word, rfl⟩ := Int.eq_ofNat_of_zero_le fits.1
  have bounded : word < 4294967296 := by exact_mod_cast fits.2
  refine ⟨ofWord kind word, ofRaw?_natCast kind word bounded, rfl, ?_⟩
  rw [raw_ofWord kind word bounded]

/-- No other number is. -/
theorem exists_misfit_of_ofRaw?
    (kind : TaggedKind)
    {number : Int}
    (misfit : ¬(0 ≤ number ∧ number < 2 ^ 32)) :
    ∃ cause, ofRaw? kind number = .error cause := by
  apply exists_misfit_of_ofParts?
  rintro ⟨_, positionFits⟩
  exact misfit ((position_fits_iff kind number).mp positionFits)

end TaggedIndex

namespace TaggedKind

/-! ## Indices that are described by integers -/

/-- The description of an index by integers alone: by its encoding, as the null index, or
by a sort that is a number, named or not, and a position. -/
inductive DescribedByIntegers (kind : TaggedKind) : IndexDescription → Prop
  | encoded {raw : Value} : kind.DescribedByIntegers (.encoded raw)
  | null : kind.DescribedByIntegers .null
  | parts
      {given meant position : Value}
      (means : kind.sortValue given = .ok meant)
      (sortIsInteger : meant.integer?.isSome)
      (positionIsInteger : position.integer?.isSome) :
      kind.DescribedByIntegers (.parts (some given) (some position))

/-- A description makes an index of the kind, of which something holds, exactly if a
condition does. It is refused otherwise. -/
structure MakesExactlyIf
    (kind : TaggedKind)
    (description : IndexDescription)
    (condition : Prop)
    (made : TaggedIndex → Prop) : Prop where
  accepted : condition →
    ∃ index, kind.resolve description = .ok (.tagged index) ∧ index.kind = kind ∧ made index
  refused : ¬condition →
    ∃ misfit, kind.resolve description = .error (.indexMisfit kind misfit)

/-- The encoding of an index packs a position above a sort, and an equal index is made of
it again. -/
structure PacksParts
    (kind : TaggedKind)
    (sort position : Int)
    (index : TaggedIndex) : Prop where
  raw_eq : (index.raw : Int) = position * 2 ^ kind.sortBits + sort
  raw_bits : index.raw = index.position <<< kind.sortBits ||| index.sort
  raw_lt : index.raw < 2 ^ 32
  decoded : ∃ decoded,
    kind.resolve (.encoded (.integer index.raw)) = .ok (.tagged decoded) ∧
      (Value.tagged decoded).same (.tagged index) = true

/-- What converts to an integer as a number converts to that integer. -/
theorem toInteger_of_integer?
    {value : Value}
    {number : Int}
    (isInteger : value.integer? = some number) :
    value.toInteger = .ok number := by
  unfold Value.toInteger
  split <;> simp_all

/-- An index is given exactly if it was made. -/
theorem require_map_eq_ok
    {kind : TaggedKind}
    {outcome : Except TaggedIndex.Misfit TaggedIndex}
    {index : TaggedIndex} :
    (kind.require outcome).map Value.tagged = .ok (.tagged index) ↔ outcome = .ok index := by
  cases outcome <;> simp [require, Except.map]

/-- The index of an encoding is made from the number that the encoding is. -/
theorem resolve_encoded
    (kind : TaggedKind)
    {given : Value}
    {number : Int}
    (isNumber : given.toInteger = .ok number) :
    kind.resolve (.encoded given) =
      (kind.require (TaggedIndex.ofRaw? kind number)).map .tagged := by
  rw [resolve, isNumber, ok_bind]
  cases TaggedIndex.ofRaw? kind number <;> rfl

/-- The index of two parts that are integers is made from these. -/
theorem resolve_parts
    {kind : TaggedKind}
    {given meant place : Value}
    {sort position : Int}
    (means : kind.sortValue given = .ok meant)
    (sortIsInteger : meant.integer? = some sort)
    (positionIsInteger : place.integer? = some position) :
    kind.resolve (.parts (some given) (some place)) =
      (kind.require (TaggedIndex.ofParts? kind sort position meant.sortSpelling
        place.positionSpelling)).map .tagged := by
  simp only [resolve, requireGiven, ok_bind, means, ofParts,
    toInteger_of_integer? sortIsInteger, positionIsInteger]
  cases TaggedIndex.ofParts? kind sort position meant.sortSpelling place.positionSpelling <;> rfl

/-- A sort that is an integer has no fraction. -/
theorem fractional?_sortSpelling
    {meant : Value}
    (isInteger : meant.integer?.isSome)
    (sort : Nat) :
    meant.sortSpelling.fractional? sort = none := by
  cases meant with
  | float64 bits => contradiction
  | _ => rfl

/-- An index that integers describe is of the kind asked for, and its sort has no
fraction. -/
theorem DescribedByIntegers.fractionalSort?_eq_none
    {kind : TaggedKind}
    {description : IndexDescription}
    (byIntegers : kind.DescribedByIntegers description)
    {index : TaggedIndex}
    (resolved : kind.resolve description = .ok (.tagged index)) :
    index.kind = kind ∧ index.fractionalSort? = none := by
  cases byIntegers with
  | @encoded raw =>
      obtain ⟨number, isNumber, _⟩ := bind_eq_ok.mp resolved
      rw [resolve_encoded kind isNumber, require_map_eq_ok] at resolved
      obtain ⟨sameKind, spelled⟩ := TaggedIndex.kind_and_spelling_of_ofParts? resolved
      rw [TaggedIndex.fractionalSort?, spelled]
      exact ⟨sameKind, rfl⟩
  | null =>
      cases resolved
      exact ⟨rfl, rfl⟩
  | @parts given meant position means sortIsInteger positionIsInteger =>
      obtain ⟨sort, isSort⟩ := Option.isSome_iff_exists.mp sortIsInteger
      obtain ⟨place, isPlace⟩ := Option.isSome_iff_exists.mp positionIsInteger
      rw [resolve_parts means isSort isPlace, require_map_eq_ok] at resolved
      obtain ⟨sameKind, spelled⟩ := TaggedIndex.kind_and_spelling_of_ofParts? resolved
      rw [TaggedIndex.fractionalSort?, spelled]
      exact ⟨sameKind, fractional?_sortSpelling sortIsInteger _⟩

/-- A number is the encoding of an index exactly if it has 32 bits. -/
theorem makesExactlyIf_encoded
    (kind : TaggedKind)
    {given : Value}
    {number : Int}
    (isNumber : given.toInteger = .ok number) :
    kind.MakesExactlyIf (.encoded given) (0 ≤ number ∧ number < 2 ^ 32)
      fun index => (index.raw : Int) = number where
  accepted fits := by
    obtain ⟨index, made, sameKind, sameRaw⟩ := TaggedIndex.exists_ofRaw? kind fits
    refine ⟨index, ?_, sameKind, sameRaw⟩
    rw [resolve_encoded kind isNumber, require_map_eq_ok, made]
  refused misfit := by
    obtain ⟨cause, refused⟩ := TaggedIndex.exists_misfit_of_ofRaw? kind misfit
    exact ⟨cause, by rw [resolve_encoded kind isNumber, refused]; rfl⟩

/-- The encoding of an index whose sort has no fraction is the encoding of one that is
equal. -/
theorem exists_same_of_raw
    {index : TaggedIndex}
    (whole : index.fractionalSort? = none) :
    ∃ decoded, index.kind.resolve (.encoded (.integer index.raw)) = .ok (.tagged decoded) ∧
      (Value.tagged decoded).same (.tagged index) = true := by
  have sameRaw := TaggedIndex.raw_ofWord index.kind index.raw index.raw_lt
  have sameFraction :
      (TaggedIndex.ofWord index.kind index.raw).fractionalSort? = index.fractionalSort? :=
    whole.symm
  refine ⟨.ofWord index.kind index.raw, ?_, ?_⟩
  · rw [resolve_encoded index.kind (Value.toInteger_integer _), require_map_eq_ok]
    exact TaggedIndex.ofRaw?_natCast index.kind index.raw index.raw_lt
  · rw [TaggedIndex.same_value]
    exact (TaggedIndex.same_iff_raw_eq (TaggedIndex.kind_ofWord _ _) sameFraction).mpr sameRaw

/-- A sort and a position make an index exactly if both fit their bits. The index is
encoded by both together, and its encoding is that of an equal one. -/
theorem makesExactlyIf_parts
    {kind : TaggedKind}
    {given meant place : Value}
    {sort position : Int}
    (means : kind.sortValue given = .ok meant)
    (isSort : meant.integer? = some sort)
    (isPosition : place.integer? = some position) :
    kind.MakesExactlyIf (.parts (some given) (some place))
      ((0 ≤ sort ∧ sort < 2 ^ kind.sortBits) ∧
        0 ≤ position ∧ position < 2 ^ (32 - kind.sortBits))
      (PacksParts kind sort position) where
  accepted fits := by
    obtain ⟨index, made, sameKind, sameSort, samePosition, spelled⟩ :=
      TaggedIndex.exists_ofParts? fits.1 fits.2 meant.sortSpelling place.positionSpelling
    have whole : index.fractionalSort? = none := by
      rw [TaggedIndex.fractionalSort?, spelled]
      exact fractional?_sortSpelling (isSort ▸ rfl) _
    refine ⟨index, ?_, sameKind, ?_, ?_, index.raw_lt, sameKind ▸ exists_same_of_raw whole⟩
    · rw [resolve_parts means isSort isPosition, require_map_eq_ok, made]
    · rw [← sameSort, ← samePosition, ← sameKind, TaggedIndex.raw]
      push_cast
      rfl
    · exact sameKind ▸ index.raw_eq_shiftLeft_or
  refused misfit := by
    obtain ⟨cause, refused⟩ := TaggedIndex.exists_misfit_of_ofParts? misfit
      meant.sortSpelling place.positionSpelling
    exact ⟨cause, by rw [resolve_parts means isSort isPosition, refused]; rfl⟩

/-! ## All together -/

/-- The indices of a kind are the numbers of 32 bits. -/
structure EncodedByWords (kind : TaggedKind) : Prop where
  /-- A number is the encoding of an index exactly if it has 32 bits. -/
  encoded : ∀ (given : Value) (number : Int), given.toInteger = .ok number →
    kind.MakesExactlyIf (.encoded given) (0 ≤ number ∧ number < 2 ^ 32)
      fun index => (index.raw : Int) = number
  /-- Two numbers are sort and position of an index exactly if both fit their bits, and
  the index is equal to that of its encoding. -/
  parts : ∀ (given meant place : Value) (sort position : Int),
    kind.sortValue given = .ok meant → meant.integer? = some sort →
    place.integer? = some position →
    kind.MakesExactlyIf (.parts (some given) (some place))
      ((0 ≤ sort ∧ sort < 2 ^ kind.sortBits) ∧
        0 ≤ position ∧ position < 2 ^ (32 - kind.sortBits))
      (PacksParts kind sort position)
  /-- Two indices are equal exactly if their encodings are. -/
  same : ∀ (first second : IndexDescription) (left right : TaggedIndex),
    kind.DescribedByIntegers first → kind.DescribedByIntegers second →
    kind.resolve first = .ok (.tagged left) → kind.resolve second = .ok (.tagged right) →
    ((Value.tagged left).same (.tagged right) = true ↔ left.raw = right.raw)
  /-- The null index is the one whose encoding is 0, and so are its sort and its
  position. -/
  null : ∀ index : TaggedIndex, index.kind = kind →
    ((Value.tagged index).holds "is_null" = .ok true ↔ index.raw = 0) ∧
      (index.raw = 0 ↔ index.sort = 0 ∧ index.position = 0)

/-- The indices of every kind are the numbers of 32 bits, whichever way their sorts are
given. -/
theorem encodedByWords (kind : TaggedKind) : kind.EncodedByWords where
  encoded _ _ isNumber := makesExactlyIf_encoded kind isNumber
  parts _ _ _ _ _ means isSort isPosition := makesExactlyIf_parts means isSort isPosition
  same first second left right firstByIntegers secondByIntegers firstMade secondMade := by
    obtain ⟨leftKind, leftWhole⟩ := firstByIntegers.fractionalSort?_eq_none firstMade
    obtain ⟨rightKind, rightWhole⟩ := secondByIntegers.fractionalSort?_eq_none secondMade
    rw [TaggedIndex.same_value]
    exact TaggedIndex.same_iff_raw_eq (leftKind.trans rightKind.symm)
      (leftWhole.trans rightWhole.symm)
  null index _ := by
    refine ⟨?_, index.raw_eq_zero_iff⟩
    rw [Value.holds_isNull_tagged, TaggedIndex.isNull, Except.ok.injEq, beq_iff_eq]

end TaggedKind
end ModuleInterface

import ModuleInterface.Index.Tagged

/-!
# Indices with a floating-point position

The position of an index that a caller gives may be a floating-point number within
the range of the positions of its kind. Such an index is compared by the number, so
that it may equal a tagged index. It has no encoding, because a floating-point number
is not packed beside a sort, and it designates no element.
-/

-- Powers are the core library's, whatever else a reader of this module imports.
attribute [local instance (1100)] instPowNat

namespace ModuleInterface

/-- A sort and a floating-point position of one kind. -/
structure FloatingIndex where
  kind : TaggedKind
  sort : Nat
  /-- The bits of the position. -/
  position : UInt64
  sortSpelling : SortSpelling
  sort_lt : sort < 2 ^ kind.sortBits
  position_below : Binary64.isBelow position (2 ^ kind.positionBits) = true
  deriving Repr

/-- The index with a floating-point position in place of its own, when the number is in
the range of positions. -/
def TaggedIndex.atFloating? (index : TaggedIndex) (position : UInt64) :
    Except Misfit FloatingIndex :=
  if below : Binary64.isBelow position (2 ^ index.kind.positionBits) = true then
    .ok ⟨index.kind, index.sort, position, index.sortSpelling, index.sort_lt, below⟩
  else .error (.float64 position)

namespace FloatingIndex

/-- The sort as it was given, when it was given with a fraction. -/
def fractionalSort? (index : FloatingIndex) : Option UInt64 :=
  index.sortSpelling.fractional? index.sort

/-- Whether kind and sort are those given, the sort with its fraction. -/
def hasSort (index : FloatingIndex) (kind : TaggedKind) (sort : Nat)
    (fraction : Option UInt64) : Bool :=
  index.kind == kind && index.sort == sort && index.fractionalSort? == fraction

/-- Whether two indices with floating-point positions are equal. -/
def same (left right : FloatingIndex) : Bool :=
  left.hasSort right.kind right.sort right.fractionalSort? &&
    Binary64.same left.position right.position

/-- Whether an index equals a tagged index: the position is its position. -/
def sameTagged (index : FloatingIndex) (other : TaggedIndex) : Bool :=
  index.hasSort other.kind other.sort other.fractionalSort? &&
    Binary64.equalsInt index.position other.position

/-- The number that the position is, unless it has a fraction. -/
def wholePosition? (index : FloatingIndex) : Option Nat :=
  if Binary64.equalsInt index.position (Binary64.truncate index.position) then
    some (Binary64.truncate index.position).toNat
  else none

/-- What the tagged index designates that an index equals, if it equals one that
designates something. -/
def designation? (index : FloatingIndex) : Option (TaggedKind × Nat × Nat) :=
  match index.fractionalSort?, index.wholePosition? with
  | none, some position => some (index.kind, index.sort, position)
  | _, _ => none

/-- An index as it is printed. -/
def render (index : FloatingIndex) : String :=
  TaggedIndex.renderParts index.kind (index.sortSpelling.render index.kind index.sort)
    (Binary64.text index.position)

/-- Nothing is designated but what a tagged index designates that the index equals. -/
theorem sameTagged_of_designation? {index : FloatingIndex} {other : TaggedIndex}
    (whole : other.fractionalSort? = none)
    (designated : index.designation? = some other.designation) :
    index.sameTagged other = true := by
  have nonnegative := Binary64.truncate_nonneg index.position_below
  unfold designation? at designated
  split at designated
  · rename_i position fraction found
    simp only [Option.some.injEq, TaggedIndex.designation, Prod.mk.injEq] at designated
    obtain ⟨sameKind, sameSort, samePosition⟩ := designated
    unfold wholePosition? at found
    split at found
    · rename_i equal
      simp only [Option.some.injEq] at found
      have value : (other.position : Int) = Binary64.truncate index.position := by omega
      simp [sameTagged, hasSort, sameKind, sameSort, fraction, whole, value, equal]
    · cases found
  · cases designated

/-- What an index equals that has no fraction is what it designates. -/
theorem designation?_of_sameTagged {index : FloatingIndex} {other : TaggedIndex}
    (whole : other.fractionalSort? = none)
    (same : index.sameTagged other = true) :
    index.designation? = some other.designation := by
  simp only [sameTagged, hasSort, Bool.and_eq_true, beq_iff_eq] at same
  obtain ⟨⟨⟨sameKind, sameSort⟩, sameFraction⟩, equal⟩ := same
  have value := Binary64.truncate_of_equalsInt equal
  have position : index.wholePosition? = some other.position := by
    rw [wholePosition?, value, if_pos equal, Int.toNat_natCast]
  simp only [designation?, sameFraction, whole, position, sameKind, sameSort,
    TaggedIndex.designation]

end FloatingIndex
end ModuleInterface

import Mathlib
import ModuleInterface.Proofs.Container.Bounds
import ModuleInterface.Proofs.Fault

/-!
# Slices of views

A view that is sliced is a stretch of the same elements: what stands at a position of it
stands that much further in the view that it was sliced from (`View.get_stretch`). So a
slice of a slice is one slice, whose start is the sum of both starts (`stretch_stretch`),
and the same run of elements is listed whichever way it is reached.
-/

namespace ModuleInterface

/-- A range has no negative number and ends among some number of positions. -/
def Sequence.Within (range : Sequence) (count : Nat) : Prop :=
  0 ≤ range.start ∧ 0 ≤ range.cardinality ∧ range.start + range.cardinality ≤ count

/-- A stored range, which has no negative parts, is within a number of elements if it ends
among them. -/
theorem Sequence.within_iff_of_stored {start cardinality count : Nat} :
    Sequence.Within ⟨start, cardinality⟩ count ↔ start + cardinality ≤ count := by
  simp only [Sequence.Within]
  omega

namespace View

/-- A number of elements of a view from a position on, as a view. -/
def stretch (view : View) (start count : Nat) : View :=
  { view with
    base := view.offsetOf start
    count }

@[simp] theorem count_stretch (view : View) (start count : Nat) :
    (view.stretch start count).count = count := rfl

@[simp] theorem spec_stretch (view : View) (start count : Nat) :
    (view.stretch start count).spec = view.spec := rfl

@[simp] theorem name_stretch (view : View) (start count : Nat) :
    (view.stretch start count).name = view.name := rfl

/-- The elements of a stretch lie where they lie in the view. -/
@[simp] theorem offsetOf_stretch (view : View) (start count position : Nat) :
    (view.stretch start count).offsetOf position = view.offsetOf (start + position) := by
  simp only [stretch, offsetOf, PartitionSpec.entrySize]
  rw [Nat.add_mul, Nat.add_assoc]

@[simp] theorem read_stretch (view : View) (blob : Blob) (start count position : Nat) :
    (view.stretch start count).read blob position = view.read blob (start + position) := by
  rw [read, read, offsetOf_stretch, spec_stretch]

/-- A stretch of a stretch starts after both starts. -/
theorem stretch_stretch
    (view : View)
    (start count further fewer : Nat) :
    (view.stretch start count).stretch further fewer =
      view.stretch (start + further) fewer := by
  rw [stretch, offsetOf_stretch]
  rfl

/-! ## Ranges -/

/-- A range within a view is sliced as the stretch of its positions. -/
theorem slice_of_within
    {view : View}
    {range : Sequence}
    (within : range.Within view.count) :
    view.slice range = .ok (view.stretch range.start.toNat range.cardinality.toNat) := by
  obtain ⟨startNonnegative, countNonnegative, fits⟩ := within
  have accepted : ¬(range.start < 0 ∨ range.cardinality < 0 ∨
      (view.count : Int) < range.start + range.cardinality) := by
    omega
  rw [slice]
  exact if_neg accepted

/-- Any other range is refused. -/
theorem slice_of_not_within
    {view : View}
    {range : Sequence}
    (outside : ¬range.Within view.count) :
    view.slice range =
      .error (.rangeOutside range.start (range.start + range.cardinality) view.name
        view.count) := by
  have refused : range.start < 0 ∨ range.cardinality < 0 ∨
      (view.count : Int) < range.start + range.cardinality := by
    rw [Sequence.Within] at outside
    omega
  rw [slice]
  exact if_pos refused

/-- A range of a stretch is as far from the start of the view as the stretch and the range
are together. -/
theorem slice_stretch
    {view : View}
    {range other : Sequence}
    (within : range.Within view.count)
    (inner : other.Within range.cardinality.toNat) :
    (view.stretch range.start.toNat range.cardinality.toNat).slice other =
      view.slice ⟨range.start + other.start, other.cardinality⟩ := by
  obtain ⟨startNonnegative, countNonnegative, fits⟩ := within
  obtain ⟨otherNonnegative, fewerNonnegative, otherFits⟩ := inner
  have outer : Sequence.Within ⟨range.start + other.start, other.cardinality⟩ view.count := by
    refine ⟨?_, fewerNonnegative, ?_⟩
    · exact Int.add_nonneg startNonnegative otherNonnegative
    · simp only
      omega
  have sum : (range.start + other.start).toNat = range.start.toNat + other.start.toNat :=
    Int.toNat_add startNonnegative otherNonnegative
  rw [slice_of_within outer, slice_of_within ⟨otherNonnegative, fewerNonnegative, otherFits⟩,
    stretch_stretch, sum]

/-! ## Elements -/

/-- No element is at a position outside a view. -/
theorem get_of_outside
    (view : View)
    (blob : Blob)
    {position : Int}
    (outside : ¬(0 ≤ position ∧ position < view.count)) :
    view.get blob (.integer position) =
      .error (.positionOutside position view.name view.count) := by
  simp [get, View.position, outside]

/-- The element at a position of a stretch is that much further in the view. -/
theorem get_stretch
    {view : View}
    (blob : Blob)
    {start count position : Nat}
    (fits : start + count ≤ view.count)
    (bound : position < count) :
    (view.stretch start count).get blob (.integer position) =
      view.get blob (.integer (start + position : Nat)) := by
  have further : start + position < view.count := by omega
  rw [get_natCast _ _ bound, get_natCast _ _ further, read_stretch]

/-- A stretch lists the elements of the view from its start on, one after another. -/
theorem list_stretch
    {view : View}
    (blob : Blob)
    {start count : Nat}
    (fits : start + count ≤ view.count) :
    (view.stretch start count).list blob =
      (List.range count).mapM fun position : Nat =>
        view.get blob (.integer (start + position : Nat)) := by
  rw [list_eq, count_stretch]
  apply Fallible.mapM_congr
  intro position member
  exact get_stretch blob fits (List.mem_range.mp member)

/-! ## Slicing -/

/-- What a view that was sliced has in common with the view that it was sliced from. -/
structure SlicedFrom (sliced view : View) (range : Sequence) (blob : Blob) : Prop where
  /-- It has as many elements as the range has positions. -/
  count : (sliced.count : Int) = range.cardinality
  spec : sliced.spec = view.spec
  name : sliced.name = view.name
  /-- Its elements are those of the view from the start of the range on. -/
  element : ∀ position : Int, 0 ≤ position → position < range.cardinality →
    sliced.get blob (.integer position) = view.get blob (.integer (range.start + position))
  /-- It has no others: the position is refused, as long as it can be shown. -/
  beyond : ∀ position : Int, ¬(0 ≤ position ∧ position < range.cardinality) →
    ∃ fault, sliced.get blob (.integer position) = .error fault ∧
      fault.shown.kind =
        if Numeral.isPrintable position then .outOfRange else .badValue
  /-- It lists them in order. -/
  listed : sliced.list blob =
    (List.range range.cardinality.toNat).mapM fun position : Nat =>
      view.get blob (.integer (range.start + position))
  /-- It is sliced exactly where a range is within it, to what the view is sliced to
  further on. -/
  further : ∀ other : Sequence,
    ((∃ part, sliced.slice other = .ok part) ↔ other.Within range.cardinality.toNat) ∧
    (other.Within range.cardinality.toNat →
      sliced.slice other = view.slice ⟨range.start + other.start, other.cardinality⟩)

/-- What a stretch has in common with its view. -/
theorem slicedFrom_stretch
    {view : View}
    {range : Sequence}
    (within : range.Within view.count)
    (blob : Blob) :
    (view.stretch range.start.toNat range.cardinality.toNat).SlicedFrom view range blob := by
  have bounds := within
  obtain ⟨startNonnegative, countNonnegative, fits⟩ := bounds
  have start : ((range.start.toNat : Nat) : Int) = range.start :=
    Int.toNat_of_nonneg startNonnegative
  have count : ((range.cardinality.toNat : Nat) : Int) = range.cardinality :=
    Int.toNat_of_nonneg countNonnegative
  have fitsNat : range.start.toNat + range.cardinality.toNat ≤ view.count := by omega
  constructor
  case count => exact count
  case spec => rfl
  case name => rfl
  case element =>
    intro position nonnegative bound
    obtain ⟨index, rfl⟩ := Int.eq_ofNat_of_zero_le nonnegative
    have inside : index < range.cardinality.toNat := by omega
    rw [get_stretch blob fitsNat inside, Nat.cast_add, start]
  case beyond =>
    intro position outside
    rw [← count] at outside
    exact failsAs_of_number (get_of_outside _ blob outside) rfl rfl
  case listed =>
    rw [list_stretch blob fitsNat]
    simp only [Nat.cast_add, start]
  case further =>
    intro other
    refine ⟨⟨?_, ?_⟩, slice_stretch within⟩
    · rintro ⟨part, sliced⟩
      by_contra outside
      rw [slice_of_not_within outside] at sliced
      contradiction
    · intro inner
      exact ⟨_, slice_of_within inner⟩

/-- A view lists its elements one after another. It is sliced exactly by the ranges within
it, to a view of the elements at their positions; any other range is refused, as long as
its ends can be shown. -/
theorem slice_outcome
    (view : View)
    (range : Sequence)
    (blob : Blob) :
    view.list blob =
      ((List.range view.count).mapM fun position : Nat =>
        view.get blob (.integer position)) ∧
    (¬range.Within view.count →
      ∃ fault, view.sliceOf range.value = .error fault ∧
        fault.shown.kind =
          if Numeral.isPrintable range.start ∧
              Numeral.isPrintable (range.start + range.cardinality) then .outOfRange
          else .badValue) ∧
    (range.Within view.count →
      ∃ sliced, view.sliceOf range.value = .ok sliced ∧
        sliced.SlicedFrom view range blob) := by
  rw [sliceOf_value]
  refine ⟨list_eq view blob, ?_, ?_⟩
  · intro outside
    refine ⟨_, slice_of_not_within outside, ?_⟩
    rw [Fault.kind_shown_of_outOfRange rfl]
    simp [Fault.numbers]
  · intro within
    exact ⟨_, slice_of_within within, slicedFrom_stretch within blob⟩

/-- Five bytes, of which the last four are elements of a view. -/
def fiveBytes : Blob :=
  .of [7, 10, 20, 30, 40] .bytes

/-- The view of the last four of five bytes. -/
def lastFour : View :=
  ⟨Container.oneField (.unsigned 1), "r", 1, 4⟩

theorem slice_outcome_lastFour :
    Sequence.Within ⟨1, 3⟩ lastFour.count ∧
      ∃ sliced part, lastFour.sliceOf (Sequence.value ⟨1, 3⟩) = .ok sliced ∧
        sliced.slice ⟨1, 2⟩ = .ok part ∧ lastFour.slice ⟨2, 2⟩ = .ok part ∧
        sliced.get fiveBytes (.integer 2) = .ok (.record "R" [("a", .integer 40)]) ∧
        ∃ fault, sliced.get fiveBytes (.integer 3) = .error fault ∧
          fault.shown.kind = .outOfRange := by
  have within : Sequence.Within ⟨1, 3⟩ lastFour.count := by
    refine ⟨?_, ?_, ?_⟩ <;> decide
  have inner : Sequence.Within ⟨1, 2⟩ 3 := by
    refine ⟨?_, ?_, ?_⟩ <;> decide
  obtain ⟨_, _, accepted⟩ := slice_outcome lastFour ⟨1, 3⟩ fiveBytes
  obtain ⟨sliced, found, shares⟩ := accepted within
  obtain ⟨part, cut⟩ := (shares.further ⟨1, 2⟩).1.mpr inner
  have same := (shares.further ⟨1, 2⟩).2 inner
  have last := shares.element 2 (by decide) (by decide)
  obtain ⟨fault, refused, kind⟩ := shares.beyond 3 (by decide)
  refine ⟨within, sliced, part, found, cut, same.symm.trans cut, last, fault, refused, ?_⟩
  have short : Numeral.isPrintable 3 := by
    rw [Numeral.isPrintable, decide_eq_true_iff]
    exact Nat.lt_of_lt_of_le (by decide : 3 < 10 ^ 1)
      (Nat.pow_le_pow_right (by decide) (by decide))
  rw [kind, if_pos short]

/-- The view of the one partition of a container of one byte. -/
def onlyByte : View :=
  ⟨Container.oneField (.unsigned 1), "r", 79, 1⟩

/-- A range whose end has too many digits to be shown is outside a view of an opened
container, and is refused with another kind of fault than that. -/
theorem slice_unshown :
    (Container.load (.of Container.oneByteData .bytes) none).1 = .ok Container.oneByte ∧
      Container.oneByte.findPartition (Container.oneField (.unsigned 1)) "r" =
        .ok (some onlyByte) ∧
      ¬Sequence.Within ⟨10 ^ Numeral.digitLimit - 1, 1⟩ onlyByte.count ∧
      ∃ fault,
        onlyByte.sliceOf (Sequence.value ⟨10 ^ Numeral.digitLimit - 1, 1⟩) = .error fault ∧
          fault.shown.kind = .badValue ∧ fault.shown.kind ≠ .outOfRange := by
  have outside : ¬Sequence.Within ⟨10 ^ Numeral.digitLimit - 1, 1⟩ onlyByte.count := by
    rintro ⟨_, _, fits⟩
    have bound : (10 : Int) ^ Numeral.digitLimit ≤ 1 := by simpa [onlyByte] using fits
    have large : (10 : Int) ^ 1 ≤ 10 ^ Numeral.digitLimit :=
      pow_le_pow_right₀ (by decide) (by decide)
    omega
  have unprintable : Numeral.isPrintable ((10 : Int) ^ Numeral.digitLimit) = false := by
    simp [Numeral.isPrintable, Int.natAbs_pow]
  refine ⟨rfl, rfl, outside, ?_⟩
  rw [sliceOf_value, slice_of_not_within outside]
  refine ⟨_, rfl, ?_⟩
  rw [Fault.kind_shown_of_outOfRange rfl]
  simp [Fault.numbers, unprintable]

end View
end ModuleInterface

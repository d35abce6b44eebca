import Mathlib
import ModuleInterface.Catalogue.Standard
import ModuleInterface.Proofs.Builder.Loading

/-!
# Sizes of added elements

The number of bytes that a value takes is its own where no record is asked for: a range takes
eight bytes and an index four, whatever the element is. So an element is written in its size
just when the value has its form (`Element.length_pack`), and a partition of elements has the
bytes that it declares just when all its values have (`PendingPartition.HoldsElements`).
Elements of the right form keep every container of a builder one that is opened; elements of
another form make it one that is refused (`Builder.Grows`).
-/

-- Powers are the core library's, as in the definitions that are reasoned about.
attribute [local instance (1100)] instPowNat

namespace ModuleInterface

open Acceptance

/-! ## Elements -/

/-- A value is a range. -/
def Value.isRange : Value → Bool
  | .sequence _ _ => true
  | _ => false

namespace Element

/-- A value has the form of an element: only ranges have that of ranges, and all else that of
indices. What a record is made of is judged when it is written. -/
def Suits : Element → Value → Prop
  | .record _, _ => True
  | .index _, value => value.isRange = false
  | .sequence, value => value.isRange = true

instance (element : Element) (value : Value) : Decidable (element.Suits value) :=
  match element with
  | .record _ => inferInstanceAs (Decidable True)
  | .index _ => inferInstanceAs (Decidable (value.isRange = false))
  | .sequence => inferInstanceAs (Decidable (value.isRange = true))

/-- The number of bytes by which a value of another form exceeds the size of an element. -/
def excess : Element → Int
  | .record _ => 0
  | .index _ => 4
  | .sequence => -4

/-- Where no record is asked for, a range takes eight bytes and all else four. -/
theorem length_pack_of_ne
    {element : Element}
    (recordless : ∀ schema, element ≠ .record schema)
    {value : Value}
    {bytes : List UInt8}
    (packed : element.pack value = .ok bytes) :
    bytes.length = if value.isRange then 8 else 4 := by
  -- Past the records, only the value decides between the remaining cases.
  unfold pack at packed
  dsimp only at packed
  split at packed
  next schema => exact absurd rfl (recordless schema)
  next =>
    split at packed
    next start cardinality =>
      split at packed
      next written =>
        cases packed
        exact Word.length_packAll? written
      next => contradiction
    next index =>
      cases packed
      exact LittleEndian.length_encode _ _
    next unranged _ =>
      have single : value.isRange = false := by
        unfold Value.isRange
        split
        next => exact absurd rfl (unranged _ _)
        next => rfl
      obtain ⟨_, _, remaining⟩ := Fallible.bind_eq_ok.mp packed
      obtain ⟨number, _, checked⟩ := Fallible.bind_eq_ok.mp remaining
      rw [single]
      split at checked
      next written =>
        cases checked
        exact Word.length_packInteger? written
      next => contradiction

/-- A value is written in the size of the element, unless it has another form. -/
theorem length_pack
    {element : Element}
    {value : Value}
    {bytes : List UInt8}
    (packed : element.pack value = .ok bytes) :
    (bytes.length : Int) =
      element.size + if element.Suits value then 0 else element.excess := by
  cases element with
  | record schema =>
      obtain ⟨fields, _, written⟩ := Fallible.bind_eq_ok.mp packed
      have suits : (record schema).Suits value := trivial
      rw [Word.length_packAll? (pack?_of_pack written), if_pos suits, add_zero]
      rfl
  | index kind =>
      rw [length_pack_of_ne (fun schema => by simp) packed]
      cases form : value.isRange <;> simp [Suits, excess, form]
  | sequence =>
      rw [length_pack_of_ne (fun schema => by simp) packed]
      cases form : value.isRange <;> simp [Suits, excess, form]

/-- Every value of another form has another number of bytes. -/
theorem excess_ne_zero
    {element : Element}
    {value : Value}
    (unsuited : ¬element.Suits value) :
    element.excess ≠ 0 := by
  cases element with
  | record schema => exact absurd trivial unsuited
  | index kind => exact four_ne_zero
  | sequence => exact neg_ne_zero.mpr four_ne_zero

/-- A value is written in the size of the element just when it has its form. -/
theorem length_pack_eq_size_iff
    {element : Element}
    {value : Value}
    {bytes : List UInt8}
    (packed : element.pack value = .ok bytes) :
    bytes.length = element.size ↔ element.Suits value := by
  have length := length_pack packed
  by_cases suits : element.Suits value
  · rw [if_pos suits] at length
    exact iff_of_true (by omega) suits
  · have other := excess_ne_zero suits
    rw [if_neg suits] at length
    exact iff_of_false (by omega) suits

/-- The number of some values that have another form than an element. -/
def misfits (element : Element) (values : List Value) : Nat :=
  values.countP fun value => ¬element.Suits value

theorem misfits_eq_zero_iff
    {element : Element}
    {values : List Value} :
    element.misfits values = 0 ↔ ∀ value ∈ values, element.Suits value := by
  simp [misfits]

/-- Values are written in the size of the elements, but for those of another form. -/
theorem length_flatten_of_pack
    {element : Element}
    {values : List Value}
    {packed : List (List UInt8)}
    (written : List.Forall₂ (fun value bytes => element.pack value = .ok bytes) values packed) :
    (packed.flatten.length : Int) =
      values.length * element.size + element.excess * element.misfits values := by
  induction written with
  | nil => simp [misfits]
  | @cons value bytes values others first rest inductionHypothesis =>
      rw [List.flatten_cons, List.length_append, Nat.cast_add, length_pack first,
        inductionHypothesis, List.length_cons, misfits, misfits, List.countP_cons]
      by_cases suits : element.Suits value
      · simp only [suits, if_true, not_true_eq_false, decide_false, Bool.false_eq_true,
          if_false]
        push_cast
        ring
      · simp only [suits, if_false, not_false_eq_true, decide_true, if_true]
        push_cast
        ring

end Element

/-! ## Partitions of elements -/

/-- A partition was added for elements that hold some values: it declares as many elements of
their size, and each value of another form has taken more bytes, or fewer. -/
structure PendingPartition.HoldsElements (partition : PendingPartition) (element : Element)
    (values : List Value) : Prop where
  entrySize : partition.entrySize = element.size
  cardinality : partition.cardinality = values.length
  length : (partition.data.length : Int) =
    partition.declared + element.excess * element.misfits values

/-- A partition of elements has the bytes that it declares just when all its values have the
form of the element: bytes too many never make up for bytes too few within it. -/
theorem PendingPartition.HoldsElements.declared_eq_iff
    {partition : PendingPartition}
    {element : Element}
    {values : List Value}
    (holds : partition.HoldsElements element values) :
    partition.declared = partition.data.length ↔ ∀ value ∈ values, element.Suits value := by
  have length := holds.length
  have even : partition.declared = partition.data.length ↔
      element.excess * element.misfits values = 0 := by
    constructor
    · intro same
      omega
    · intro none
      omega
  -- All values of another form have the same excess, so none makes up for another.
  rw [even, mul_eq_zero, Nat.cast_eq_zero, Element.misfits_eq_zero_iff, or_iff_right_iff_imp]
  intro uniform value _
  by_contra unsuited
  exact Element.excess_ne_zero unsuited uniform

/-- What was added has the form of the elements that it was added as. -/
def Addition.Suits (addition : Addition) : Prop :=
  ∀ value ∈ addition.values, addition.spec.element.Suits value

instance (addition : Addition) : Decidable addition.Suits :=
  inferInstanceAs (Decidable (∀ value ∈ addition.values, addition.spec.element.Suits value))

/-- The number of bytes that what was added has besides those that are declared for it. -/
def Addition.excess (addition : Addition) : Int :=
  addition.spec.element.excess * addition.spec.element.misfits addition.values

/-- The size and the number of the elements that were added fit the entry of a partition. -/
structure Addition.HasEntry (addition : Addition) : Prop where
  size : addition.spec.element.size < 256 ^ 4
  count : addition.values.length < 256 ^ 4

instance (addition : Addition) : Decidable addition.HasEntry :=
  decidable_of_iff (addition.spec.element.size < 256 ^ 4 ∧ addition.values.length < 256 ^ 4)
    ⟨fun ⟨size, count⟩ => ⟨size, count⟩, fun entry => ⟨entry.size, entry.count⟩⟩

namespace Builder

/-- Elements that are added become one partition after all others. -/
theorem exists_partition_of_addElements
    {builder next : Builder}
    {spec : PartitionSpec}
    {values : List Value}
    {name : Option String}
    (added : builder.addElements spec values name = .ok next) :
    ∃ partition, next.partitions = builder.partitions ++ [partition] ∧
      partition.HoldsElements spec.element values := by
  obtain ⟨packed, written, remaining⟩ := Fallible.bind_eq_ok.mp added
  obtain ⟨⟨offset, named⟩, stored, final⟩ := Fallible.bind_eq_ok.mp remaining
  cases final
  have paired := Fallible.forall₂_of_mapM_eq_ok written
  have count : packed.length = values.length := paired.length_eq.symm
  refine ⟨⟨offset, spec.entrySize, packed.length, packed.flatten⟩, ?_, rfl,
    congrArg Nat.cast count, ?_⟩
  · rw [(adds_of_addString stored).partitions]
    rfl
  · rw [Element.length_flatten_of_pack paired, PendingPartition.declared, ← count]
    rfl

/-- The partitions of a builder after some steps are those before and one for each of what
the steps added. -/
theorem exists_partitions_run
    (builder : Builder)
    (steps : List BuilderStep) :
    ∃ added, (builder.run steps).partitions = builder.partitions ++ added ∧
      List.Forall₂ (fun (addition : Addition) (partition : PendingPartition) =>
        partition.HoldsElements addition.spec.element addition.values)
        (builder.additions steps) added := by
  -- Both the run and its additions start over from the builder after the first step.
  induction steps generalizing builder with
  | nil => exact ⟨[], (List.append_nil _).symm, .nil⟩
  | cons step rest inductionHypothesis =>
      rw [run, additions]
      cases performed : step.perform builder with
      | error fault => exact inductionHypothesis builder
      | ok next =>
          obtain ⟨later, partitions, holdLater⟩ := inductionHypothesis next
          cases step with
          | addString text =>
              obtain ⟨⟨offset, stored⟩, stringAdded, final⟩ := Fallible.bind_eq_ok.mp performed
              cases final
              rw [(adds_of_addString stringAdded).partitions] at partitions
              exact ⟨later, partitions, holdLater⟩
          | addElements target values name =>
              obtain ⟨spec, resolved, elementsAdded⟩ := Fallible.bind_eq_ok.mp performed
              obtain ⟨partition, last, holds⟩ := exists_partition_of_addElements elementsAdded
              refine ⟨partition :: later, ?_, ?_⟩
              · rw [partitions, last, List.append_assoc, List.singleton_append]
              · simp only [BuilderStep.additions, resolved]
                exact .cons holds holdLater

/-- Steps are calls that add no raw bytes and write no container. -/
theorem run_eq_afterAll
    (builder : Builder)
    (steps : List BuilderStep) :
    builder.run steps = builder.afterAll (steps.map .step) := by
  induction steps generalizing builder with
  | nil => rfl
  | cons step rest inductionHypothesis =>
      rw [run, List.map_cons, afterAll, List.foldl_cons, BuilderCall.after]
      cases performed : step.perform builder with
      | error fault => exact inductionHypothesis builder
      | ok next => exact inductionHypothesis next

theorem afterAll_run
    (calls : List BuilderCall)
    (steps : List BuilderStep) :
    (empty.afterAll calls).run steps = empty.afterAll (calls ++ steps.map .step) := by
  rw [run_eq_afterAll, afterAll_append]

/-- Elements that are added are those of one more call. -/
theorem afterAll_addElements
    {calls : List BuilderCall}
    {spec : PartitionSpec}
    {values : List Value}
    {name : Option String}
    {next : Builder}
    (added : (empty.afterAll calls).addElements spec values name = .ok next) :
    empty.afterAll (calls ++ [.step (.addElements (.spec spec) values name)]) = next := by
  have performed : BuilderStep.perform (empty.afterAll calls)
      (.addElements (.spec spec) values name) = .ok next := added
  rw [afterAll_concat, BuilderCall.after, performed]
  rfl

/-! ## Partitions that tally -/

/-- Partitions declare as many bytes as they have together, and none of them declares bytes
beyond the table of contents that follows them. -/
structure Tally (partitions : List PendingPartition) : Prop where
  total : (partitions.map PendingPartition.declared).sum =
    (partitions.flatMap PendingPartition.data).length
  inside : ∀ (index : Nat) partition, partitions[index]? = some partition →
    ((partitions.take index).flatMap PendingPartition.data).length + partition.declared ≤
      (partitions.flatMap PendingPartition.data).length + 16 * partitions.length

/-- Whether a container is balanced is decided by its partitions. -/
theorem Writes.balanced_iff_tally
    {builder : Builder}
    {image : Image}
    (writes : builder.Writes image) :
    builder.Balanced image.bytes.length ↔ Tally builder.partitions := by
  have size : image.bytes.length = 76 + builder.strings.length +
      builder.partitionData.length + 16 * builder.partitions.length := by
    rw [writes.fits.length_bytes, Image.contentsStart, writes.strings, writes.data,
      writes.summaries, length_summariesFrom]
  rw [partitionData] at size
  constructor
  · intro balanced
    refine ⟨balanced.total.trans (length_flatMap_data _).symm, fun index partition found => ?_⟩
    have inside := balanced.inside index partition found
    rw [placeOf] at inside
    omega
  · intro tally
    refine ⟨tally.total.trans (length_flatMap_data _), fun index partition found => ?_⟩
    have inside := tally.inside index partition found
    rw [placeOf]
    omega

/-- Partitions that tally do so with one more just when it has the bytes that it declares. -/
theorem Tally.concat_iff
    {earlier : List PendingPartition}
    (tally : Tally earlier)
    (last : PendingPartition) :
    Tally (earlier ++ [last]) ↔ last.declared = last.data.length := by
  have total := tally.total
  constructor
  · intro longer
    have totalLonger := longer.total
    rw [List.map_append, List.sum_append, List.flatMap_append, List.length_append, total,
      List.map_singleton, List.sum_singleton, List.flatMap_singleton] at totalLonger
    push_cast at totalLonger
    omega
  · intro whole
    -- The others end where they did, in a container that has become longer; the last one ends
    -- with the bytes of the partitions.
    refine ⟨?_, fun index partition found => ?_⟩
    · rw [List.map_append, List.sum_append, List.flatMap_append, List.length_append, total,
        List.map_singleton, List.sum_singleton, List.flatMap_singleton, whole]
      push_cast
      rfl
    · rw [List.flatMap_append, List.flatMap_singleton, List.length_append, List.length_append,
        List.length_singleton]
      by_cases before : index < earlier.length
      · rw [List.getElem?_append_left before] at found
        have inside := tally.inside index partition found
        rw [List.take_append_of_le_length before.le]
        push_cast
        omega
      · rw [List.getElem?_append_right (Nat.le_of_not_lt before),
          List.getElem?_singleton] at found
        split at found
        next own =>
          cases found
          have whole_index : index = earlier.length := by omega
          rw [whole_index, List.take_left, whole]
          push_cast
          omega
        next => contradiction

/-- Partitions that tally do so with others that have the bytes that they declare. -/
theorem Tally.append
    {earlier : List PendingPartition}
    (tally : Tally earlier)
    {later : List PendingPartition}
    (whole : ∀ partition ∈ later, partition.declared = partition.data.length) :
    Tally (earlier ++ later) := by
  induction later using List.reverseRecOn with
  | nil => rwa [List.append_nil]
  | append_singleton later last inductionHypothesis =>
      rw [List.forall_mem_append, List.forall_mem_singleton] at whole
      rw [← List.append_assoc]
      exact ((inductionHypothesis whole.1).concat_iff last).mpr whole.2

/-! ## Containers of a builder -/

/-- Adding a text whose bytes are known adds it. -/
theorem exists_encode_of_addString
    {calls : List BuilderCall}
    {text : String}
    {offset : Nat}
    {next : Builder}
    (added : (empty.afterAll calls).addString text = .ok (offset, next)) :
    ∃ bytes, Utf8.encode? text = some bytes := by
  obtain ⟨interns, _, found⟩ := (interns_empty.afterAll calls).1.addString added
  obtain ⟨_, bytes, _, encoded, _⟩ := interns.texts text offset found
  exact ⟨bytes, encoded⟩

/-- What is written after a run has numbers that were chosen for its header, a source path
that has bytes, and partitions that have room in their entries. -/
theorem exists_numbers_of_build
    {calls : List BuilderCall}
    {options : BuildOptions}
    {bytes : List UInt8}
    (built : (empty.afterAll calls).build options = .ok bytes) :
    (∃ major minor unit scope, options.Numbers major minor unit scope) ∧
      (∃ path, Utf8.encode? options.sourcePath = some path) ∧
      ∀ partition ∈ (empty.afterAll calls).partitions, HasEntry partition := by
  obtain ⟨⟨sourcePath, complete⟩, added, remaining⟩ := Fallible.bind_eq_ok.mp built
  obtain ⟨contents, packedContents, remaining⟩ := Fallible.bind_eq_ok.mp remaining
  obtain ⟨header, packed, _⟩ := Fallible.bind_eq_ok.mp remaining
  obtain ⟨major, minor, unit, scope, numbers, _⟩ :=
    exists_image_of_packHeader packed packedContents
  refine ⟨⟨major, minor, unit, scope, numbers⟩, exists_encode_of_addString added, ?_⟩
  rw [← (adds_of_addString added).partitions]
  exact hasEntry_of_packContents packedContents

/-- A container is written after a run when everything fits. -/
theorem exists_build
    {calls : List BuilderCall}
    {options : BuildOptions}
    {major minor unit scope : Nat}
    (numbers : options.Numbers major minor unit scope)
    {path : List UInt8}
    (encoded : Utf8.encode? options.sourcePath = some path)
    (entries : ∀ partition ∈ (empty.afterAll calls).partitions, HasEntry partition)
    (total : (empty.afterAll calls).totalSize options.sourcePath < 256 ^ 4) :
    ∃ bytes, (empty.afterAll calls).build options = .ok bytes := by
  obtain ⟨sourcePath, complete, added, strings⟩ :=
    (empty.afterAll calls).exists_addString encoded
  obtain ⟨interns, _, found⟩ := (interns_empty.afterAll calls).1.addString added
  have partitions := (adds_of_addString added).partitions
  have names : ∀ partition ∈ complete.partitions,
      partition.name < complete.strings.length := by
    rw [partitions]
    exact fun partition present => name_lt_of_mem_partitions present added
  rw [totalSize, ← strings, partitionData, ← partitions] at total
  rw [← partitions] at entries
  have fits := image_fits numbers (interns.texts _ _ found).offset_lt names entries total
  exact ⟨_, build_eq_of_numbers added numbers
    (fun partition present => (entries partition present).toCounts) fits⟩

/-- What is written with the default signature after a run is opened just when the partitions
tally, and else refused for its sizes. -/
theorem opens_iff_tally
    {calls : List BuilderCall}
    {options : BuildOptions}
    {bytes : List UInt8}
    (signature : fitSignature options.signature = Dimensions.signature)
    (built : (empty.afterAll calls).build options = .ok bytes)
    (backing : Backing)
    (environment : Option Nat) :
    ((∃ opened, (Container.load (.of bytes backing) environment).1 = .ok opened) ↔
      Tally (empty.afterAll calls).partitions) ∧
    (¬Tally (empty.afterAll calls).partitions →
      FailsAs (Container.load (.of bytes backing) environment).1 (.reader .sizeMismatch)) := by
  obtain ⟨image, rfl, writes, entries, named⟩ := exists_image_of_signature signature built
  have partitions := empty.partitions_afterAll_build calls options
  have counts : ∀ partition ∈ (empty.afterAll (calls ++ [.build options])).partitions,
      Counts partition := fun partition member => (entries partition member).toCounts
  have balanced := writes.balanced_iff_tally
  rw [partitions] at balanced
  rw [← balanced]
  exact ⟨writes.exists_load_iff counts named backing environment, fun unbalanced =>
    writes.failsAs_of_not_balanced counts unbalanced backing environment⟩

/-- Elements of the right forms leave the partitions such that they tally. -/
theorem Tally.run
    {builder : Builder}
    (tally : Tally builder.partitions)
    {steps : List BuilderStep}
    (suits : ∀ addition ∈ builder.additions steps, addition.Suits) :
    Tally (builder.run steps).partitions := by
  obtain ⟨added, partitions, holds⟩ := builder.exists_partitions_run steps
  rw [partitions]
  refine tally.append fun partition member => ?_
  obtain ⟨addition, present, heldHere⟩ := exists_left_of_forall₂ holds member
  exact heldHere.declared_eq_iff.mpr (suits addition present)

/-- Partitions of what was added have the bytes that they declare and those besides. -/
theorem length_flatMap_data_of_holds
    {additions : List Addition}
    {partitions : List PendingPartition}
    (holds : List.Forall₂ (fun (addition : Addition) (partition : PendingPartition) =>
      partition.HoldsElements addition.spec.element addition.values) additions partitions) :
    ((partitions.flatMap PendingPartition.data).length : Int) =
      (partitions.map PendingPartition.declared).sum +
        (additions.map Addition.excess).sum := by
  induction holds with
  | nil => rfl
  | cons first rest inductionHypothesis =>
      rw [List.flatMap_cons, List.length_append, Nat.cast_add, inductionHypothesis,
        first.length, List.map_cons, List.map_cons, List.sum_cons, List.sum_cons,
        Addition.excess]
      ring

/-- Partitions tally after elements only if bytes too many make up for bytes too few. -/
theorem Tally.sum_excess_eq_zero
    {builder : Builder}
    (tally : Tally builder.partitions)
    {steps : List BuilderStep}
    (tallyLater : Tally (builder.run steps).partitions) :
    ((builder.additions steps).map Addition.excess).sum = 0 := by
  obtain ⟨added, partitions, holds⟩ := builder.exists_partitions_run steps
  have total := tallyLater.total
  rw [partitions, List.map_append, List.sum_append, tally.total, List.flatMap_append,
    List.length_append, Nat.cast_add, length_flatMap_data_of_holds holds] at total
  omega

/-- Partitions have room in their entries after elements whose size and number do. -/
theorem hasEntry_run
    {builder : Builder}
    (entries : ∀ partition ∈ builder.partitions, HasEntry partition)
    {steps : List BuilderStep}
    (fit : ∀ addition ∈ builder.additions steps, addition.HasEntry) :
    ∀ partition ∈ (builder.run steps).partitions, HasEntry partition := by
  obtain ⟨added, partitions, holds⟩ := builder.exists_partitions_run steps
  rw [partitions, List.forall_mem_append]
  refine ⟨entries, fun partition member => ?_⟩
  obtain ⟨addition, present, heldHere⟩ := exists_left_of_forall₂ holds member
  have entry := fit addition present
  refine ⟨⟨?_, ?_⟩, ?_, ?_⟩
  · rw [heldHere.entrySize]
    exact Int.natCast_nonneg _
  · rw [heldHere.cardinality]
    exact Int.natCast_nonneg _
  · rw [heldHere.entrySize]
    exact_mod_cast entry.size
  · rw [heldHere.cardinality]
    exact_mod_cast entry.count

/-- What becomes of the container of a builder when elements are added to it and it is written
again with the same options. -/
structure Grows (builder : Builder) (options : BuildOptions) : Prop where
  /-- After elements of the right forms, however many are added, it is opened. -/
  opened : ∀ steps bytes backing environment,
    (∀ addition ∈ builder.additions steps, addition.Suits) →
    (builder.run steps).build options = .ok bytes →
    ∃ opened, (Container.load (.of bytes backing) environment).1 = .ok opened
  /-- After one list of elements it is opened just when all values have the right form. -/
  opened_iff : ∀ spec values name next bytes backing environment,
    builder.addElements spec values name = .ok next →
    next.build options = .ok bytes →
    ((∃ opened, (Container.load (.of bytes backing) environment).1 = .ok opened) ↔
      ∀ value ∈ values, spec.element.Suits value)
  /-- After values of other forms it is refused, unless bytes too many make up for bytes too
  few. -/
  refused : ∀ steps bytes backing environment,
    ((builder.additions steps).map Addition.excess).sum ≠ 0 →
    (builder.run steps).build options = .ok bytes →
    FailsAs (Container.load (.of bytes backing) environment).1 (.reader .sizeMismatch)
  /-- It is written, whatever the values are, while everything fits. -/
  built : ∀ steps,
    (∀ addition ∈ builder.additions steps, addition.HasEntry) →
    (builder.run steps).totalSize options.sourcePath < 256 ^ 4 →
    ∃ bytes, (builder.run steps).build options = .ok bytes

/-- A container that is opened stays so as `Grows` says when elements are added. -/
theorem grows_of_load
    {calls : List BuilderCall}
    {options : BuildOptions}
    {bytes : List UInt8}
    (built : (empty.afterAll calls).build options = .ok bytes)
    {backing : Backing}
    {environment : Option Nat}
    {opened : Container}
    (loaded : (Container.load (.of bytes backing) environment).1 = .ok opened) :
    (empty.afterAll calls).Grows options := by
  obtain ⟨_, _, _, _, _, _, written⟩ := exists_image_of_build built
  have signature := fitSignature_of_signed written (accepted_of_load loaded).1
  have tally := (opens_iff_tally signature built backing environment).1.mp ⟨opened, loaded⟩
  refine ⟨?opened, ?opened_iff, ?refused, ?built⟩
  case opened =>
    intro steps later backing environment suits builtLater
    have tallyLater := tally.run suits
    rw [afterAll_run] at builtLater tallyLater
    exact (opens_iff_tally signature builtLater backing environment).1.mpr tallyLater
  case opened_iff =>
    intro spec values name next later backing environment added builtLater
    obtain ⟨partition, last, holds⟩ := exists_partition_of_addElements added
    have one := afterAll_addElements added
    have opens := (opens_iff_tally signature (one ▸ builtLater) backing environment).1
    rw [opens, one, last, tally.concat_iff, holds.declared_eq_iff]
  case refused =>
    intro steps later backing environment uneven builtLater
    have untallied := mt tally.sum_excess_eq_zero uneven
    rw [afterAll_run] at builtLater untallied
    exact (opens_iff_tally signature builtLater backing environment).2 untallied
  case built =>
    intro steps fit total
    obtain ⟨⟨major, minor, unit, scope, numbers⟩, ⟨path, encoded⟩, entries⟩ :=
      exists_numbers_of_build built
    have entriesLater := hasEntry_run entries fit
    rw [afterAll_run] at total entriesLater ⊢
    exact exists_build numbers encoded entriesLater total

/-- An element is written in its size just when the value has its form, and else in as many
bytes more or fewer as the form makes it; so a list of elements becomes a partition that has
the bytes that it declares just when all values have the form. A container that is opened
stays one that is opened when such elements are added, and becomes one that is refused after
a list with values of another form. -/
theorem added_elements_sized
    (calls : List BuilderCall)
    (options : BuildOptions)
    (spec : PartitionSpec)
    (values : List Value)
    (name : Option String) :
    (∀ value bytes, spec.element.pack value = .ok bytes →
      (bytes.length : Int) = spec.element.size +
          (if spec.element.Suits value then 0 else spec.element.excess) ∧
        (bytes.length = spec.element.size ↔ spec.element.Suits value)) ∧
    (∀ builder next, Builder.addElements builder spec values name = .ok next →
      ∃ partition, next.partitions = builder.partitions ++ [partition] ∧
        partition.HoldsElements spec.element values ∧
        (partition.declared = partition.data.length ↔
          ∀ value ∈ values, spec.element.Suits value)) ∧
    (∀ bytes backing environment opened,
      (empty.afterAll calls).build options = .ok bytes →
      (Container.load (.of bytes backing) environment).1 = .ok opened →
      (empty.afterAll calls).Grows options) := by
  refine ⟨?elements, ?partitions, ?containers⟩
  case elements =>
    intro value bytes packed
    exact ⟨Element.length_pack packed, Element.length_pack_eq_size_iff packed⟩
  case partitions =>
    intro builder next added
    obtain ⟨partition, last, holds⟩ := exists_partition_of_addElements added
    exact ⟨partition, last, holds, holds.declared_eq_iff⟩
  case containers =>
    intro bytes backing environment opened built loaded
    exact grows_of_load built loaded

/-- Indices and ranges, each added as what they are. -/
def suited : List BuilderStep := [
  .addElements (.spec Catalogue.heapType) [.tagged (TaggedIndex.ofWord .type 33), .integer 7]
    none,
  .addElements (.spec Catalogue.scopeDesc) [.sequence (.integer 0) (.integer 1)] none]

/-- A range that is added as an index, among indices. -/
def misplaced : List BuilderStep := [
  .addElements (.spec Catalogue.heapType) [.integer 7, .sequence (.integer 1) (.integer 2)]
    none]

theorem added_elements_sized_suited :
    (∃ bytes, Catalogue.heapType.element.pack (.integer 7) = .ok bytes ∧ bytes.length = 4) ∧
    (∃ next partition bytes opened,
      (empty.afterAll errorsCancel).addElements Catalogue.heapType [.integer 7] none =
        .ok next ∧
      next.partitions = (empty.afterAll errorsCancel).partitions ++ [partition] ∧
      partition.declared = partition.data.length ∧
      next.build unchecked = .ok bytes ∧
      (Container.load (.of bytes .bytes) none).1 = .ok opened) ∧
    (∃ bytes opened,
      ((empty.afterAll errorsCancel).run suited).build unchecked = .ok bytes ∧
      (Container.load (.of bytes .bytes) none).1 = .ok opened) ∧
    ∃ bytes,
      ((empty.afterAll errorsCancel).run misplaced).build unchecked = .ok bytes ∧
      FailsAs (Container.load (.of bytes .bytes) none).1 (.reader .sizeMismatch) := by
  obtain ⟨elements, partitions, containers⟩ :=
    added_elements_sized errorsCancel unchecked Catalogue.heapType [.integer 7] none
  have built : (empty.afterAll errorsCancel).build unchecked = .ok errorsCancelData := rfl
  have accepted : (Container.load (.of errorsCancelData .bytes) none).1.isOk := by
    decide +kernel
  obtain ⟨opened, loaded⟩ := Fallible.exists_of_isOk accepted
  have grows := containers _ .bytes none opened built loaded
  refine ⟨?packed, ?added, ?opened, ?refused⟩
  case packed =>
    obtain ⟨bytes, packed⟩ : ∃ bytes,
      Catalogue.heapType.element.pack (.integer 7) = .ok bytes := ⟨_, rfl⟩
    exact ⟨bytes, packed, (elements _ _ packed).2.mpr (by decide)⟩
  case added =>
    obtain ⟨next, bytes, added, builtNext⟩ : ∃ next bytes,
      (empty.afterAll errorsCancel).addElements Catalogue.heapType [.integer 7] none =
        .ok next ∧
      next.build unchecked = .ok bytes := ⟨_, _, rfl, rfl⟩
    obtain ⟨partition, last, _, whole⟩ := partitions _ _ added
    obtain ⟨openedNext, loadedNext⟩ :=
      (grows.opened_iff _ _ _ _ bytes .bytes none added builtNext).mpr (by decide)
    exact ⟨next, partition, bytes, openedNext, added, last, whole.mpr (by decide), builtNext,
      loadedNext⟩
  case opened =>
    obtain ⟨bytes, builtLater⟩ :=
      grows.built suited (by decide +kernel) (by decide +kernel)
    obtain ⟨openedLater, loadedLater⟩ :=
      grows.opened suited bytes .bytes none (by decide +kernel) builtLater
    exact ⟨bytes, openedLater, builtLater, loadedLater⟩
  case refused =>
    obtain ⟨bytes, builtLater⟩ :=
      grows.built misplaced (by decide +kernel) (by decide +kernel)
    exact ⟨bytes, builtLater,
      grows.refused misplaced bytes .bytes none (by decide +kernel) builtLater⟩

/-- A range that is added as an index, and an index that is added as a range. -/
def exchanged : List BuilderStep := [
  .addElements (.spec Catalogue.heapType) [.sequence (.integer 1) (.integer 2)] none,
  .addElements (.spec Catalogue.scopeDesc) [.integer 5] none]

/-- A range is written in eight bytes as an index of four, and a number in four bytes as a range
of eight. The container of no partitions is opened. It is refused once the range is added, and
opened again once the number is, though neither partition has the bytes that it declares. -/
theorem element_sizes_exchanged :
    (Catalogue.heapType.element.pack (.sequence (.integer 1) (.integer 2)) =
        .ok [1, 0, 0, 0, 2, 0, 0, 0] ∧ Catalogue.heapType.element.size = 4) ∧
    (Catalogue.scopeDesc.element.pack (.integer 5) = .ok [5, 0, 0, 0] ∧
      Catalogue.scopeDesc.element.size = 8) ∧
    (∃ bytes opened, empty.build unchecked = .ok bytes ∧
      (Container.load (.of bytes .bytes) none).1 = .ok opened) ∧
    (∃ bytes, (empty.run (exchanged.take 1)).build unchecked = .ok bytes ∧
      FailsAs (Container.load (.of bytes .bytes) none).1 (.reader .sizeMismatch)) ∧
    (∃ bytes opened, (empty.run exchanged).build unchecked = .ok bytes ∧
      (Container.load (.of bytes .bytes) none).1 = .ok opened) ∧
    ∀ partition ∈ (empty.run exchanged).partitions,
      partition.declared ≠ partition.data.length := by
  have opens : ∀ builder : Builder, (do
        let bytes ← builder.build unchecked
        (Container.load (.of bytes .bytes) none).1).isOk →
      ∃ bytes opened, builder.build unchecked = .ok bytes ∧
        (Container.load (.of bytes .bytes) none).1 = .ok opened := by
    intro builder fine
    obtain ⟨opened, ran⟩ := Fallible.exists_of_isOk fine
    obtain ⟨bytes, built, loaded⟩ := Fallible.bind_eq_ok.mp ran
    exact ⟨bytes, opened, built, loaded⟩
  obtain ⟨bytes, opened, built, loaded⟩ := opens empty (by decide +kernel)
  have grows : (empty.afterAll []).Grows unchecked := grows_of_load built loaded
  obtain ⟨later, builtLater⟩ : ∃ later,
    (empty.run (exchanged.take 1)).build unchecked = .ok later := ⟨_, rfl⟩
  refine ⟨⟨rfl, rfl⟩, ⟨rfl, rfl⟩, ⟨bytes, opened, built, loaded⟩, ⟨later, builtLater, ?refused⟩,
    opens _ (by decide +kernel), by decide +kernel⟩
  exact grows.refused _ _ .bytes none (by decide +kernel) builtLater

end Builder
end ModuleInterface

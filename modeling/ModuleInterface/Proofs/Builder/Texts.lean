import Mathlib
import ModuleInterface.Proofs.Builder.RoundTrip
import ModuleInterface.Proofs.Container.Alteration

/-!
# Texts of a builder are read back

A builder stores every text once. `Builder.Interns` is the invariant: each text that it
knows stands in the string table at its offset, no two texts have one offset, and only the
empty text has offset 0. Every call keeps this and keeps the offsets that were given out,
whether it fails or not (`BuilderCall.interns`). What is written consists of the parts of an
image (`exists_image_of_build`), so that an offset that was used for a text at any moment
names the text in the container, up to its first null character.
-/

-- Powers are the core library's, as in the definitions that are reasoned about.
attribute [local instance (1100)] instPowNat

namespace ModuleInterface

open Acceptance

/-! ## Calls of a builder -/

/-- Everything that a builder can be asked to do. -/
inductive BuilderCall
  | step (action : BuilderStep)
  | addPartition (name : String) (entrySize : Int) (data : List UInt8)
      (cardinality : Option Int)
  | build (options : BuildOptions)
  deriving Repr

namespace BuilderCall

/-- The builder after a call, which leaves it as it was if it fails. Writing a container
stores the source path first, and keeps it if it fails later. -/
def after (builder : Builder) : BuilderCall → Builder
  | .step action => (action.perform builder).toOption.getD builder
  | .addPartition name entrySize data cardinality =>
      (builder.addPartition name entrySize data cardinality).toOption.getD builder
  | .build options =>
      ((builder.addString options.sourcePath).toOption.map (·.2)).getD builder

/-- A call answers an offset for a text, or uses the offset as the name of the text: the
name of a partition, or the source path of a container. -/
inductive Uses (builder : Builder) : BuilderCall → String → Nat → Prop
  | text
      {text : String}
      {offset : Nat}
      {next : Builder}
      (added : builder.addString text = .ok (offset, next)) :
      Uses builder (.step (.addString text)) text offset
  | elements
      {target : Target}
      {values : List Value}
      {name : Option String}
      {spec : PartitionSpec}
      {next : Builder}
      {partition : PendingPartition}
      (resolved : target.resolve = .ok spec)
      (added : builder.addElements spec values name = .ok next)
      (last : next.partitions = builder.partitions ++ [partition]) :
      Uses builder (.step (.addElements target values name)) (name.getD spec.name)
        partition.name
  | partition
      {name : String}
      {entrySize : Int}
      {data : List UInt8}
      {cardinality : Option Int}
      {next : Builder}
      {partition : PendingPartition}
      (added : builder.addPartition name entrySize data cardinality = .ok next)
      (last : next.partitions = builder.partitions ++ [partition]) :
      Uses builder (.addPartition name entrySize data cardinality) name partition.name
  | sourcePath
      {options : BuildOptions}
      {offset : Nat}
      {next : Builder}
      (added : builder.addString options.sourcePath = .ok (offset, next)) :
      Uses builder (.build options) options.sourcePath offset

end BuilderCall

namespace Builder

/-- The builder after some calls. -/
def afterAll (builder : Builder) (calls : List BuilderCall) : Builder :=
  calls.foldl BuilderCall.after builder

theorem afterAll_append
    (builder : Builder)
    (earlier later : List BuilderCall) :
    builder.afterAll (earlier ++ later) = (builder.afterAll earlier).afterAll later :=
  List.foldl_append

theorem afterAll_concat
    (builder : Builder)
    (earlier : List BuilderCall)
    (call : BuilderCall) :
    builder.afterAll (earlier ++ [call]) = call.after (builder.afterAll earlier) :=
  builder.afterAll_append earlier [call]

/-- One of some calls answers or uses an offset for a text. -/
def Used (builder : Builder) (calls : List BuilderCall) (text : String) (offset : Nat) : Prop :=
  ∃ earlier call later, calls = earlier ++ call :: later ∧
    call.Uses (builder.afterAll earlier) text offset

/-! ## Stored texts -/

/-- Texts stand in the string table at offsets of their own, the empty text at the first. -/
structure Interns (builder : Builder) : Prop where
  texts : ∀ text offset, builder.offsets.find? text = some offset →
    builder.StoresText text offset
  empty : builder.offsets.find? "" = some 0
  apart : ∀ text other offset, builder.offsets.find? text = some offset →
    builder.offsets.find? other = some offset → text = other

/-- Every text that a builder knows is known to another one, with the same offset. -/
def Recalls (next builder : Builder) : Prop :=
  ∀ text offset, builder.offsets.find? text = some offset →
    next.offsets.find? text = some offset

theorem Recalls.refl
    (builder : Builder) :
    builder.Recalls builder :=
  fun _ _ found => found

theorem Recalls.trans
    {last next builder : Builder}
    (later : last.Recalls next)
    (earlier : next.Recalls builder) :
    last.Recalls builder :=
  fun text offset found => later text offset (earlier text offset found)

theorem interns_empty : empty.Interns := by
  have known : ∀ text offset, empty.offsets.find? text = some offset →
      text = "" ∧ offset = 0 := by
    intro text offset found
    rw [empty, Bindings.find?_cons] at found
    split at found
    next same =>
      cases found
      exact ⟨same.symm, rfl⟩
    next => contradiction
  refine ⟨keeps_empty.texts, rfl, fun text other offset found foundOther => ?_⟩
  rw [(known text offset found).1, (known other offset foundOther).1]

/-- A text that is added is known at the answered offset, which is that of no other. -/
theorem Interns.addString
    {builder next : Builder}
    (interns : builder.Interns)
    {text : String}
    {offset : Nat}
    (stored : builder.addString text = .ok (offset, next)) :
    next.Interns ∧ next.Recalls builder ∧ next.offsets.find? text = some offset := by
  have adds := adds_of_addString stored
  have bound : ∀ other place, builder.offsets.find? other = some place →
      place < builder.strings.length := fun other place found =>
    (interns.texts other place found).offset_lt
  have own : ∀ other, builder.offsets.find? other = some offset → other = text := by
    intro other found
    obtain known | ⟨_, fresh, _⟩ := adds.stored
    · exact interns.apart other text offset found known
    · exact absurd (bound other offset found) (by omega)
  refine ⟨⟨fun other place => adds.storesText interns.texts, (adds.known _ _).mpr
    (.inl interns.empty), fun first second place foundFirst foundSecond => ?_⟩,
    fun other place found => (adds.known _ _).mpr (.inl found),
    (adds.known _ _).mpr (.inr ⟨rfl, rfl⟩)⟩
  obtain knownFirst | ⟨rfl, rfl⟩ := (adds.known first place).mp foundFirst
  · obtain knownSecond | ⟨rfl, rfl⟩ := (adds.known second place).mp foundSecond
    · exact interns.apart first second place knownFirst knownSecond
    · exact own first knownFirst
  · obtain knownSecond | ⟨rfl, _⟩ := (adds.known second place).mp foundSecond
    · exact (own second knownSecond).symm
    · rfl

/-- A partition that is added is named by its text. -/
theorem Interns.addPartition
    {builder next : Builder}
    (interns : builder.Interns)
    {name : String}
    {entrySize : Int}
    {data : List UInt8}
    {cardinality : Option Int}
    (added : builder.addPartition name entrySize data cardinality = .ok next) :
    next.Interns ∧ next.Recalls builder ∧
      ∃ partition, next.partitions = builder.partitions ++ [partition] ∧
        next.offsets.find? name = some partition.name := by
  obtain ⟨⟨offset, named⟩, stored, final⟩ := Fallible.bind_eq_ok.mp added
  cases final
  obtain ⟨internsNamed, recalls, found⟩ := interns.addString stored
  refine ⟨⟨internsNamed.texts, internsNamed.empty, internsNamed.apart⟩, recalls,
    ⟨offset, entrySize, cardinality.getD (countElements data entrySize), data⟩, ?_, found⟩
  rw [(adds_of_addString stored).partitions]

theorem Interns.addElements
    {builder next : Builder}
    (interns : builder.Interns)
    {spec : PartitionSpec}
    {values : List Value}
    {name : Option String}
    (added : builder.addElements spec values name = .ok next) :
    next.Interns ∧ next.Recalls builder ∧
      ∃ partition, next.partitions = builder.partitions ++ [partition] ∧
        next.offsets.find? (name.getD spec.name) = some partition.name := by
  obtain ⟨packed, _, addedPartition⟩ := Fallible.bind_eq_ok.mp added
  exact interns.addPartition addedPartition

/-- A builder that is left as it was when something fails interns its texts if it does so
when nothing fails. -/
theorem Interns.getD
    {builder : Builder}
    (interns : builder.Interns)
    {outcome : Except Fault Builder}
    (succeeds : ∀ next, outcome = .ok next → next.Interns ∧ next.Recalls builder) :
    (outcome.toOption.getD builder).Interns ∧ (outcome.toOption.getD builder).Recalls builder := by
  cases outcome with
  | error fault => exact ⟨interns, .refl _⟩
  | ok next => exact succeeds next rfl

end Builder

/-! ## Runs of calls -/

/-- A call keeps what was stored, whether it fails or not. -/
theorem BuilderCall.interns
    {builder : Builder}
    (interns : builder.Interns)
    (call : BuilderCall) :
    (call.after builder).Interns ∧ (call.after builder).Recalls builder := by
  cases call with
  | step action =>
      refine interns.getD fun next performed => ?_
      cases action with
      | addString text =>
          obtain ⟨⟨offset, stored⟩, added, final⟩ := Fallible.bind_eq_ok.mp performed
          cases final
          obtain ⟨internsNext, recalls, _⟩ := interns.addString added
          exact ⟨internsNext, recalls⟩
      | addElements target values name =>
          obtain ⟨spec, _, added⟩ := Fallible.bind_eq_ok.mp performed
          obtain ⟨internsNext, recalls, _⟩ := interns.addElements added
          exact ⟨internsNext, recalls⟩
  | addPartition name entrySize data cardinality =>
      refine interns.getD fun next added => ?_
      obtain ⟨internsNext, recalls, _⟩ := interns.addPartition added
      exact ⟨internsNext, recalls⟩
  | build options =>
      rw [after]
      cases added : builder.addString options.sourcePath with
      | error fault => exact ⟨interns, .refl _⟩
      | ok answered =>
          obtain ⟨offset, next⟩ := answered
          obtain ⟨internsNext, recalls, _⟩ := interns.addString added
          exact ⟨internsNext, recalls⟩

/-- An offset that a call answers or uses is that of the text afterwards. -/
theorem BuilderCall.Uses.find?_eq
    {builder : Builder}
    (interns : builder.Interns)
    {call : BuilderCall}
    {text : String}
    {offset : Nat}
    (uses : call.Uses builder text offset) :
    (call.after builder).offsets.find? text = some offset := by
  cases uses with
  | text added =>
      obtain ⟨_, _, found⟩ := interns.addString added
      rw [after, BuilderStep.perform, added]
      exact found
  | elements resolved added last =>
      obtain ⟨_, _, partition, partitions, found⟩ := interns.addElements added
      obtain rfl := List.singleton_inj.mp (List.append_cancel_left (last.symm.trans partitions))
      rw [after, BuilderStep.perform, resolved, Fallible.ok_bind, added]
      exact found
  | partition added last =>
      obtain ⟨_, _, partition, partitions, found⟩ := interns.addPartition added
      obtain rfl := List.singleton_inj.mp (List.append_cancel_left (last.symm.trans partitions))
      rw [after, added]
      exact found
  | sourcePath added =>
      obtain ⟨_, _, found⟩ := interns.addString added
      rw [after, added]
      exact found

namespace Builder

/-- A run of calls keeps what was stored. -/
theorem Interns.afterAll
    {builder : Builder}
    (interns : builder.Interns)
    (calls : List BuilderCall) :
    (builder.afterAll calls).Interns ∧ (builder.afterAll calls).Recalls builder := by
  induction calls generalizing builder with
  | nil => exact ⟨interns, .refl _⟩
  | cons call rest inductionHypothesis =>
      obtain ⟨internsNext, recalls⟩ := call.interns interns
      obtain ⟨internsLast, recallsLast⟩ := inductionHypothesis internsNext
      exact ⟨internsLast, recallsLast.trans recalls⟩

/-- An offset that was answered or used at any moment of a run is that of the text at its
end. -/
theorem Used.find?_eq
    {builder : Builder}
    (interns : builder.Interns)
    {calls : List BuilderCall}
    {text : String}
    {offset : Nat}
    (used : builder.Used calls text offset) :
    (builder.afterAll calls).offsets.find? text = some offset := by
  obtain ⟨earlier, call, later, rfl, uses⟩ := used
  have internsEarlier := (interns.afterAll earlier).1
  have found := uses.find?_eq internsEarlier
  rw [afterAll_append]
  exact ((call.interns internsEarlier).1.afterAll later).2 text offset found

/-! ## What is written -/

theorem exists_carries_of_packNumbers
    {items : List (Nat × Value)}
    {bytes : List UInt8}
    (packed : packNumbers items = .ok bytes) :
    ∃ numbers,
      Word.Carries (items.map fun item => .unsigned item.1) (items.map (·.2)) numbers ∧
      bytes = Word.writeAll (items.map fun item => .unsigned item.1) numbers := by
  unfold packNumbers at packed
  split at packed
  next written =>
    cases packed
    exact Word.exists_carries_of_packAll? written
  next => contradiction

/-- A table of contents that is written is that of the entries, whose numbers fit. -/
theorem fits_of_packContents
    {place : Nat}
    {partitions : List PendingPartition}
    {bytes : List UInt8}
    (packed : packContents place partitions = .ok bytes) :
    (∀ summary ∈ summariesFrom place partitions, summary.Fits) ∧
      bytes = (summariesFrom place partitions).flatMap Summary.encode := by
  induction partitions generalizing place bytes with
  | nil =>
      cases packed
      exact ⟨fun _ member => absurd member List.not_mem_nil, rfl⟩
  | cons partition rest inductionHypothesis =>
      obtain ⟨head, packedHead, remaining⟩ := Fallible.bind_eq_ok.mp packed
      obtain ⟨tail, packedTail, final⟩ := Fallible.bind_eq_ok.mp remaining
      cases final
      obtain ⟨fits, rfl⟩ := inductionHypothesis packedTail
      obtain ⟨numbers, carried, rfl⟩ := exists_carries_of_packNumbers packedHead
      obtain ⟨_, rfl, nameFits, carried⟩ := carried.exists_of_integer rfl
      obtain ⟨_, rfl, placeFits, carried⟩ := carried.exists_of_integer rfl
      obtain ⟨cardinality, _, rfl, integer, cardinalityFits, carried⟩ :=
        carried.exists_of_unsigned
      obtain ⟨entrySize, _, rfl, integerSize, entrySizeFits, carried⟩ :=
        carried.exists_of_unsigned
      cases carried
      have summary : partition.summary place =
          ⟨partition.name, place, cardinality, entrySize⟩ := by
        have count : partition.cardinality = cardinality := Option.some.inj integer
        have size : partition.entrySize = entrySize := Option.some.inj integerSize
        rw [PendingPartition.summary, count, size, Int.toNat_natCast, Int.toNat_natCast]
      rw [summariesFrom, List.forall_mem_cons, List.flatMap_cons, summary]
      exact ⟨⟨⟨nameFits, placeFits, cardinalityFits, entrySizeFits⟩, fits⟩, rfl⟩

/-- A header that is written has the numbers that were chosen for it and describes an image of
the builder, in which every number fits its field. -/
theorem exists_image_of_packHeader
    {complete : Builder}
    {options : BuildOptions}
    {sourcePath : Nat}
    {bytes contents : List UInt8}
    (packed : complete.packHeader options sourcePath
      (76 + complete.strings.length + complete.partitionData.length) = .ok bytes)
    (packedContents : packContents (76 + complete.strings.length) complete.partitions =
      .ok contents) :
    ∃ major minor unit scope,
      options.Numbers major minor unit scope ∧
      (complete.image major minor unit sourcePath scope).Fits ∧
      bytes ++ complete.strings ++ complete.partitionData ++ contents =
        (complete.image major minor unit sourcePath scope).content := by
  obtain ⟨⟨first, second⟩, version, remaining⟩ := Fallible.bind_eq_ok.mp packed
  obtain ⟨encoding, encoded, remaining⟩ := Fallible.bind_eq_ok.mp remaining
  obtain ⟨written, packedNumbers, final⟩ := Fallible.bind_eq_ok.mp remaining
  cases final
  obtain ⟨fits, rfl⟩ := fits_of_packContents packedContents
  obtain ⟨numbers, carried, rfl⟩ := exists_carries_of_packNumbers packedNumbers
  have zero : (Value.integer 0).integer? = some ((0 : Nat) : Int) := rfl
  have language : (Value.integer 202002).integer? = some ((202002 : Nat) : Int) := rfl
  have start : (Value.integer 76).integer? = some ((76 : Nat) : Int) := rfl
  obtain ⟨major, _, rfl, majorInteger, majorFits, carried⟩ := carried.exists_of_unsigned
  obtain ⟨minor, _, rfl, minorInteger, minorFits, carried⟩ := carried.exists_of_unsigned
  obtain ⟨_, rfl, _, carried⟩ := carried.exists_of_integer zero
  obtain ⟨_, rfl, _, carried⟩ := carried.exists_of_integer zero
  obtain ⟨_, rfl, _, carried⟩ := carried.exists_of_integer language
  obtain ⟨_, rfl, _, carried⟩ := carried.exists_of_integer start
  obtain ⟨_, rfl, _, carried⟩ := carried.exists_of_integer rfl
  obtain ⟨unit, _, rfl, unitInteger, unitFits, carried⟩ := carried.exists_of_unsigned
  obtain ⟨_, rfl, pathFits, carried⟩ := carried.exists_of_integer rfl
  obtain ⟨scope, _, rfl, scopeInteger, scopeFits, carried⟩ := carried.exists_of_unsigned
  obtain ⟨_, rfl, startFits, carried⟩ := carried.exists_of_integer rfl
  obtain ⟨_, rfl, countFits, carried⟩ := carried.exists_of_integer rfl
  obtain ⟨_, rfl, _, carried⟩ := carried.exists_of_integer zero
  cases carried
  rw [← length_summariesFrom (76 + complete.strings.length)] at countFits
  refine ⟨major, minor, unit, scope, ⟨⟨first, second, version, majorInteger, minorInteger⟩,
    ⟨encoding, encoded, unitInteger⟩, scopeInteger, majorFits, minorFits, unitFits, scopeFits⟩,
    ⟨List.length_replicate, majorFits, minorFits, unitFits, pathFits, scopeFits, startFits,
      countFits, fits⟩, ?_⟩
  rw [Image.content]
  simp [Image.numbers, Image.contentsStart, image, Header.words, quad]

/-- What is written consists of the parts of an image of the builder, to which the source
path was added, after the signature that was chosen. The checksum is the digest of what
follows it, if one is asked for. -/
theorem exists_image_of_buildWith
    {digest : List UInt8 → List UInt8}
    (sized : ∀ content, (digest content).length = 32)
    {builder : Builder}
    {options : BuildOptions}
    {bytes : List UInt8}
    (built : builder.buildWith digest options = .ok bytes) :
    ∃ sourcePath complete image,
      builder.addString options.sourcePath = .ok (sourcePath, complete) ∧
      complete.Writes image ∧
      image.sourcePath = sourcePath ∧
      bytes = fitSignature options.signature ++ image.checksum ++ image.content ∧
      (options.checksum = true → image.checksum = digest image.content) := by
  obtain ⟨⟨sourcePath, complete⟩, added, remaining⟩ := Fallible.bind_eq_ok.mp built
  obtain ⟨contents, packedContents, remaining⟩ := Fallible.bind_eq_ok.mp remaining
  obtain ⟨header, packed, final⟩ := Fallible.bind_eq_ok.mp remaining
  obtain ⟨major, minor, unit, scope, _, fits, content⟩ :=
    exists_image_of_packHeader packed packedContents
  cases final
  rw [content]
  cases options.checksum with
  | true =>
      refine ⟨sourcePath, complete, { complete.image major minor unit sourcePath scope with
        checksum := digest (complete.image major minor unit sourcePath scope).content },
        added, ⟨{ fits with checksum := sized _ }, rfl, rfl, rfl⟩, rfl, rfl, fun _ => rfl⟩
  | false =>
      exact ⟨sourcePath, complete, complete.image major minor unit sourcePath scope, added,
        ⟨fits, rfl, rfl, rfl⟩, rfl, rfl, fun asked => absurd asked Bool.false_ne_true⟩

theorem exists_image_of_build
    {builder : Builder}
    {options : BuildOptions}
    {bytes : List UInt8}
    (built : builder.build options = .ok bytes) :
    ∃ sourcePath complete image,
      builder.addString options.sourcePath = .ok (sourcePath, complete) ∧
      complete.Writes image ∧
      image.sourcePath = sourcePath ∧
      bytes = fitSignature options.signature ++ image.checksum ++ image.content := by
  obtain ⟨sourcePath, complete, image, added, writes, path, written, _⟩ :=
    exists_image_of_buildWith Sha256.length_digest built
  exact ⟨sourcePath, complete, image, added, writes, path, written⟩

theorem length_fitSignature
    (signature : List UInt8) :
    (fitSignature signature).length = 4 := by
  simp only [fitSignature, Dimensions.signatureSize, List.length_append, List.length_take,
    List.length_replicate]
  omega

/-- What is accepted was written with the default signature. -/
theorem fitSignature_of_signed
    {image : Image}
    {signature bytes : List UInt8}
    (written : bytes = fitSignature signature ++ image.checksum ++ image.content)
    (signed : Signed bytes) :
    fitSignature signature = Dimensions.signature := by
  have start := signed.2
  rwa [written, List.append_assoc, List.take_left' (length_fitSignature signature)] at start

/-- What is accepted is the image. -/
theorem eq_image_of_signed
    {image : Image}
    {signature bytes : List UInt8}
    (written : bytes = fitSignature signature ++ image.checksum ++ image.content)
    (signed : Signed bytes) :
    bytes = image.bytes := by
  rw [written, fitSignature_of_signed written signed]
  rfl

/-! ## Texts are read back -/

theorem Used.append
    {builder : Builder}
    {calls : List BuilderCall}
    {text : String}
    {offset : Nat}
    (used : builder.Used calls text offset)
    (following : List BuilderCall) :
    builder.Used (calls ++ following) text offset := by
  obtain ⟨earlier, call, later, rfl, uses⟩ := used
  exact ⟨earlier, call, later ++ following, by simp, uses⟩

/-- What holds of a builder after something that may fail holds of it before, if it fails,
and else of what came out. -/
theorem of_getD
    {builder : Builder}
    {outcome : Except Fault Builder}
    (holds : Builder → Prop)
    (after : holds (outcome.toOption.getD builder)) :
    holds builder ∨ ∃ next, outcome = .ok next ∧ holds next := by
  cases outcome with
  | error fault => exact .inl after
  | ok next => exact .inr ⟨next, rfl, after⟩

theorem mem_partitions_concat
    {builder next : Builder}
    {last partition : PendingPartition}
    (partitions : next.partitions = builder.partitions ++ [last])
    (member : partition ∈ next.partitions) :
    partition ∈ builder.partitions ∨ partition = last := by
  rw [partitions, List.mem_append, List.mem_singleton] at member
  exact member

/-- Adding a text adds no partition, whether it fails or not. -/
theorem partitions_after_addString
    (builder : Builder)
    (text : String) :
    ((builder.addString text).toOption.map (·.2) |>.getD builder).partitions =
      builder.partitions := by
  cases added : builder.addString text with
  | error fault => rfl
  | ok answered => exact (adds_of_addString added).partitions

/-- Every partition of a builder after a call was there before, or the call used its name. -/
theorem uses_of_mem_partitions
    {builder : Builder}
    (interns : builder.Interns)
    {call : BuilderCall}
    {partition : PendingPartition}
    (member : partition ∈ (call.after builder).partitions) :
    partition ∈ builder.partitions ∨ ∃ text, call.Uses builder text partition.name := by
  cases call with
  | step action =>
      obtain present | ⟨next, performed, present⟩ := of_getD (partition ∈ ·.partitions) member
      · exact .inl present
      cases action with
      | addString text =>
          obtain ⟨⟨offset, stored⟩, added, final⟩ := Fallible.bind_eq_ok.mp performed
          cases final
          exact .inl ((adds_of_addString added).partitions ▸ present)
      | addElements target values name =>
          obtain ⟨spec, resolved, added⟩ := Fallible.bind_eq_ok.mp performed
          obtain ⟨_, _, last, partitions, _⟩ := interns.addElements added
          obtain earlier | rfl := mem_partitions_concat partitions present
          · exact .inl earlier
          · exact .inr ⟨_, .elements resolved added partitions⟩
  | addPartition name entrySize data cardinality =>
      obtain present | ⟨next, added, present⟩ := of_getD (partition ∈ ·.partitions) member
      · exact .inl present
      obtain ⟨_, _, last, partitions, _⟩ := interns.addPartition added
      obtain earlier | rfl := mem_partitions_concat partitions present
      · exact .inl earlier
      · exact .inr ⟨_, .partition added partitions⟩
  | build options =>
      rw [BuilderCall.after, partitions_after_addString] at member
      exact .inl member

/-- Every partition at the end of a run is named by a text that the run used. -/
theorem exists_used_of_mem_partitions
    {calls : List BuilderCall}
    {partition : PendingPartition}
    (member : partition ∈ (empty.afterAll calls).partitions) :
    ∃ text, empty.Used calls text partition.name := by
  induction calls using List.reverseRecOn with
  | nil => exact absurd member List.not_mem_nil
  | append_singleton earlier call inductionHypothesis =>
      rw [afterAll_concat] at member
      obtain present | ⟨text, uses⟩ :=
        uses_of_mem_partitions (interns_empty.afterAll earlier).1 member
      · obtain ⟨text, used⟩ := inductionHypothesis present
        exact ⟨text, used.append _⟩
      · exact ⟨text, earlier, call, [], rfl, uses⟩

/-- Writing a container at the end of a run leaves the builder with the source path. -/
theorem afterAll_build
    {calls : List BuilderCall}
    {options : BuildOptions}
    {sourcePath : Nat}
    {complete : Builder}
    (added : (empty.afterAll calls).addString options.sourcePath = .ok (sourcePath, complete)) :
    empty.afterAll (calls ++ [.build options]) = complete := by
  rw [afterAll_concat, BuilderCall.after, added]
  rfl

/-- Writing a container adds no partition. -/
theorem partitions_afterAll_build
    (builder : Builder)
    (calls : List BuilderCall)
    (options : BuildOptions) :
    (builder.afterAll (calls ++ [.build options])).partitions =
      (builder.afterAll calls).partitions := by
  rw [afterAll_concat, BuilderCall.after, partitions_after_addString]

/-- Where a container comes from a run of a builder, every text that was given to the
builder is read back from the offset that was answered or used for it, up to its first null
character, whatever happened before or after. The builder answers this offset for the text
ever after, and for no other text, and it is zero for the empty text alone. The source path
and the names of the table of contents are among these offsets. -/
theorem texts_read_back
    {calls : List BuilderCall}
    {options : BuildOptions}
    {bytes : List UInt8}
    (built : (empty.afterAll calls).build options = .ok bytes)
    {environment : Option Nat}
    {opened : Container}
    (loaded : (Container.load (.of bytes .bytes) environment).1 = .ok opened) :
    (∀ text offset, empty.Used (calls ++ [.build options]) text offset →
      ((Query.stringAt offset).on opened).1 = .ok (Symbol.beforeNul text) ∧
      (Symbol.NulFree text → ((Query.stringAt offset).on opened).1 = .ok text) ∧
      (offset = 0 ↔ text = "") ∧
      (∀ other place, empty.Used (calls ++ [.build options]) other place →
        (text = other ↔ offset = place)) ∧
      ∀ earlier later, calls ++ [.build options] = earlier ++ later →
        empty.Used earlier text offset →
          (empty.afterAll earlier).addString text = .ok (offset, empty.afterAll earlier)) ∧
    empty.Used (calls ++ [.build options]) options.sourcePath opened.header.sourcePath ∧
    ∀ summary ∈ storedSummaries bytes, ∃ text, empty.Used calls text summary.name := by
  obtain ⟨sourcePath, complete, image, added, writes, path, written⟩ :=
    exists_image_of_build built
  obtain rfl := eq_image_of_signed written (accepted_of_load loaded).1
  have stores := Container.stores_of_load loaded
  have final := afterAll_build added
  have interns : complete.Interns := by
    rw [← final]
    exact (interns_empty.afterAll _).1
  have known : ∀ text offset, empty.Used (calls ++ [.build options]) text offset →
      complete.offsets.find? text = some offset := by
    intro text offset used
    rw [← final]
    exact used.find?_eq interns_empty
  have read : ∀ text offset, empty.Used (calls ++ [.build options]) text offset →
      ((Query.stringAt offset).on opened).1 = .ok (Symbol.beforeNul text) := by
    intro text offset used
    rw [Query.stringAt, Query.on_get_bind, Query.on_ofExcept, stores.header, stores.blob]
    exact writes.fits.tableText_eq_beforeNul writes.strings
      (interns.texts text offset (known text offset used))
  refine ⟨fun text offset used => ⟨read text offset used, fun nulFree => ?_, ⟨?_, ?_⟩,
    fun other place usedOther => ⟨?_, ?_⟩, fun earlier later _ usedEarlier => ?_⟩, ?_, ?_⟩
  · rw [read text offset used, nulFree.beforeNul_eq]
  · rintro rfl
    exact interns.apart text "" 0 (known text 0 used) interns.empty
  · rintro rfl
    exact Option.some.inj ((known "" offset used).symm.trans interns.empty)
  · rintro rfl
    exact Option.some.inj ((known text offset used).symm.trans (known text place usedOther))
  · rintro rfl
    exact interns.apart text other offset (known text offset used)
      (known other offset usedOther)
  · rw [addString, usedEarlier.find?_eq interns_empty]
  · have place : opened.header.sourcePath = sourcePath := by
      rw [stores.header]
      exact writes.fits.describes.sourcePath.trans path
    rw [place]
    exact ⟨calls, .build options, [], rfl, .sourcePath added⟩
  · intro summary member
    rw [writes.fits.storedSummaries_eq, writes.summaries] at member
    obtain ⟨partition, present, _, rfl, _⟩ := exists_of_mem_summariesFrom member
    rw [(adds_of_addString added).partitions] at present
    exact exists_used_of_mem_partitions present

/-- A text with a null character, something that fails, a partition that is named by the
text, and a container that is written on the way. -/
def nulNamed : List BuilderCall := [
  .step (.addString "a\x00b"),
  .step (.addElements (.loose "R") [] none),
  .addPartition "a\x00b" 1 [7] none,
  .build { unchecked with sourcePath := "p" }]

/-- The bytes of the container that is written at the end, with another source path. -/
def nulNamedData : List UInt8 :=
  Dimensions.signature ++ List.replicate 32 0 ++
    [0, 43, 0, 0, 18, 21, 3, 0, 76, 0, 0, 0, 9, 0, 0, 0] ++ List.replicate 4 0 ++
    [7, 0, 0, 0] ++ List.replicate 4 0 ++ [86, 0, 0, 0, 1, 0, 0, 0, 0, 0, 0, 0] ++
    [0, 97, 0, 98, 0, 112, 0, 97, 0] ++ [7] ++
    [1, 0, 0, 0, 85, 0, 0, 0, 1, 0, 0, 0, 1, 0, 0, 0]

theorem texts_read_back_nulNamed :
    ∃ opened,
      (empty.afterAll nulNamed).build { unchecked with sourcePath := "a" } = .ok nulNamedData ∧
      (Container.load (.of nulNamedData .bytes) none).1 = .ok opened ∧
      Symbol.beforeNul "a\x00b" = "a" ∧
      ((Query.stringAt 1).on opened).1 = .ok (Symbol.beforeNul "a\x00b") ∧
      ((Query.stringAt 7).on opened).1 = .ok "a" := by
  have built : (empty.afterAll nulNamed).build { unchecked with sourcePath := "a" } =
      .ok nulNamedData := rfl
  obtain ⟨opened, loaded⟩ : ∃ opened,
      (Container.load (.of nulNamedData .bytes) none).1 = .ok opened := ⟨_, rfl⟩
  obtain ⟨read, _⟩ := texts_read_back built loaded
  have first : empty.Used (nulNamed ++ [.build { unchecked with sourcePath := "a" }])
      "a\x00b" 1 := ⟨[], _, _, rfl, .text rfl⟩
  have last : empty.Used (nulNamed ++ [.build { unchecked with sourcePath := "a" }])
      "a" 7 := ⟨nulNamed, _, [], rfl, .sourcePath rfl⟩
  exact ⟨opened, built, loaded, by decide, (read _ _ first).1,
    (read _ _ last).2.1 (by decide)⟩

end Builder
end ModuleInterface

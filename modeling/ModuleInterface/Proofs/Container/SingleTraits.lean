import Mathlib
import ModuleInterface.Proofs.Container.Attributes
import ModuleInterface.Proofs.Fault

/-!
# Single traits of declarations

Each of three traits has a partition of its own, whose records are gathered into a table. A
record replaces what an earlier one attached to its declaration, so that a table holds the
trait of the last record of each (`AssociationTable.find?_foldl_putTrait`). A partition whose
elements have another size leaves no table, and the container as it was. What is asked of
one trait makes no difference to any other (`Query.Steady.undisturbed`).
-/

namespace ModuleInterface

open Acceptance

/-- A declaration and a single trait of it. -/
structure TraitRecord where
  declaration : TaggedIndex
  trait : Value
  deriving Repr

namespace TraitRecord

/-- The record of a single trait as it is read. -/
def value (kind : SingleTrait) (record : TraitRecord) : Value :=
  .record kind.spec.element.label
    [("decl", .tagged record.declaration), ("trait", record.trait)]

/-- The trait of the last record of a declaration, if it has a record. -/
def last? (records : List TraitRecord) (declaration : Value) : Option Value :=
  (records.filter fun record =>
    (Value.tagged record.declaration).same declaration).getLast?.map trait

end TraitRecord

namespace SingleTrait

/-- The trait that is stored at an offset: the offset of a text, or a range. -/
def traitAt (kind : SingleTrait) (data : List UInt8) (offset : Nat) : Value :=
  match kind with
  | .deprecation => .plain (.text (quadAt data offset))
  | .friendship => Sequence.value ⟨quadAt data offset, quadAt data (offset + 4)⟩
  | .specialization => Sequence.value ⟨quadAt data offset, quadAt data (offset + 4)⟩

/-- The record that is stored at an offset: a declaration and then its trait. -/
def recordAt (kind : SingleTrait) (data : List UInt8) (offset : Nat) : TraitRecord :=
  ⟨.ofWord .decl (quadAt data offset), kind.traitAt data (offset + 4)⟩

/-- The number of bytes of a record. -/
def recordSize : SingleTrait → Nat
  | .deprecation => 8
  | .friendship => 12
  | .specialization => 12

theorem size_element (kind : SingleTrait) : kind.spec.element.size = kind.recordSize := by
  cases kind <;> rfl

theorem isTotal_element (kind : SingleTrait) : kind.spec.element.isTotal := by
  cases kind <;> rfl

/-- A declaration and a range are read as their three words are stored. -/
theorem decode_declaredRange
    (name : String)
    (data : List UInt8)
    (offset : Nat) :
    Schema.decode ⟨name, ["decl", "trait"], [Catalogue.Fields.decl, .sequence]⟩
        ((data.drop offset).take 12) =
      .record name [("decl", .tagged (.ofWord .decl (quadAt data offset))),
        ("trait", Sequence.value ⟨quadAt data (offset + 4), quadAt data (offset + 4 + 4)⟩)] := by
  have declaration := decode_take_four_window data offset 12 0 (by decide)
  have start := decode_take_four_window data offset 12 4 (by decide)
  have cardinality := decode_take_four_window data offset 12 (4 + 4) (by decide)
  rw [← List.drop_drop, ← Nat.add_assoc] at cardinality
  rw [Nat.add_zero] at declaration
  rw [← declaration, ← start, ← cardinality]
  rfl

/-- A record is read as its words are stored. -/
theorem decode_element
    (kind : SingleTrait)
    (data : List UInt8)
    (offset : Nat) :
    kind.spec.element.decode ((data.drop offset).take kind.recordSize) =
      (kind.recordAt data offset).value kind := by
  cases kind with
  | deprecation =>
      have declaration := decode_take_four_window data offset 8 0 (by decide)
      have text := decode_take_four_window data offset 8 4 (by decide)
      rw [Nat.add_zero] at declaration
      rw [recordAt, traitAt, ← declaration, ← text]
      rfl
  | friendship => exact decode_declaredRange "FriendshipTrait" data offset
  | specialization => exact decode_declaredRange "SpecializationTrait" data offset

end SingleTrait

namespace AssociationTable

/-- A gathered table holds the trait of the last record of each declaration. -/
theorem find?_foldl_putTrait
    (kind : SingleTrait)
    (records : List TraitRecord)
    (key : Designation) :
    Bindings.find? ((records.map (TraitRecord.value kind)).foldl putTrait []) key =
      (records.filter fun record => record.declaration.designation = key).getLast?.map
        TraitRecord.trait := by
  -- The last record comes after all others, and binds its declaration again.
  induction records using List.reverseRecOn with
  | nil => rfl
  | append_singleton earlier record inductionHypothesis =>
      have put : ∀ table, putTrait table (record.value kind) =
          Bindings.bind record.declaration.designation record.trait table :=
        fun _ => rfl
      rw [List.map_append, List.map_singleton, List.foldl_append, List.foldl_cons,
        List.foldl_nil, put, Bindings.find?_bind, inductionHypothesis, List.filter_append]
      by_cases same : record.declaration.designation = key
      · simp [same]
      · simp [same]

/-- A gathered table answers as the last record of a declaration does. -/
theorem attached?_foldl_putTrait
    (kind : SingleTrait)
    {records : List TraitRecord}
    (whole : ∀ record ∈ records, record.declaration.fractionalSort? = none)
    (declaration : Value) :
    attached? ((records.map (TraitRecord.value kind)).foldl putTrait []) declaration =
      TraitRecord.last? records declaration := by
  have same : ∀ record ∈ records, (Value.tagged record.declaration).same declaration =
      decide (declaration.designation? = some record.declaration.designation) :=
    fun record listed => Value.same_tagged (whole record listed) declaration
  rw [TraitRecord.last?, List.filter_congr same]
  cases designated : declaration.designation? with
  | none => simp [attached?, designated]
  | some key =>
      have gathered := find?_foldl_putTrait kind records key
      simpa [attached?, designated, eq_comm] using gathered

end AssociationTable

namespace Query

variable {made : List PartitionSpec}

/-- A single trait of a declaration is that of the table that gathering makes, whatever the
container remembers. -/
theorem on_traitOf
    {container : Container}
    (remembers : container.Remembers made)
    (kind : SingleTrait)
    (declaration : Value) :
    ((traitOf kind declaration).on container).1 = do
      let records ← container.recordsOf kind.spec
      declaration.requireKey
      return ((records.foldl AssociationTable.putTrait []).attached? declaration).getD
        kind.absent := by
  rw [outcome_traitOf, (memo_traits kind).outcome remembers, gatherTraits, on_map, on_records]
  cases container.recordsOf kind.spec with
  | error fault => rfl
  | ok records => rfl

end Query

namespace Container

variable {container opened : Container} {data : List UInt8} {backing : Backing}
  {made : List PartitionSpec}

/-- The records of a single trait that a container stores, none if it has no partition for
them. -/
def traitRecords (container : Container) (kind : SingleTrait) : List TraitRecord :=
  match container.summary? kind.spec.name with
  | none => []
  | some summary => (List.range summary.cardinality).map fun position =>
      kind.recordAt container.blob.bytes.toList (summary.offset + position * kind.recordSize)

/-- A stored record comes from a place in the bytes. -/
theorem exists_recordAt_of_mem_traitRecords
    {kind : SingleTrait}
    {record : TraitRecord}
    (listed : record ∈ container.traitRecords kind) :
    ∃ offset, record = kind.recordAt container.blob.bytes.toList offset := by
  unfold traitRecords at listed
  split at listed
  · cases listed
  · obtain ⟨position, _, rfl⟩ := List.mem_map.mp listed
    exact ⟨_, rfl⟩

/-- Where the size of the elements is right, the partition of a single trait has the
records that its bytes store. -/
theorem decoded_spec
    (container : Container)
    (kind : SingleTrait) :
    container.decoded kind.spec =
      (container.traitRecords kind).map (TraitRecord.value kind) := by
  rw [decoded, traitRecords]
  cases container.summary? kind.spec.name with
  | none => rfl
  | some summary =>
      simp only [List.map_map, SingleTrait.size_element]
      apply List.map_congr_left
      intro position _
      exact kind.decode_element _ _

/-- A declaration has the trait of its last record, and the empty one if it has none. -/
theorem traitOf_of_agreesWith
    (stores : opened.Stores data backing)
    (shared : container.SharesTables opened)
    (remembers : container.Remembers made)
    {kind : SingleTrait}
    (agrees : container.AgreesWith kind.spec)
    {declaration : Value}
    (key : declaration.requireKey = .ok ()) :
    ((Query.traitOf kind declaration).on container).1 =
      .ok ((TraitRecord.last? (container.traitRecords kind) declaration).getD kind.absent) := by
  have whole : ∀ record ∈ container.traitRecords kind,
      record.declaration.fractionalSort? = none := by
    intro record listed
    obtain ⟨offset, rfl⟩ := exists_recordAt_of_mem_traitRecords listed
    exact TaggedIndex.fractionalSort?_ofWord _ _
  rw [Query.on_traitOf remembers,
    recordsOf_of_agreesWith stores shared kind.isTotal_element agrees, decoded_spec,
    Fallible.ok_bind, key, Fallible.ok_bind,
    AssociationTable.attached?_foldl_putTrait kind whole]
  rfl

/-- If the partition of a single trait is present with elements of another size, every
query for the trait fails, whatever was asked before, and changes nothing. -/
theorem traitOf_of_not_agreesWith
    (remembers : container.Remembers made)
    {kind : SingleTrait}
    (disagrees : ¬container.AgreesWith kind.spec) :
    ∃ fault, fault.kind = .reader .schemaMismatch ∧
      ∀ declaration, (Query.traitOf kind declaration).on container =
        (.error fault, container) := by
  obtain ⟨found, refused⟩ := recordsOf_of_not_agreesWith disagrees
  have gathered : ((Query.gatherTraits kind).on container).1 =
      .error (.elementSizeDisagrees kind.spec.name kind.spec.element.label
        kind.spec.element.size found) := by
    rw [Query.gatherTraits, Query.on_map, Query.on_records, refused]
    rfl
  have memo : Query.Memo made (Query.traitTable kind) _ _ _ := Query.memo_traits kind
  -- A table that is remembered would have been gathered.
  have unremembered : container.traits.find? kind = none := by
    cases remembered : container.traits.find? kind with
    | none => rfl
    | some table =>
        have right := memo.right container remembers table remembered
        rw [gathered] at right
        cases right
  have failed := memo.on_of_none unremembered
  rw [gathered] at failed
  refine ⟨.elementSizeDisagrees kind.spec.name kind.spec.element.label
    kind.spec.element.size found, rfl, ?_⟩
  intro declaration
  rw [Query.traitOf, Query.on_bind, failed]

/-! ## Texts of deprecated declarations -/

/-- The text offset of a deprecated declaration has four bytes. -/
theorem exists_offset_of_last?
    (container : Container)
    (declaration : Value) :
    ∃ offset : Nat, offset < 4294967296 ∧
      (TraitRecord.last? (container.traitRecords .deprecation) declaration).getD
        (SingleTrait.absent .deprecation) = .plain (.text offset) := by
  cases last : TraitRecord.last? (container.traitRecords .deprecation) declaration with
  | none => exact ⟨0, by decide, rfl⟩
  | some trait =>
      obtain ⟨record, found, rfl⟩ := Option.map_eq_some_iff.mp last
      have listed := List.mem_of_mem_filter (List.mem_of_getLast? found)
      obtain ⟨offset, rfl⟩ := exists_recordAt_of_mem_traitRecords listed
      exact ⟨_, quadAt_lt _ _, rfl⟩

/-- The text of a deprecated declaration is looked up at the offset that its trait is. -/
theorem outcome_deprecationText
    (remembers : container.Remembers made)
    (declaration : Value) :
    ((Query.deprecationText declaration).on container).1 =
      ((Query.traitOf .deprecation declaration).on container).1 >>= fun trait =>
        trait.toInteger >>= fun offset =>
          ((Query.optionalStringAt offset).on container).1 := by
  have looksUp : ∀ trait : Value,
      ((do Query.optionalStringAt (← ofExcept trait.toInteger) : Query _).on container).1 =
        trait.toInteger >>= fun offset => ((Query.optionalStringAt offset).on container).1 := by
    intro trait
    rw [(Query.Reads.ofOutcome _).on_bind, Query.on_ofExcept]
    cases trait.toInteger <;> rfl
  have steady : Query.Steady made (Query.traitOf .deprecation declaration) := .traitOf _ _
  rw [Query.deprecationText, steady.outcome_bind _ remembers]
  · simp only [looksUp]
  · intro trait
    exact ((Query.Reads.ofOutcome _).bind fun _ => .optionalStringAt _).steady

/-- Where there is no text at an offset that four bytes store, the offset can be shown, so
that it is refused as out of range. -/
theorem Stores.kind_shown_of_stringAt
    (stores : opened.Stores data backing)
    (shared : container.SharesTables opened)
    {offset : Nat}
    (bounded : offset < 4294967296)
    {fault : Fault}
    (failed : ((Query.stringAt offset).on container).1 = .error fault) :
    fault.shown.kind = .outOfRange := by
  rw [Query.outcome_stringAt, shared.header, stores.header, shared.blob, stores.blob] at failed
  by_cases inside : offset < tableSize data
  · rw [Acceptance.tableText_eq backing stores.sized.table inside] at failed
    cases failed
  · have outside : ¬(0 ≤ (offset : Int) ∧ (offset : Int) < tableSize data) := by omega
    rw [tableText, stringTableSize_storedHeader, if_neg outside] at failed
    split at failed
    · cases failed
    · cases failed
      rw [Fault.kind_shown_of_number rfl rfl, if_pos (Numeral.isPrintable_of_lt bounded)]

/-- What a container answers of the text of a declaration that is deprecated with the text
at an offset. -/
structure DeprecatesAt (container : Container) (declaration : Value) (offset : Nat) :
    Prop where
  /-- The trait is the offset. -/
  trait : ((Query.traitOf .deprecation declaration).on container).1 =
    .ok (.plain (.text offset))
  /-- There is no text exactly at the null offset. -/
  null : ((Query.deprecationText declaration).on container).1 = .ok none ↔ offset = 0
  /-- At any other offset it is the text of the string table, or the fault that there is
  none. -/
  text : offset ≠ 0 →
    ((Query.deprecationText declaration).on container).1 =
      ((Query.stringAt offset).on container).1.map some
  /-- An offset outside the string table is refused as out of range. -/
  fault : ∀ fault, ((Query.deprecationText declaration).on container).1 = .error fault →
    fault.shown.kind = .outOfRange

/-- A deprecated declaration has the text at the offset that its last record has. -/
theorem exists_deprecatesAt
    (stores : opened.Stores data backing)
    (shared : container.SharesTables opened)
    (remembers : container.Remembers made)
    (agrees : container.AgreesWith (SingleTrait.spec .deprecation))
    {declaration : Value}
    (key : declaration.requireKey = .ok ()) :
    ∃ offset, container.DeprecatesAt declaration offset := by
  obtain ⟨offset, bounded, last⟩ := exists_offset_of_last? container declaration
  have trait := traitOf_of_agreesWith stores shared remembers agrees key
  rw [last] at trait
  have text : ((Query.deprecationText declaration).on container).1 =
      if (offset : Int) = 0 then .ok none
      else ((Query.stringAt offset).on container).1.map some := by
    rw [outcome_deprecationText remembers, trait, Fallible.ok_bind, Value.toInteger_plain,
      Fallible.ok_bind, Query.outcome_optionalStringAt]
    rfl
  refine ⟨offset, trait, ?_, ?_, ?_⟩
  · by_cases null : offset = 0
    · simp [text, null]
    · have notNull : ¬(offset : Int) = 0 := by omega
      rw [text, if_neg notNull]
      cases ((Query.stringAt offset).on container).1 <;> simp [Except.map, null]
  · intro notNull
    rw [text, if_neg (by omega)]
  · intro fault failed
    rw [text] at failed
    split at failed
    · cases failed
    · cases read : ((Query.stringAt offset).on container).1 with
      | ok found =>
          rw [read] at failed
          cases failed
      | error cause =>
          rw [read] at failed
          cases failed
          exact stores.kind_shown_of_stringAt shared bounded read

/-- If the partition of deprecations is present with elements of another size, there is no
text either. -/
theorem deprecationText_of_not_agreesWith
    (remembers : container.Remembers made)
    (disagrees : ¬container.AgreesWith (SingleTrait.spec .deprecation)) :
    ∃ fault, fault.kind = .reader .schemaMismatch ∧
      ∀ declaration, ((Query.deprecationText declaration).on container).1 = .error fault := by
  obtain ⟨fault, kind, refused⟩ := traitOf_of_not_agreesWith remembers disagrees
  refine ⟨fault, kind, ?_⟩
  intro declaration
  rw [outcome_deprecationText remembers, refused]
  rfl

end Container
end ModuleInterface

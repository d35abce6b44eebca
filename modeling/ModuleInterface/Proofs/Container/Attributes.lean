import Mathlib
import ModuleInterface.Proofs.Container.Answers
import ModuleInterface.Proofs.Container.Bounds

/-!
# Attributes of declarations

Two partitions store attributes of declarations, one after the other gathered into one
table. What the table attaches to a declaration is what a look at each stored pair would
find, in the order of the pairs (`getD_find?_foldl_addAttribute`). A partition whose
elements have another size leaves no table, so that the failure is the same each time.
-/

namespace ModuleInterface

open Acceptance

/-- An index that is read from bytes is equal to whatever designates the same. -/
theorem Value.same_tagged
    {stored : TaggedIndex}
    (whole : stored.fractionalSort? = none)
    (declaration : Value) :
    (Value.tagged stored).same declaration =
      decide (declaration.designation? = some stored.designation) := by
  cases declaration with
  | tagged index =>
      change stored.same index = _
      cases fraction : index.fractionalSort? with
      | none =>
          simp [TaggedIndex.same, Value.designation?, whole, fraction, eq_comm, beq_eq_decide]
      | some bits => simp [TaggedIndex.same, Value.designation?, whole, fraction]
  | floating index =>
      change index.sameTagged stored = _
      rw [Bool.eq_iff_iff, decide_eq_true_iff]
      exact ⟨FloatingIndex.designation?_of_sameTagged whole,
        FloatingIndex.sameTagged_of_designation? whole⟩
  | _ => rfl

/-! ## Associations -/

/-- A declaration and an attribute of it. -/
structure Association where
  declaration : TaggedIndex
  attached : TaggedIndex
  deriving DecidableEq, Repr

namespace Association

/-- The association that two words store. -/
def ofWords (declaration attached : Nat) : Association :=
  ⟨.ofWord .decl declaration, .ofWord .attr attached⟩

/-- The record of an association. -/
def record (association : Association) : Value :=
  .record "AttributeTrait"
    [("decl", .tagged association.declaration), ("trait", .tagged association.attached)]

/-- The attributes of a declaration, in the order of the associations. -/
def attributesOf (associations : List Association) (declaration : Value) : List TaggedIndex :=
  (associations.filter fun association =>
    (Value.tagged association.declaration).same declaration).map attached

theorem attributesOf_append
    (earlier later : List Association)
    (declaration : Value) :
    attributesOf (earlier ++ later) declaration =
      attributesOf earlier declaration ++ attributesOf later declaration := by
  simp [attributesOf]

/-- The associations that are stored in a partition. -/
def stored (data : List UInt8) (summary : Summary) : List Association :=
  (List.range summary.cardinality).map fun position =>
    ofWords (quadAt data (summary.offset + position * 8))
      (quadAt data (summary.offset + position * 8 + 4))

@[simp] theorem length_stored
    (data : List UInt8)
    (summary : Summary) :
    (stored data summary).length = summary.cardinality := by
  simp [stored]

/-- Declarations that are read from bytes are equal when they are the same index. -/
theorem same_ofWords
    (word attached other otherAttached : Nat) :
    (Value.tagged (ofWords word attached).declaration).same
        (.tagged (ofWords other otherAttached).declaration) =
      decide ((ofWords word attached).declaration = (ofWords other otherAttached).declaration) := by
  have whole : (ofWords word attached).declaration.fractionalSort? = none := rfl
  rw [Value.same_tagged whole]
  simp [Value.designation?, ofWords, TaggedIndex.ofWord, TaggedIndex.designation,
    TaggedIndex.fractionalSort?, SortSpelling.fractional?, eq_comm]

/-- Counting the attributes of each declaration once counts every association. -/
theorem sum_length_attributesOf
    {associations : List Association}
    (read : ∀ association ∈ associations, ∃ word attached,
      association = ofWords word attached) :
    ((associations.map declaration).dedup.map fun occurring =>
      (attributesOf associations (.tagged occurring)).length).sum = associations.length := by
  have counted : ∀ occurring ∈ (associations.map declaration).dedup,
      (attributesOf associations (.tagged occurring)).length =
        (associations.map declaration).count occurring := by
    intro occurring occurs
    obtain ⟨origin, member, rfl⟩ := List.mem_map.mp (List.mem_dedup.mp occurs)
    obtain ⟨word, attached, rfl⟩ := read origin member
    rw [attributesOf, List.length_map, List.count, List.countP_map,
      List.countP_eq_length_filter]
    congr 1
    refine List.filter_congr fun association listed => ?_
    obtain ⟨other, otherAttached, rfl⟩ := read association listed
    rw [same_ofWords, Function.comp_apply, beq_eq_decide]
  rw [List.map_congr_left counted, List.sum_map_count_dedup_eq_length, List.length_map]

end Association

namespace AssociationTable

/-- What a gathered table attaches to a declaration is what was attached before, and then
what each association attaches to it in turn. -/
theorem getD_find?_foldl_addAttribute
    (associations : List Association)
    (table : AssociationTable (List TaggedIndex))
    (key : Designation) :
    (Bindings.find? ((associations.map Association.record).foldl addAttribute table) key).getD
        [] =
      (Bindings.find? table key).getD [] ++
        (associations.filter fun association =>
          association.declaration.designation = key).map Association.attached := by
  induction associations generalizing table with
  | nil => simp
  | cons association rest inductionHypothesis =>
      have added : addAttribute table association.record =
          Bindings.update association.declaration.designation
            (fun earlier => earlier.getD [] ++ [association.attached]) table := rfl
      rw [List.map_cons, List.foldl_cons, inductionHypothesis, added]
      by_cases same : association.declaration.designation = key
      · subst same
        simp [Bindings.find?_update_self]
      · simp [Bindings.find?_update_of_ne _ same, same]

/-- A gathered table answers as the associations do. -/
theorem attached?_foldl_addAttribute
    {associations : List Association}
    (read : ∀ association ∈ associations, ∃ word attached,
      association = .ofWords word attached)
    (declaration : Value) :
    (attached? ((associations.map Association.record).foldl addAttribute [])
      declaration).getD [] = Association.attributesOf associations declaration := by
  have same : ∀ association ∈ associations,
      (Value.tagged association.declaration).same declaration =
        decide (declaration.designation? = some association.declaration.designation) := by
    intro association listed
    obtain ⟨word, attached, rfl⟩ := read association listed
    exact Value.same_tagged (TaggedIndex.fractionalSort?_ofWord _ _) declaration
  rw [Association.attributesOf, List.filter_congr same]
  cases designated : declaration.designation? with
  | none => simp [attached?, designated]
  | some key =>
      have gathered := getD_find?_foldl_addAttribute associations [] key
      simpa [attached?, designated, eq_comm] using gathered

end AssociationTable

/-! ## Gathering -/

namespace Container

/-- The records of the partition of a specification, none if it is absent. -/
def recordsOf (container : Container) (spec : PartitionSpec) : Except Fault (List Value) := do
  match ← container.findPartition spec spec.name with
  | none => return []
  | some view => view.list container.blob

/-- The associations of the partition of a name, none if it is absent. -/
def associations (container : Container) (name : String) : List Association :=
  match container.summary? name with
  | none => []
  | some summary => Association.stored container.blob.bytes.toList summary

/-- The number of elements of the partition of a name, zero if it is absent. -/
def cardinality (container : Container) (name : String) : Nat :=
  match container.summary? name with
  | none => 0
  | some summary => summary.cardinality

theorem length_associations
    (container : Container)
    (name : String) :
    (container.associations name).length = container.cardinality name := by
  unfold associations cardinality
  cases container.summary? name with
  | none => rfl
  | some summary => exact Association.length_stored _ summary

theorem eq_ofWords_of_mem_associations
    {container : Container}
    {name : String} :
    ∀ association ∈ container.associations name, ∃ word attached,
      association = .ofWords word attached := by
  intro association member
  unfold associations at member
  split at member
  · contradiction
  · obtain ⟨position, _, rfl⟩ := List.mem_map.mp member
    exact ⟨_, _, rfl⟩

/-- The record that eight bytes store in a partition of attributes. -/
theorem decode_attributeTrait
    (data : List UInt8)
    (offset : Nat) :
    (Element.record Catalogue.attributeTrait).decode ((data.drop offset).take 8) =
      (Association.ofWords (quadAt data offset) (quadAt data (offset + 4))).record := by
  have first := decode_take_four_window data offset 8 0 (by decide)
  have second := decode_take_four_window data offset 8 4 (by decide)
  rw [Nat.add_zero] at first
  rw [← first, ← second]
  rfl

theorem size_attributeTrait : (Element.record Catalogue.attributeTrait).size = 8 := rfl

/-- Both sources consist of the same records. -/
theorem element_of_mem_attributeSources
    {spec : PartitionSpec}
    (source : spec ∈ Catalogue.attributeSources) :
    spec.element = .record Catalogue.attributeTrait := by
  simp only [Catalogue.attributeSources, List.mem_cons, List.not_mem_nil, or_false] at source
  obtain rfl | rfl := source
  · rfl
  · rfl

/-- What the elements of the partition of a specification are decoded to, none if it is
absent. -/
def decoded (container : Container) (spec : PartitionSpec) : List Value :=
  match container.summary? spec.name with
  | none => []
  | some summary => (List.range summary.cardinality).map fun position =>
      spec.element.decode ((container.blob.bytes.toList.drop
        (summary.offset + position * spec.element.size)).take spec.element.size)

/-- The elements of the partition of a specification, if it is present, have the size that
the specification gives them. -/
def AgreesWith (container : Container) (spec : PartitionSpec) : Prop :=
  ∀ summary, container.summary? spec.name = some summary →
    summary.entrySize = spec.element.size

variable {container opened : Container} {data : List UInt8} {backing : Backing}

/-- The entry that names a partition decides whether its size is right. -/
theorem agreesWith_of_summary?
    {spec : PartitionSpec}
    {summary : Summary}
    (found : container.summary? spec.name = some summary)
    (agree : summary.entrySize = spec.element.size) :
    container.AgreesWith spec := by
  intro other listed
  obtain rfl := Option.some.inj (found.symm.trans listed)
  exact agree

/-- Where the size of the elements is right, there is a record for every run of bytes. -/
theorem recordsOf_of_agreesWith
    (stores : opened.Stores data backing)
    (shared : container.SharesTables opened)
    {spec : PartitionSpec}
    (total : spec.element.isTotal)
    (agrees : container.AgreesWith spec) :
    container.recordsOf spec = .ok (container.decoded spec) := by
  have blob : container.blob = .of data backing := shared.blob.trans stores.blob
  unfold recordsOf decoded
  cases found : container.summary? spec.name with
  | none =>
      rw [(findPartition_eq_none_iff container spec spec.name).mpr found]
      rfl
  | some summary =>
      obtain ⟨fits, inside⟩ := inside_of_summary? stores shared found (agrees summary found)
      have faithful := inside.faithful fits backing
      rw [findPartition_of_summary? spec found, if_pos (agrees summary found),
        Fallible.ok_bind, blob]
      refine faithful.listed.trans (Fallible.mapM_eq_ok_map fun position listed => ?_)
      rw [faithful.own position (List.mem_range.mp listed), Element.read_of_isTotal total]
      rfl

/-- Where the size of the elements is another, there are no records. -/
theorem recordsOf_of_not_agreesWith
    {spec : PartitionSpec}
    (disagrees : ¬container.AgreesWith spec) :
    ∃ found, container.recordsOf spec =
      .error (.elementSizeDisagrees spec.name spec.element.label spec.element.size found) := by
  unfold AgreesWith at disagrees
  push Not at disagrees
  obtain ⟨summary, found, other⟩ := disagrees
  refine ⟨summary.entrySize, ?_⟩
  rw [recordsOf, findPartition_of_summary? spec found, if_neg other]
  rfl

/-- Where the size of the elements is right, a partition of attributes has the records of
the associations that its bytes store. -/
theorem recordsOf_of_agrees
    (stores : opened.Stores data backing)
    (shared : container.SharesTables opened)
    {spec : PartitionSpec}
    (source : spec ∈ Catalogue.attributeSources)
    (agrees : ∀ summary, container.summary? spec.name = some summary →
      summary.entrySize = 8) :
    container.recordsOf spec =
      .ok ((container.associations spec.name).map Association.record) := by
  have element := element_of_mem_attributeSources source
  have size : spec.element.size = 8 := by rw [element, size_attributeTrait]
  have total : spec.element.isTotal := by
    rw [element]
    rfl
  have gathered : container.decoded spec =
      (container.associations spec.name).map Association.record := by
    rw [decoded, associations, size, element]
    cases container.summary? spec.name with
    | none => rfl
    | some summary =>
        change _ = (Association.stored _ summary).map Association.record
        rw [Association.stored, List.map_map]
        exact List.map_congr_left fun position _ => decode_attributeTrait _ _
  rw [recordsOf_of_agreesWith stores shared total fun summary found => by
    rw [size, agrees summary found], gathered]

/-- Where the size of the elements is another, there are no records. -/
theorem recordsOf_of_disagrees
    {spec : PartitionSpec}
    (source : spec ∈ Catalogue.attributeSources)
    {summary : Summary}
    (found : container.summary? spec.name = some summary)
    (disagrees : summary.entrySize ≠ 8) :
    container.recordsOf spec =
      .error (.elementSizeDisagrees spec.name "AttributeTrait" 8 summary.entrySize) := by
  rw [recordsOf, findPartition_of_summary? spec found, element_of_mem_attributeSources source,
    size_attributeTrait, if_neg disagrees]
  rfl

end Container

namespace Query

/-- The records of a partition are found in the table of contents each time. -/
theorem on_records
    (spec : PartitionSpec)
    (container : Container) :
    (records spec).on container = (container.recordsOf spec, container) := by
  rw [records, on_get_bind, on_bind, on_ofExcept, Container.recordsOf]
  cases container.findPartition spec spec.name with
  | error fault => rfl
  | ok found =>
      cases found with
      | none => rfl
      | some view =>
          change (ofExcept (view.list container.blob) : Query _).on container = _
          rw [on_ofExcept]
          rfl

theorem on_allRecords
    (specs : List PartitionSpec)
    (container : Container) :
    (allRecords specs).on container =
      ((specs.mapM container.recordsOf).map List.flatten, container) := by
  induction specs with
  | nil => rfl
  | cons spec rest inductionHypothesis =>
      rw [allRecords, on_bind, on_records, List.mapM_cons]
      cases container.recordsOf spec with
      | error fault => rfl
      | ok first =>
          simp only
          rw [on_bind, inductionHypothesis]
          cases rest.mapM container.recordsOf with
          | error fault => rfl
          | ok others => rfl

/-- The attributes of a declaration are those that gathering finds, whatever the container
remembers. -/
theorem on_attributesOf
    {container : Container}
    {made : List PartitionSpec}
    (remembers : container.Remembers made)
    (declaration : Value) :
    ((attributesOf declaration).on container).1 = do
      let gathered ← Catalogue.attributeSources.mapM container.recordsOf
      declaration.requireKey
      return ((gathered.flatten.foldl AssociationTable.addAttribute []).attached?
        declaration).getD [] := by
  rw [outcome_attributesOf, memo_attributes.outcome remembers, gatherAttributes, on_map,
    on_allRecords]
  cases Catalogue.attributeSources.mapM container.recordsOf with
  | error fault => rfl
  | ok lists => rfl

end Query

namespace Container

variable {container opened : Container} {data : List UInt8} {backing : Backing}
  {made : List PartitionSpec}

/-- The size of the elements of both sources is that of an association, where they are
present. -/
def AttributesAgree (container : Container) : Prop :=
  ∀ spec ∈ Catalogue.attributeSources, ∀ summary,
    container.summary? spec.name = some summary → summary.entrySize = 8

/-- The associations of both sources, those of the first before those of the second. -/
def allAssociations (container : Container) : List Association :=
  Catalogue.attributeSources.flatMap fun spec => container.associations spec.name

theorem eq_ofWords_of_mem_allAssociations :
    ∀ association ∈ container.allAssociations, ∃ word attached,
      association = .ofWords word attached := by
  intro association member
  obtain ⟨spec, _, listed⟩ := List.mem_flatMap.mp member
  exact eq_ofWords_of_mem_associations association listed

/-- The attributes of a declaration are those of the associations of both sources. -/
theorem attributesOf_of_agree
    (stores : opened.Stores data backing)
    (shared : container.SharesTables opened)
    (remembers : container.Remembers made)
    (agree : container.AttributesAgree)
    {declaration : Value}
    (key : declaration.requireKey = .ok ()) :
    ((Query.attributesOf declaration).on container).1 =
      .ok (Association.attributesOf container.allAssociations declaration) := by
  have gathered := Fallible.mapM_eq_ok_map fun spec source =>
    recordsOf_of_agrees stores shared source (agree spec source)
  have records : (Catalogue.attributeSources.map fun spec =>
      (container.associations spec.name).map Association.record).flatten =
        container.allAssociations.map Association.record := by
    rw [allAssociations, List.map_flatMap, List.flatMap_def]
  rw [Query.on_attributesOf remembers, gathered, Fallible.ok_bind, key, Fallible.ok_bind,
    records, AssociationTable.attached?_foldl_addAttribute eq_ofWords_of_mem_allAssociations]
  rfl

/-- If a source is present with elements of another size, every query for attributes fails,
whatever was asked before. -/
theorem attributesOf_of_disagree
    (stores : opened.Stores data backing)
    (shared : container.SharesTables opened)
    (remembers : container.Remembers made)
    (disagree : ¬container.AttributesAgree)
    (declaration : Value) :
    ∃ fault, ((Query.attributesOf declaration).on container).1 = .error fault ∧
      fault.kind = .reader .schemaMismatch := by
  have failing : ∀ spec ∈ Catalogue.attributeSources, ∀ fault,
      container.recordsOf spec = .error fault → fault.kind = .reader .schemaMismatch := by
    intro spec source fault failed
    by_cases agrees : ∀ summary, container.summary? spec.name = some summary →
        summary.entrySize = 8
    · rw [recordsOf_of_agrees stores shared source agrees] at failed
      contradiction
    · push Not at agrees
      obtain ⟨summary, found, other⟩ := agrees
      rw [recordsOf_of_disagrees source found other] at failed
      cases failed
      rfl
  unfold AttributesAgree at disagree
  push Not at disagree
  obtain ⟨spec, source, summary, found, other⟩ := disagree
  obtain ⟨first, listed, cause, caused, refused⟩ :=
    Fallible.exists_error_of_mapM source (recordsOf_of_disagrees source found other)
  refine ⟨cause, ?_, failing first listed cause caused⟩
  rw [Query.on_attributesOf remembers, refused]
  rfl

end Container
end ModuleInterface

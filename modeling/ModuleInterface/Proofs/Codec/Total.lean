import ModuleInterface.Catalogue.All

/-!
# Elements that every run of bytes holds

Reading an element fails where a strict enumeration does not have the stored number,
where an index leaves its kind open, and where a field has a name that belongs to every
record. These are the only causes. An element without any of the three is total: every
run of bytes holds one. All elements of the catalogue are total.
-/

namespace ModuleInterface

/-- Whether a fault is one of those that stored bytes are refused with. -/
def Fault.isRefusal : Fault → Bool
  | .notMember _ _ => true
  | .typeMemberAbsent _ _ => true
  | .shapeReplaced _ => true
  | .memberReadOnly _ _ => true
  | .setterReplaced _ => true
  | _ => false

/-- Bytes are refused for a value, a type or a member. -/
theorem Fault.kind_of_isRefusal
    {fault : Fault}
    (refusal : fault.isRefusal) :
    fault.kind = .badValue ∨ fault.kind = .wrongType ∨ fault.kind = .memberAbsent := by
  cases fault <;> simp_all [isRefusal, kind]

theorem Enumeration.isRefusal_of_refusal?
    {enumeration : Enumeration}
    {number : Nat}
    {fault : Fault}
    (refused : enumeration.refusal? number = some fault) :
    fault.isRefusal := by
  unfold refusal? at refused
  split at refused
  · contradiction
  · cases refused
    rfl

theorem IndexKind.isRefusal_of_refusal?
    {kind : IndexKind}
    {fault : Fault}
    (refused : kind.refusal? = some fault) :
    fault.isRefusal := by
  cases kind with
  | anyTagged =>
      cases refused
      rfl
  | tagged kind => contradiction
  | plain kind => contradiction

namespace Value

/-- Whether a record can hold a field of a name. -/
def isOrdinaryName (name : String) : Bool :=
  name != shapeMember && name != referenceMember && name != setterMember

theorem fieldRefusal?_eq_none
    {record : String}
    {field : String × Value}
    (ordinary : isOrdinaryName field.1) :
    fieldRefusal? record field = none := by
  simp only [isOrdinaryName, Bool.and_eq_true, bne_iff_ne, ne_eq] at ordinary
  simp [fieldRefusal?, ordinary]

/-- Fields with ordinary names make a record. -/
theorem recordRefusal?_eq_none
    {record : String}
    {fields : List (String × Value)}
    (ordinary : ∀ field ∈ fields, isOrdinaryName field.1) :
    recordRefusal? record fields = none := by
  have unset : fields.lookup setterMember = none := by
    rw [List.lookup_eq_none_iff]
    intro field member
    have name := ordinary field member
    simp only [isOrdinaryName, Bool.and_eq_true, bne_iff_ne, ne_eq] at name
    simpa using Ne.symm name.2
  rw [recordRefusal?, unset, List.findSome?_eq_none_iff]
  exact fun field member => fieldRefusal?_eq_none (ordinary field member)

theorem isRefusal_of_fieldRefusal?
    {record : String}
    {field : String × Value}
    {fault : Fault}
    (refused : fieldRefusal? record field = some fault) :
    fault.isRefusal := by
  unfold fieldRefusal? at refused
  split at refused
  · cases refused
    rfl
  · split at refused
    · cases refused
      rfl
    · contradiction

theorem isRefusal_of_recordRefusal?
    {record : String}
    {fields : List (String × Value)}
    {fault : Fault}
    (refused : recordRefusal? record fields = some fault) :
    fault.isRefusal := by
  unfold recordRefusal? at refused
  split at refused
  · cases refused
    rfl
  · obtain ⟨field, _, fieldRefused⟩ := List.exists_of_findSome?_eq_some refused
    exact isRefusal_of_fieldRefusal? fieldRefused

end Value

namespace Codec

mutual

/-- Whether a codec makes a value of whatever numbers it is given. -/
def isTotal : Codec → Bool
  | .member _ _ => false
  | .index kind => kind.refusal?.isNone
  | .nested _ fields layout => fields.all Value.isOrdinaryName && layoutIsTotal layout
  | _ => true

/-- Whether every codec of a layout makes a value of whatever numbers it is given. -/
def layoutIsTotal : List Codec → Bool
  | [] => true
  | codec :: rest => codec.isTotal && layoutIsTotal rest

end

/-- Fields that are named in a list have names of the list. -/
theorem ordinary_zip
    {fields : List String}
    (values : List Value)
    (ordinary : fields.all Value.isOrdinaryName) :
    ∀ field ∈ fields.zip values, Value.isOrdinaryName field.1 := by
  intro field member
  exact List.all_eq_true.mp ordinary field.1 (List.of_mem_zip member).1

mutual

/-- A total codec refuses no numbers. -/
theorem refusal?_eq_none
    (codec : Codec)
    (numbers : List Nat)
    (total : codec.isTotal) :
    codec.refusal? numbers = none := by
  cases codec with
  | member width enumeration => simp [isTotal] at total
  | index kind => simpa [isTotal, refusal?] using total
  | nested record fields layout =>
      simp only [isTotal, Bool.and_eq_true] at total
      obtain ⟨ordinary, layoutTotal⟩ := total
      rw [refusal?, layoutRefusal?_eq_none layout numbers layoutTotal, Option.none_or]
      exact Value.recordRefusal?_eq_none (ordinary_zip _ ordinary)
  | _ => simp [refusal?]

/-- A layout of total codecs refuses no numbers. -/
theorem layoutRefusal?_eq_none
    (layout : List Codec)
    (numbers : List Nat)
    (total : layoutIsTotal layout) :
    layoutRefusal? layout numbers = none := by
  cases layout with
  | nil => simp [layoutRefusal?]
  | cons codec rest =>
      simp only [layoutIsTotal, Bool.and_eq_true] at total
      rw [layoutRefusal?, refusal?_eq_none codec _ total.1, Option.none_or]
      exact layoutRefusal?_eq_none rest _ total.2

end

mutual

theorem isRefusal_of_refusal?
    (codec : Codec)
    (numbers : List Nat)
    {fault : Fault}
    (refused : codec.refusal? numbers = some fault) :
    fault.isRefusal := by
  cases codec with
  | member width enumeration =>
      rw [refusal?] at refused
      exact Enumeration.isRefusal_of_refusal? refused
  | index kind =>
      rw [refusal?] at refused
      exact IndexKind.isRefusal_of_refusal? refused
  | nested record fields layout =>
      rw [refusal?, Option.or_eq_some_iff] at refused
      obtain layoutRefused | ⟨_, recordRefused⟩ := refused
      · exact isRefusal_of_layoutRefusal? layout numbers layoutRefused
      · exact Value.isRefusal_of_recordRefusal? recordRefused
  | _ => simp [refusal?] at refused

theorem isRefusal_of_layoutRefusal?
    (layout : List Codec)
    (numbers : List Nat)
    {fault : Fault}
    (refused : layoutRefusal? layout numbers = some fault) :
    fault.isRefusal := by
  cases layout with
  | nil => simp [layoutRefusal?] at refused
  | cons codec rest =>
      rw [layoutRefusal?, Option.or_eq_some_iff] at refused
      obtain codecRefused | ⟨_, restRefused⟩ := refused
      · exact isRefusal_of_refusal? codec _ codecRefused
      · exact isRefusal_of_layoutRefusal? rest _ restRefused

end

end Codec

namespace Element

/-- Whether every run of bytes holds an element. -/
def isTotal : Element → Bool
  | .record schema => schema.codec.isTotal
  | .index kind => kind.refusal?.isNone
  | .sequence => true

/-- A total element is read from whatever bytes there are. -/
theorem read_of_isTotal
    {element : Element}
    (total : element.isTotal)
    (bytes : List UInt8) :
    element.read bytes = .ok (element.decode bytes) := by
  cases element with
  | record schema =>
      simp only [isTotal, Schema.codec, Codec.isTotal, Bool.and_eq_true] at total
      have unrefused : Codec.recordRefusal? schema.name schema.fields schema.layout bytes =
          none := by
        rw [Codec.recordRefusal?, Codec.layoutRefusal?_eq_none _ _ total.2, Option.none_or]
        exact Value.recordRefusal?_eq_none (Codec.ordinary_zip _ total.1)
      rw [read, Schema.read, unrefused]
      rfl
  | index kind =>
      have unrefused : kind.refusal? = none := by simpa [isTotal] using total
      rw [read, unrefused]
  | sequence => rfl

/-- Bytes that hold no element are refused with one of few faults. -/
theorem isRefusal_of_read
    {element : Element}
    {bytes : List UInt8}
    {fault : Fault}
    (failed : element.read bytes = .error fault) :
    fault.isRefusal := by
  cases element with
  | record schema =>
      simp only [read, Schema.read] at failed
      split at failed
      · contradiction
      next refused =>
        cases failed
        rw [Codec.recordRefusal?, Option.or_eq_some_iff] at refused
        obtain layoutRefused | ⟨_, recordRefused⟩ := refused
        · exact Codec.isRefusal_of_layoutRefusal? _ _ layoutRefused
        · exact Value.isRefusal_of_recordRefusal? recordRefused
  | index kind =>
      simp only [read] at failed
      split at failed
      · contradiction
      next refused =>
        cases failed
        exact IndexKind.isRefusal_of_refusal? refused
  | sequence => contradiction

end Element

/-- Every element of the catalogue is total. -/
theorem Catalogue.isTotal_of_mem_specs :
    ∀ spec ∈ Catalogue.specs, spec.element.isTotal := by
  decide +kernel

end ModuleInterface

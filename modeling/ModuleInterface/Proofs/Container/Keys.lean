import Mathlib
import ModuleInterface.Proofs.Container.Slices

/-!
# Keys of views

A view checks the kind of a key, then its sort, then its position. Keys of many forms
designate a position (`Value.Designates`), and which of them is used makes no difference:
a key that a view takes stands for the plain number of its position
(`View.get_of_designates`). What is there is read as for that number.
-/

namespace ModuleInterface

namespace Value

/-- The positions that keys designate: a number designates itself, an index its position,
and a scope the position before its number, since scopes are counted from 1. -/
inductive Designates : Value → Int → Prop
  | integer (number : Int) : Designates (.integer number) number
  | tagged (index : TaggedIndex) : Designates (.tagged index) index.position
  | index (value : Int) : Designates (.plain ⟨.index, value⟩) value
  | text (value : Int) : Designates (.plain ⟨.text, value⟩) value
  | scope {value : Int} (notNull : value ≠ 0) :
      Designates (.plain ⟨.scope, value⟩) (value - 1)

/-- A key designates at most one position. -/
theorem Designates.unique
    {key : Value}
    {position other : Int}
    (designates : key.Designates position)
    (designatesOther : key.Designates other) :
    position = other := by
  cases designates <;> cases designatesOther <;> rfl

/-- The sort of a key, if it has one. -/
def sort? : Value → Option Nat
  | .tagged index => some index.sort
  | .floating index => some index.sort
  | _ => none

end Value

namespace View

/-- Whether a view is indexed by keys of the kind of a key. Plain numbers are keys of all
views. -/
def Accepts (view : View) : Value → Prop
  | .integer _ => True
  | .tagged index => view.spec.indexKind.includes index.kind
  | .floating index => view.spec.indexKind.includes index.kind
  | .plain index => view.spec.indexKind = .plain index.kind
  | _ => False

/-- Whether the records of a view have a sort and a key has another one. -/
def SortDiffers (view : View) (key : Value) : Prop :=
  ∃ sort expected, key.sort? = some sort ∧ view.spec.sort = some expected ∧ sort ≠ expected

/-- Whether a key is of the kind and the sort of a view. -/
def Takes (view : View) (key : Value) : Prop :=
  view.Accepts key ∧ ¬view.SortDiffers key

/-- A position is one of an element of a view. -/
def Contains (view : View) (position : Int) : Prop :=
  0 ≤ position ∧ position < view.count

/-- A key whose position is refused is refused. -/
theorem get_of_position_eq_error
    {view : View}
    {key : Value}
    {fault : Fault}
    (whole : ∀ index, key ≠ .floating index)
    (refused : view.position key = .error fault)
    (blob : Blob) :
    view.get blob key = .error fault := by
  cases key with
  | floating index => exact absurd rfl (whole index)
  | _ =>
      simp only [get, refused]
      rfl

/-- A key of another kind is refused, whatever it designates. -/
theorem get_of_not_accepts
    {view : View}
    {key : Value}
    (foreign : ¬view.Accepts key)
    (blob : Blob) :
    view.get blob key = .error (view.wrongKind key) := by
  cases key with
  | integer number => exact absurd trivial foreign
  | tagged index =>
      have refused : view.position (.tagged index) = .error (view.wrongKind (.tagged index)) :=
        if_neg foreign
      exact get_of_position_eq_error (by simp) refused blob
  | floating index => exact if_neg foreign
  | plain index =>
      have refused : view.position (.plain index) = .error (view.wrongKind (.plain index)) :=
        if_neg foreign
      exact get_of_position_eq_error (by simp) refused blob
  | _ => rfl

/-- A sort that differs is refused. -/
theorem requireSort_of_ne
    {view : View}
    {sort expected : Nat}
    (known : view.spec.sort = some expected)
    (differs : sort ≠ expected)
    (key : String) :
    view.requireSort sort key =
      .error (.wrongKeySort view.name
        (PartitionSpec.describeSort view.spec.indexKind expected) key) := by
  rw [requireSort, known]
  exact if_neg differs

/-- A sort that does not differ passes. -/
theorem requireSort_of_not_sortDiffers
    {view : View}
    {key : Value}
    {sort : Nat}
    (sorted : key.sort? = some sort)
    (agrees : ¬view.SortDiffers key)
    (shown : String) :
    view.requireSort sort shown = .ok () := by
  rw [requireSort]
  cases known : view.spec.sort with
  | none => rfl
  | some expected =>
      apply if_pos
      by_contra differs
      exact agrees ⟨sort, expected, sorted, known, differs⟩

/-- A key of the kind of a view, but of another sort, is refused before its position is
looked at. -/
theorem get_of_sortDiffers
    {view : View}
    {key : Value}
    (accepted : view.Accepts key)
    (differs : view.SortDiffers key)
    (blob : Blob) :
    ∃ expected shown, view.get blob key = .error (.wrongKeySort view.name expected shown) := by
  obtain ⟨sort, expected, sorted, known, different⟩ := differs
  cases key with
  | tagged index =>
      cases sorted
      have refused : view.position (.tagged index) = view.taggedPosition index :=
        if_pos accepted
      rw [taggedPosition, requireSort_of_ne known different, Fallible.error_bind] at refused
      exact ⟨_, _, get_of_position_eq_error (by simp) refused blob⟩
  | floating index =>
      cases sorted
      have refused : view.get blob (.floating index) = view.getFloating blob index :=
        if_pos accepted
      rw [getFloating, requireSort_of_ne known different, Fallible.error_bind] at refused
      exact ⟨_, _, refused⟩
  | _ => contradiction

/-- The position of a key that a view takes is the one that the key designates. -/
theorem position_of_designates
    {view : View}
    {key : Value}
    {position : Int}
    (takes : view.Takes key)
    (designates : key.Designates position) :
    view.position key = .ok position := by
  obtain ⟨accepted, agrees⟩ := takes
  cases designates with
  | integer number => rfl
  | tagged index =>
      have located : view.position (.tagged index) = view.taggedPosition index :=
        if_pos accepted
      rw [located, taggedPosition, requireSort_of_not_sortDiffers rfl agrees]
      rfl
  | index value => exact if_pos accepted
  | text value => exact if_pos accepted
  | scope notNull =>
      have located : view.position (.plain ⟨.scope, _⟩) = plainPosition ⟨.scope, _⟩ :=
        if_pos accepted
      rw [located, plainPosition, PlainIndex.position?]
      simp only [if_neg notNull]

/-- A key that a view takes stands for the plain number of its position. -/
theorem get_of_designates
    {view : View}
    {key : Value}
    {position : Int}
    (takes : view.Takes key)
    (designates : key.Designates position)
    (blob : Blob) :
    view.get blob key = view.get blob (.integer position) := by
  have located := position_of_designates takes designates
  cases designates <;> simp only [get, located] <;> rfl

/-- The null scope designates no position. -/
theorem get_nullScope
    {view : View}
    (accepted : view.Accepts (.plain (.scope 0)))
    (blob : Blob) :
    view.get blob (.plain (.scope 0)) = .error .nullScope := by
  have refused : view.position (.plain (.scope 0)) = plainPosition (.scope 0) :=
    if_pos accepted
  exact get_of_position_eq_error (by simp) refused blob

/-- A floating-point position is compared with the length of a view like any other, but
nothing is there. -/
theorem get_floating
    {view : View}
    {index : FloatingIndex}
    (takes : view.Takes (.floating index))
    (data : List UInt8)
    (backing : Backing) :
    view.get (.of data backing) (.floating index) =
      if Binary64.isBelow index.position view.count then
        .error (.notLength (Value.float64 index.position).typeName)
      else .error (.float64Outside index.position view.name view.count) := by
  obtain ⟨accepted, agrees⟩ := takes
  have checked : view.get (.of data backing) (.floating index) =
      view.getFloating (.of data backing) index :=
    if_pos accepted
  rw [checked, getFloating, requireSort_of_not_sortDiffers rfl agrees]
  rfl

/-- The keys that a view takes designate a position, apart from the null scope and indices
with a floating-point position. -/
theorem Takes.exists_designates
    {view : View}
    {key : Value}
    (takes : view.Takes key)
    (whole : ∀ index, key ≠ .floating index)
    (notNull : key ≠ .plain (.scope 0)) :
    ∃ position, key.Designates position := by
  cases key with
  | integer number => exact ⟨_, .integer number⟩
  | tagged index => exact ⟨_, .tagged index⟩
  | floating index => exact absurd rfl (whole index)
  | plain index =>
      obtain ⟨kind, value⟩ := index
      cases kind with
      | index => exact ⟨_, .index value⟩
      | text => exact ⟨_, .text value⟩
      | scope =>
          refine ⟨_, .scope fun null => notNull ?_⟩
          rw [null]
          rfl
  | _ => exact takes.1.elim

/-- What a view answers to a key, which is judged by its kind, its sort and its position in
this order. -/
structure Judges (view : View) (data : List UInt8) (key : Value)
    (outcome : Except Fault Value) : Prop where
  /-- A key of another kind is refused for that, whatever else holds of it. -/
  kind : ¬view.Accepts key → FailsAs outcome .wrongType
  /-- A key of another sort is refused for that, wherever it points. -/
  sort : view.Accepts key → view.SortDiffers key → FailsAs outcome .badValue
  /-- Any other key designates one position, unless it is the null scope or its position
  is a floating-point number. -/
  designated : view.Takes key → (∀ index, key ≠ .floating index) →
    key ≠ .plain (.scope 0) → ∃! position, key.Designates position
  /-- Nothing is designated by the null scope. -/
  null : view.Takes key → key = .plain (.scope 0) → FailsAs outcome .outOfRange
  /-- Nothing is outside the view, which is reported if the position can be shown. -/
  outside : view.Takes key → ∀ position, key.Designates position →
    ¬view.Contains position →
      FailsAs outcome (if Numeral.isPrintable position then .outOfRange else .badValue)
  /-- The element inside the view is what its own bytes hold. -/
  element : view.Takes key → ∀ position : Nat, key.Designates position →
    position < view.count →
      outcome = view.spec.element.read
        ((data.drop (view.base + position * view.spec.element.size)).take
          view.spec.element.size)
  /-- Bytes that hold no element are refused for what they are. -/
  refused : view.Takes key → ∀ position : Nat, key.Designates position →
    position < view.count → ∀ fault, outcome = .error fault →
      fault.isRefusal ∧ ¬view.spec.element.isTotal
  /-- Nothing is at a floating-point position. -/
  floating : view.Takes key → ∀ index, key = .floating index →
    FailsAs outcome
      (if Binary64.isBelow index.position view.count then .wrongType else .outOfRange)

/-- A view that reads its elements from its bytes judges all keys. -/
theorem Faithful.judges
    {view : View}
    {data : List UInt8}
    {backing : Backing}
    {summary : Summary}
    (faithful : view.Faithful data backing summary)
    (key : Value) :
    view.Judges data key (view.get (.of data backing) key) := by
  constructor
  case kind =>
    intro foreign
    exact ⟨_, get_of_not_accepts foreign _, rfl⟩
  case sort =>
    intro accepted differs
    obtain ⟨expected, shown, refused⟩ := get_of_sortDiffers accepted differs (.of data backing)
    exact ⟨_, refused, rfl⟩
  case designated =>
    intro takes whole notNull
    obtain ⟨position, designates⟩ := takes.exists_designates whole notNull
    exact ⟨position, designates, fun _ other => other.unique designates⟩
  case null =>
    intro takes null
    subst null
    exact ⟨_, get_nullScope takes.1 _, rfl⟩
  case outside =>
    intro takes position designates outside
    rw [get_of_designates takes designates]
    exact failsAs_of_number (get_of_outside view (.of data backing) outside) rfl rfl
  case element =>
    intro takes position designates inside
    rw [get_of_designates takes designates]
    exact faithful.own position inside
  case refused =>
    intro takes position designates inside fault failed
    rw [get_of_designates takes designates] at failed
    exact faithful.refused position inside fault failed
  case floating =>
    intro takes index floating
    subst floating
    rw [get_floating takes]
    split
    · exact ⟨_, rfl, rfl⟩
    · exact ⟨_, rfl, rfl⟩

/-- What comes of a key where all elements are there: an outcome of one of four sorts, each
for exactly one cause. -/
structure Verdict (view : View) (key : Value) (outcome : Except Fault Value) : Prop where
  wrongType : FailsAs outcome .wrongType ↔ ¬view.Accepts key
  badValue : FailsAs outcome .badValue ↔
    view.Accepts key ∧
      (view.SortDiffers key ∨ view.Takes key ∧ ∃ position, key.Designates position ∧
        ¬view.Contains position ∧ ¬Numeral.isPrintable position)
  outOfRange : FailsAs outcome .outOfRange ↔
    view.Takes key ∧
      (key = .plain (.scope 0) ∨ ∃ position, key.Designates position ∧
        ¬view.Contains position ∧ Numeral.isPrintable position)
  found : (∃ element, outcome = .ok element) ↔
    view.Takes key ∧ ∃ position, key.Designates position ∧ view.Contains position

/-- Where all elements are there, the judgement of a key is exact. -/
theorem Judges.verdict
    {view : View}
    {data : List UInt8}
    {key : Value}
    {outcome : Except Fault Value}
    (judges : view.Judges data key outcome)
    (total : view.spec.element.isTotal)
    (whole : ∀ index, key ≠ .floating index) :
    view.Verdict key outcome := by
  -- In each case the outcome is known, and of all causes exactly one applies.
  by_cases accepted : view.Accepts key
  · by_cases differs : view.SortDiffers key
    · have fails := judges.sort accepted differs
      constructor <;> simp [fails.iff_eq, fails.ne_ok, Takes, accepted, differs]
    · have takes : view.Takes key := ⟨accepted, differs⟩
      by_cases null : key = .plain (.scope 0)
      · have fails := judges.null takes null
        subst null
        have nowhere : ∀ position, ¬Value.Designates (.plain (.scope 0)) position := by
          intro position designates
          cases designates
          contradiction
        constructor <;> simp [fails.iff_eq, fails.ne_ok, takes, accepted, differs, nowhere]
      · obtain ⟨position, designates, only⟩ := judges.designated takes whole null
        have designatesIff : ∀ other, key.Designates other ↔ other = position :=
          fun other => ⟨only other, fun same => same ▸ designates⟩
        by_cases inside : view.Contains position
        · obtain ⟨place, rfl⟩ := Int.eq_ofNat_of_zero_le inside.1
          have bound : place < view.count := by exact_mod_cast inside.2
          have read := judges.element takes place designates bound
          rw [Element.read_of_isTotal total] at read
          constructor <;> simp [read, takes, accepted, differs, null, designatesIff, inside]
        · have fails := judges.outside takes position designates inside
          by_cases printable : Numeral.isPrintable position
          · rw [if_pos printable] at fails
            constructor <;> simp [fails.iff_eq, fails.ne_ok, takes, accepted, differs, null,
              designatesIff, inside, printable]
          · rw [if_neg printable] at fails
            constructor <;> simp [fails.iff_eq, fails.ne_ok, takes, accepted, differs, null,
              designatesIff, inside, printable]
  · have fails := judges.kind accepted
    constructor <;> simp [fails.iff_eq, fails.ne_ok, Takes, accepted]

end View

namespace Container

/-- A partition is found by an entry with elements of its size. -/
theorem exists_summary?_of_findPartition
    {container : Container}
    {spec : PartitionSpec}
    {name : String}
    {found : View}
    (located : container.findPartition spec name = .ok (some found)) :
    ∃ summary, container.summary? name = some summary ∧
      summary.entrySize = spec.element.size ∧
      found = ⟨spec, name, summary.offset, summary.cardinality⟩ := by
  cases entry : container.summary? name with
  | none =>
      rw [(findPartition_eq_none_iff container spec name).mpr entry] at located
      cases located
  | some summary =>
      rw [findPartition_of_summary? spec entry] at located
      by_cases agree : summary.entrySize = spec.element.size
      · rw [if_pos agree] at located
        cases located
        exact ⟨summary, rfl, agree, rfl⟩
      · rw [if_neg agree] at located
        cases located

/-- Every view that is sliced from a partition of an open container is read from its own
bytes. -/
theorem Stores.faithful_of_reaches
    {opened container : Container}
    {data : List UInt8}
    {backing : Backing}
    (stores : opened.Stores data backing)
    (shared : container.SharesTables opened)
    {spec : PartitionSpec}
    {name : String}
    {found view : View}
    (located : container.findPartition spec name = .ok (some found))
    (reached : found.Reaches view) :
    ∃ summary, view.spec = spec ∧ view.Faithful data backing summary := by
  obtain ⟨summary, entry, agree, rfl⟩ := exists_summary?_of_findPartition located
  obtain ⟨fits, start⟩ := inside_of_summary? stores shared entry agree
  obtain ⟨same, inside⟩ := start.reaches reached
  exact ⟨summary, same, inside.faithful fits backing⟩

/-- Every partition view of an open container, sliced any number of times, judges keys by
their kind, then their sort and then their position. Where all elements are there, as those
of the catalogue are, the verdict is exact. Keys of different forms that designate the same
position get the same. -/
theorem get_outcome
    {data : List UInt8}
    {backing : Backing}
    {environment : Option Nat}
    {opened container : Container}
    (loaded : (load (.of data backing) environment).1 = .ok opened)
    (shared : container.SharesTables opened)
    {spec : PartitionSpec}
    {name : String}
    {found view : View}
    (located : container.findPartition spec name = .ok (some found))
    (reached : found.Reaches view) :
    view.spec = spec ∧
    (∀ key, view.Judges data key (view.get container.blob key)) ∧
    (spec.element.isTotal → ∀ key, (∀ index, key ≠ .floating index) →
      view.Verdict key (view.get container.blob key)) ∧
    (spec ∈ Catalogue.specs → spec.element.isTotal) ∧
    ∀ key other position, view.Takes key → view.Takes other →
      key.Designates position → other.Designates position →
        view.get container.blob key = view.get container.blob other := by
  have stores := stores_of_load loaded
  obtain ⟨summary, same, faithful⟩ := stores.faithful_of_reaches shared located reached
  rw [shared.blob, stores.blob]
  refine ⟨same, faithful.judges, ?_, Catalogue.isTotal_of_mem_specs spec, ?_⟩
  · intro total key whole
    rw [← same] at total
    exact (faithful.judges key).verdict total whole
  · intro key other position takes takesOther designates designatesOther
    rw [View.get_of_designates takes designates,
      View.get_of_designates takesOther designatesOther]

/-- The specification of a partition `r` of records with one byte, indexed by scopes. -/
def scopedByte : PartitionSpec :=
  { oneField (.unsigned 1) with indexKind := .plain .scope }

/-- The view of the one partition of a container of one byte, indexed by scopes. -/
def scopedView : View :=
  ⟨scopedByte, "r", 79, 1⟩

theorem get_outcome_scopedView :
    (load (.of oneByteData .bytes) none).1 = .ok oneByte ∧
      oneByte.SharesTables oneByte ∧
      oneByte.findPartition scopedByte "r" = .ok (some scopedView) ∧
      scopedView.get oneByte.blob (.plain (.scope 1)) =
        scopedView.get oneByte.blob (.integer 0) ∧
      FailsAs (scopedView.get oneByte.blob (.plain (.scope 0))) .outOfRange ∧
      FailsAs (scopedView.get oneByte.blob (.boolean true)) .wrongType := by
  have loaded : (load (.of oneByteData .bytes) none).1 = .ok oneByte := rfl
  have shared : oneByte.SharesTables oneByte := ⟨rfl, rfl, rfl, rfl⟩
  have located : oneByte.findPartition scopedByte "r" = .ok (some scopedView) := rfl
  obtain ⟨_, judges, _, _, same⟩ := get_outcome loaded shared located .refl
  have unsorted : ∀ key, ¬scopedView.SortDiffers key := by
    rintro key ⟨_, _, _, known, _⟩
    contradiction
  have takesNumber : scopedView.Takes (.integer 0) := ⟨trivial, unsorted _⟩
  have takesScope : ∀ value, scopedView.Takes (.plain (.scope value)) :=
    fun value => ⟨rfl, unsorted _⟩
  refine ⟨loaded, shared, located, ?_, ?_, ?_⟩
  · exact same _ _ 0 (takesScope 1) takesNumber (.scope (by decide)) (.integer 0)
  · exact (judges _).null (takesScope 0) rfl
  · exact (judges (.boolean true)).kind id

/-- The specification of a partition `r` of records with one strict flag, which must be a
member of its enumeration. -/
def strictByte : PartitionSpec :=
  oneField (.member 1 .access)

/-- The view of the one partition of a container of one byte, as a strict flag. -/
def strictView : View :=
  ⟨strictByte, "r", 79, 1⟩

/-- A key that designates a position in an open container gets no element where the stored
number makes none. A scope whose position has too many digits to be shown is refused with
another kind of fault than that it is out of range. -/
theorem get_refused :
    (load (.of oneByteData .bytes) none).1 = .ok oneByte ∧
      oneByte.findPartition strictByte "r" = .ok (some strictView) ∧
      strictView.Takes (.integer 0) ∧ Value.Designates (.integer 0) 0 ∧
      0 < strictView.count ∧
      FailsAs (strictView.get oneByte.blob (.integer 0)) .badValue ∧
      oneByte.findPartition scopedByte "r" = .ok (some scopedView) ∧
      scopedView.Takes (.plain (.scope (1 - 10 ^ Numeral.digitLimit))) ∧
      ∃ position, Value.Designates (.plain (.scope (1 - 10 ^ Numeral.digitLimit))) position ∧
        position < 0 ∧
        FailsAs (scopedView.get oneByte.blob
          (.plain (.scope (1 - 10 ^ Numeral.digitLimit)))) .badValue ∧
        ¬FailsAs (scopedView.get oneByte.blob
          (.plain (.scope (1 - 10 ^ Numeral.digitLimit)))) .outOfRange := by
  have large : (10 : Int) ^ 1 ≤ 10 ^ Numeral.digitLimit :=
    pow_le_pow_right₀ (by decide) (by decide)
  have notNull : (1 - 10 ^ Numeral.digitLimit : Int) ≠ 0 := by omega
  have negative : (1 - 10 ^ Numeral.digitLimit - 1 : Int) < 0 := by omega
  have opposite : (1 - 10 ^ Numeral.digitLimit - 1 : Int) = -10 ^ Numeral.digitLimit := by omega
  have takesNumber : strictView.Takes (.integer 0) := by
    refine ⟨trivial, ?_⟩
    rintro ⟨_, _, sorted, _⟩
    cases sorted
  have takesScope : scopedView.Takes (.plain (.scope (1 - 10 ^ Numeral.digitLimit))) := by
    refine ⟨rfl, ?_⟩
    rintro ⟨_, _, sorted, _⟩
    cases sorted
  have designates := Value.Designates.scope notNull
  have refused := (View.get_of_designates takesScope designates oneByte.blob).trans
    (View.get_of_outside scopedView oneByte.blob fun inside => by omega)
  have fails := failsAs_of_number refused rfl rfl
  rw [opposite, Numeral.isPrintable_neg_limit, if_neg Bool.false_ne_true] at fails
  refine ⟨rfl, rfl, takesNumber, .integer 0, Nat.one_pos, ⟨_, rfl, rfl⟩, rfl, takesScope,
    _, designates, negative, fails, ?_⟩
  rw [fails.iff_eq]
  decide

end Container
end ModuleInterface

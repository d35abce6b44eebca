import Mathlib
import ModuleInterface.Proofs.Codec.Total
import ModuleInterface.Proofs.Codec.Words

/-!
# Typed values

`Codec.Holds` says which values the field of a codec can have: a number within its
width, a member of its enumeration, an index of its kind, a record of its shape.
`Codec.spliced` puts the fields of a record in place of the record, as they are written.
What a codec holds is stored in numbers (`exists_stores`) that are written, read back and
decoded to the same value.
-/

-- Powers are the core library's, as in the definitions that are reasoned about.
attribute [local instance (1100)] instPowNat

namespace ModuleInterface
namespace Codec

mutual

/-- A field of a codec can have a value. -/
def Holds : Codec → Value → Prop
  | .unsigned width, value => ∃ number < 256 ^ width, value = .integer (number : Nat)
  | .float64, value => ∃ bits, ¬Binary64.isNaN bits ∧ value = .float64 bits
  | .boolean, value => ∃ flag, value = .boolean flag
  | .padding _, _ => False
  | .enumerator width enumeration, value =>
      ∃ number < 256 ^ width, value = enumeration.value (number : Nat)
  | .member width enumeration, value =>
      ∃ number < 256 ^ width, enumeration.Knows number ∧
        value = .enumerator enumeration number
  | .flags width set, value => ∃ number < 256 ^ width, value = .flags set number
  | .index kind, value =>
      kind.refusal? = none ∧ ∃ number < 256 ^ 4, value = kind.ofWord number
  | .sequence, value =>
      ∃ start < 256 ^ 4, ∃ cardinality < 256 ^ 4,
        value = Sequence.value ⟨(start : Nat), (cardinality : Nat)⟩
  | .location, value =>
      ∃ line < 256 ^ 4, ∃ column < 256 ^ 4,
        value = SourceLocation.value ⟨(line : Nat), (column : Nat)⟩
  | .moduleReference, value =>
      ∃ owner < 256 ^ 4, ∃ part < 256 ^ 4,
        value = .moduleReference ⟨(owner : Nat), (part : Nat)⟩
  | .nested record fields layout, value =>
      fields.all Value.isOrdinaryName ∧
        ∃ values, LayoutHolds layout values ∧ fields.length = values.length ∧
          value = .record record (fields.zip values)

/-- The fields of a layout can have some values, one each. -/
def LayoutHolds : List Codec → List Value → Prop
  | [], values => values = []
  | codec :: rest, values =>
      if codec.arity = 0 then LayoutHolds rest values
      else
        ∃ value others, values = value :: others ∧ codec.Holds value ∧
          LayoutHolds rest others

end

mutual

/-- The values of a field as they are written, with those of a record in place of the
record. -/
def spliced : Codec → Value → List Value
  | .nested _ _ layout, .record _ fields => layoutSpliced layout (fields.map (·.2))
  | _, value => [value]

/-- The values of the fields of a layout as they are written. -/
def layoutSpliced : List Codec → List Value → List Value
  | [], _ => []
  | codec :: rest, values =>
      if codec.arity = 0 then layoutSpliced rest values
      else
        match values with
        | [] => []
        | value :: others => codec.spliced value ++ layoutSpliced rest others

end

/-- Numbers store a value: they are what its written form stands for, and they are
decoded to it. -/
structure Stores (codec : Codec) (value : Value) (numbers : List Nat) : Prop where
  length : numbers.length = codec.arity
  carried : Word.Carries codec.words (Value.flatten (codec.spliced value)) numbers
  decoded : codec.decode numbers = value
  accepted : codec.refusal? numbers = none

/-- Numbers store the values of a layout. -/
structure LayoutStores (layout : List Codec) (values : List Value)
    (numbers : List Nat) : Prop where
  length : numbers.length = layoutArity layout
  carried : Word.Carries (layoutWords layout)
    (Value.flatten (layoutSpliced layout values)) numbers
  decoded : decodeLayout layout numbers = values
  accepted : layoutRefusal? layout numbers = none

theorem flatten_append
    (first second : List Value) :
    Value.flatten (first ++ second) = Value.flatten first ++ Value.flatten second :=
  List.flatMap_append

/-! ## Codecs without a value -/

mutual

/-- A codec without a value carries no numbers and refuses none. -/
theorem carries_of_arity_eq_zero
    (codec : Codec)
    (valueless : codec.arity = 0) :
    Word.Carries codec.words [] [] ∧ ∀ numbers, codec.refusal? numbers = none := by
  cases codec with
  | padding length =>
      rw [words]
      exact ⟨.skip _ .nil, fun numbers => by simp [refusal?]⟩
  | nested record fields layout =>
      rw [arity] at valueless
      obtain ⟨carried, unrefused, undecoded⟩ :=
        layoutCarries_of_arity_eq_zero layout valueless
      rw [words]
      refine ⟨carried, fun numbers => ?_⟩
      rw [refusal?, unrefused, undecoded, Option.none_or, List.zip_nil_right]
      rfl
  | _ => simp [arity] at valueless

/-- A layout without values carries no numbers, refuses none and decodes none. -/
theorem layoutCarries_of_arity_eq_zero
    (layout : List Codec)
    (valueless : layoutArity layout = 0) :
    Word.Carries (layoutWords layout) [] [] ∧
      (∀ numbers, layoutRefusal? layout numbers = none) ∧
        ∀ numbers, decodeLayout layout numbers = [] := by
  cases layout with
  | nil =>
      exact ⟨by simpa using Word.Carries.nil, by simp [layoutRefusal?], by simp [decodeLayout]⟩
  | cons codec rest =>
      rw [layoutArity_cons, Nat.add_eq_zero_iff] at valueless
      obtain ⟨carried, unrefused⟩ := carries_of_arity_eq_zero codec valueless.1
      obtain ⟨carriedRest, unrefusedRest, undecodedRest⟩ :=
        layoutCarries_of_arity_eq_zero rest valueless.2
      rw [layoutWords_cons]
      refine ⟨carried.append carriedRest, fun numbers => ?_, fun numbers => ?_⟩
      · rw [layoutRefusal?, unrefused, unrefusedRest, Option.none_or]
      · rw [decodeLayout, if_pos valueless.1, undecodedRest]

end

/-! ## Values in numbers -/

theorem lower_enumeration_value
    (enumeration : Enumeration)
    (number : Nat) :
    (enumeration.value number).lower = [.integer number] := by
  unfold Enumeration.value
  split <;> rfl

theorem lower_ofWord
    {kind : IndexKind}
    {number : Nat}
    (closed : kind.refusal? = none)
    (fits : number < 256 ^ 4) :
    (kind.ofWord number).lower = [.integer number] := by
  cases kind with
  | tagged kind =>
      simp only [IndexKind.ofWord, Value.lower, TaggedIndex.raw_ofWord kind number fits]
  | plain kind => rfl
  | anyTagged => contradiction

/-- One number stores the value of a codec of one word that is written as the number. -/
theorem stores_single
    {codec : Codec}
    {value : Value}
    {width number : Nat}
    (single : codec.arity = 1)
    (word : codec.words = [.unsigned width])
    (whole : codec.spliced value = [value])
    (lowered : ∃ bare, value.lower = [bare] ∧ bare.integer? = some (number : Int))
    (fits : number < 256 ^ width)
    (decoded : codec.decode [number] = value)
    (accepted : codec.refusal? [number] = none) :
    codec.Stores value [number] := by
  obtain ⟨bare, lower, integer⟩ := lowered
  refine ⟨single.symm, ?_, decoded, accepted⟩
  rw [word, whole]
  simp only [Value.flatten, List.flatMap_cons, List.flatMap_nil, lower, List.append_nil]
  exact .unsigned integer fits .nil

/-- Two numbers store the value of a codec of two words that is written as the two. -/
theorem stores_pair
    {codec : Codec}
    {value : Value}
    {first second : Nat}
    (double : codec.arity = 2)
    (word : codec.words = [.unsigned 4, .unsigned 4])
    (whole : codec.spliced value = [value])
    (lowered : value.lower = [.integer first, .integer second])
    (firstFits : first < 256 ^ 4)
    (secondFits : second < 256 ^ 4)
    (decoded : codec.decode [first, second] = value)
    (accepted : codec.refusal? [first, second] = none) :
    codec.Stores value [first, second] := by
  refine ⟨double.symm, ?_, decoded, accepted⟩
  rw [word, whole]
  simp only [Value.flatten, List.flatMap_cons, List.flatMap_nil, lowered, List.append_nil]
  exact .unsigned rfl firstFits (.unsigned rfl secondFits .nil)

/-- The numbers of a field and of the rest of a layout, one after another, store the
values of both. -/
theorem LayoutStores.cons
    {codec : Codec}
    {rest : List Codec}
    {value : Value}
    {values : List Value}
    {numbers others : List Nat}
    (valued : codec.arity ≠ 0)
    (stored : codec.Stores value numbers)
    (storedRest : LayoutStores rest values others) :
    LayoutStores (codec :: rest) (value :: values) (numbers ++ others) := by
  have taken : (numbers ++ others).take codec.arity = numbers :=
    List.take_left' stored.length
  have dropped : (numbers ++ others).drop codec.arity = others :=
    List.drop_left' stored.length
  refine ⟨?_, ?_, ?_, ?_⟩
  · rw [List.length_append, layoutArity_cons, stored.length, storedRest.length]
  · rw [layoutWords_cons, layoutSpliced, if_neg valued, flatten_append]
    exact stored.carried.append storedRest.carried
  · rw [decodeLayout, if_neg valued, taken, dropped, stored.decoded, storedRest.decoded]
  · rw [layoutRefusal?, taken, dropped, stored.accepted, storedRest.accepted, Option.none_or]

/-- A codec without a value leaves the numbers of a layout as they are. -/
theorem LayoutStores.cons_of_arity_eq_zero
    {codec : Codec}
    {rest : List Codec}
    {values : List Value}
    {numbers : List Nat}
    (valueless : codec.arity = 0)
    (stored : LayoutStores rest values numbers) :
    LayoutStores (codec :: rest) values numbers := by
  obtain ⟨carried, unrefused⟩ := carries_of_arity_eq_zero codec valueless
  refine ⟨?_, ?_, ?_, ?_⟩
  · rw [layoutArity_cons, valueless, Nat.zero_add, stored.length]
  · rw [layoutWords_cons, layoutSpliced.eq_def]
    simp only [valueless, if_true]
    exact carried.append stored.carried
  · rw [decodeLayout, if_pos valueless, stored.decoded]
  · rw [layoutRefusal?, unrefused, valueless, List.drop_zero, stored.accepted, Option.none_or]

/-- A record that is stored as its fields are. -/
theorem LayoutStores.nested
    {record : String}
    {fields : List String}
    {layout : List Codec}
    {values : List Value}
    {numbers : List Nat}
    (ordinary : fields.all Value.isOrdinaryName)
    (sameLength : fields.length = values.length)
    (stored : LayoutStores layout values numbers) :
    (Codec.nested record fields layout).Stores (.record record (fields.zip values)) numbers := by
  have unzipped : (fields.zip values).map (·.2) = values :=
    List.map_snd_zip (Nat.le_of_eq sameLength.symm)
  refine ⟨?_, ?_, ?_, ?_⟩
  · rw [arity, stored.length]
  · rw [words, spliced, unzipped]
    exact stored.carried
  · rw [decode, stored.decoded]
  · rw [refusal?, stored.accepted, stored.decoded, Option.none_or]
    exact Value.recordRefusal?_eq_none (ordinary_zip values ordinary)

mutual

/-- What a codec holds is stored in numbers. -/
theorem exists_stores
    (codec : Codec)
    {value : Value}
    (held : codec.Holds value) :
    ∃ numbers, codec.Stores value numbers := by
  cases codec with
  | unsigned width =>
      rw [Holds] at held
      obtain ⟨number, fits, rfl⟩ := held
      exact ⟨[number], stores_single (by simp [arity]) (by simp [words]) (by simp [spliced])
        ⟨_, rfl, rfl⟩ fits (by simp [decode]) (by simp [refusal?])⟩
  | float64 =>
      rw [Holds] at held
      obtain ⟨bits, number, rfl⟩ := held
      refine ⟨[bits.toNat], by simp [arity], ?_, ?_, by simp [refusal?]⟩
      · rw [words, spliced]
        · exact .float64 (by simp [Value.float64?]) bits.toNat_lt .nil
        · simp
      · simp [decode]
  | boolean =>
      rw [Holds] at held
      obtain ⟨flag, rfl⟩ := held
      have word : boolean.words = [.unsigned 1] := by simp [words]
      refine ⟨[if flag then 1 else 0], stores_single (by simp [arity]) word
        (by simp [spliced]) ⟨_, rfl, ?_⟩ ?_ ?_ (by simp [refusal?])⟩
      · cases flag <;> rfl
      · cases flag <;> decide
      · cases flag <;> simp [decode]
  | padding length =>
      rw [Holds] at held
      exact held.elim
  | enumerator width enumeration =>
      rw [Holds] at held
      obtain ⟨number, fits, rfl⟩ := held
      exact ⟨[number], stores_single (by simp [arity]) (by simp [words]) (by simp [spliced])
        ⟨_, lower_enumeration_value enumeration number, rfl⟩ fits (by simp [decode])
        (by simp [refusal?])⟩
  | member width enumeration =>
      rw [Holds] at held
      obtain ⟨number, fits, known, rfl⟩ := held
      exact ⟨[number], stores_single (by simp [arity]) (by simp [words]) (by simp [spliced])
        ⟨_, rfl, rfl⟩ fits (by simp [decode, Enumeration.value, known])
        (by simp [refusal?, Enumeration.refusal?, known])⟩
  | flags width set =>
      rw [Holds] at held
      obtain ⟨number, fits, rfl⟩ := held
      exact ⟨[number], stores_single (by simp [arity]) (by simp [words]) (by simp [spliced])
        ⟨_, rfl, rfl⟩ fits (by simp [decode]) (by simp [refusal?])⟩
  | index kind =>
      rw [Holds] at held
      obtain ⟨closed, number, fits, rfl⟩ := held
      exact ⟨[number], stores_single (by simp [arity]) (by simp [words]) (by simp [spliced])
        ⟨_, lower_ofWord closed fits, rfl⟩ fits (by simp [decode])
        (by simpa [refusal?] using closed)⟩
  | sequence =>
      rw [Holds] at held
      obtain ⟨start, startFits, cardinality, cardinalityFits, rfl⟩ := held
      exact ⟨[start, cardinality], stores_pair (by simp [arity]) (by simp [words])
        (by simp [spliced]) rfl startFits cardinalityFits (by simp [decode])
        (by simp [refusal?])⟩
  | location =>
      rw [Holds] at held
      obtain ⟨line, lineFits, column, columnFits, rfl⟩ := held
      exact ⟨[line, column], stores_pair (by simp [arity]) (by simp [words])
        (by simp [spliced]) rfl lineFits columnFits (by simp [decode]) (by simp [refusal?])⟩
  | moduleReference =>
      rw [Holds] at held
      obtain ⟨owner, ownerFits, part, partFits, rfl⟩ := held
      exact ⟨[owner, part], stores_pair (by simp [arity]) (by simp [words])
        (by simp [spliced]) rfl ownerFits partFits (by simp [decode]) (by simp [refusal?])⟩
  | nested record fields layout =>
      rw [Holds] at held
      obtain ⟨ordinary, values, heldValues, sameLength, rfl⟩ := held
      obtain ⟨numbers, stored⟩ := exists_layoutStores layout heldValues
      exact ⟨numbers, stored.nested ordinary sameLength⟩

/-- What the fields of a layout hold is stored in numbers. -/
theorem exists_layoutStores
    (layout : List Codec)
    {values : List Value}
    (held : LayoutHolds layout values) :
    ∃ numbers, LayoutStores layout values numbers := by
  cases layout with
  | nil =>
      rw [LayoutHolds] at held
      subst held
      exact ⟨[], by simp, by simpa [layoutSpliced, Value.flatten] using Word.Carries.nil,
        by simp [decodeLayout], by simp [layoutRefusal?]⟩
  | cons codec rest =>
      rw [LayoutHolds] at held
      by_cases valueless : codec.arity = 0
      · rw [if_pos valueless] at held
        obtain ⟨numbers, stored⟩ := exists_layoutStores rest held
        exact ⟨numbers, stored.cons_of_arity_eq_zero valueless⟩
      · rw [if_neg valueless] at held
        obtain ⟨value, others, rfl, heldValue, heldOthers⟩ := held
        obtain ⟨numbers, stored⟩ := exists_stores codec heldValue
        obtain ⟨otherNumbers, storedOthers⟩ := exists_layoutStores rest heldOthers
        exact ⟨numbers ++ otherNumbers, .cons valueless stored storedOthers⟩

end

end Codec
end ModuleInterface

import Mathlib
import ModuleInterface.Proofs.Codec.Normal

/-!
# Records are read field by field

A record is read through the flat words of its layout. What comes out is what the plain
reading finds that takes each field from its own place (`Codec.decode_readAll`), also in the
records within it, however deep (`Codec.FieldAt`). So a record depends on the bytes at the
places of its fields alone, and on no byte of padding (`Codec.valueAt_congr`).
-/

-- Powers are the core library's, as in the definitions that are reasoned about.
attribute [local instance (1100)] instPowNat

namespace ModuleInterface
namespace Codec

theorem readAll_unsigned_drop
    (bytes : Bytes)
    (width offset : Nat) :
    Word.readAll [.unsigned width] (bytes.toList.drop offset) = [bytes.number width offset] := by
  rw [Word.readAll_unsigned, Word.readAll_nil, Bytes.number, Bytes.window_eq]

theorem readAll_pair_drop
    (bytes : Bytes)
    (offset : Nat) :
    Word.readAll [.unsigned 4, .unsigned 4] (bytes.toList.drop offset) =
      [bytes.number 4 offset, bytes.number 4 (offset + 4)] := by
  rw [Word.readAll_unsigned, List.drop_drop, Word.readAll_unsigned, Word.readAll_nil,
    Bytes.number, Bytes.number, Bytes.window_eq, Bytes.window_eq]

/-- The numbers of a layout are those of its first codec, and those of the rest at the place
that follows. -/
theorem readAll_layoutWords_drop
    (codec : Codec)
    (rest : List Codec)
    (bytes : Bytes)
    (offset : Nat) :
    Word.readAll (layoutWords (codec :: rest)) (bytes.toList.drop offset) =
      Word.readAll codec.words (bytes.toList.drop offset) ++
        Word.readAll (layoutWords rest) (bytes.toList.drop (offset + codec.byteSize)) := by
  rw [layoutWords_cons, Word.readAll_append, totalSize_words, List.drop_drop]

mutual

/-- What a codec makes of its numbers is the value at its place. -/
theorem decode_readAll
    (codec : Codec)
    (bytes : Bytes)
    (offset : Nat) :
    codec.decode (Word.readAll codec.words (bytes.toList.drop offset)) =
      codec.valueAt bytes offset := by
  cases codec with
  | nested record fields layout =>
      rw [words, decode, valueAt, decodeLayout_readAll]
  | float64 =>
      rw [words, decode, valueAt, Word.readAll_float64, List.headD_cons, Bytes.number,
        Bytes.window_eq]
  | padding length => rw [decode, valueAt]
  | boolean => rw [words, decode, valueAt, readAll_unsigned_drop, List.headD_cons]
  | sequence => rw [words, decode, valueAt, readAll_pair_drop]; rfl
  | location => rw [words, decode, valueAt, readAll_pair_drop]; rfl
  | moduleReference => rw [words, decode, valueAt, readAll_pair_drop]; rfl
  | _ => rw [words, decode, valueAt, readAll_unsigned_drop, List.headD_cons]

/-- What the codecs of a layout make of their numbers are the values at their places. -/
theorem decodeLayout_readAll
    (layout : List Codec)
    (bytes : Bytes)
    (offset : Nat) :
    decodeLayout layout (Word.readAll (layoutWords layout) (bytes.toList.drop offset)) =
      valuesAt bytes layout offset := by
  cases layout with
  | nil => rw [decodeLayout, valuesAt]
  | cons codec rest =>
      have own := length_readAll_words codec (bytes.toList.drop offset)
      have following := decodeLayout_readAll rest bytes (offset + codec.byteSize)
      rw [readAll_layoutWords_drop, decodeLayout, valuesAt]
      -- A codec without a value reads no number, so that all numbers are left to the rest.
      by_cases valueless : codec.arity = 0
      · rw [if_pos valueless, if_pos valueless, List.length_eq_zero_iff.mp (own.trans valueless),
          List.nil_append, following]
      · rw [if_neg valueless, if_neg valueless, List.take_left' own, List.drop_left' own,
          decode_readAll codec, following]

end

mutual

/-- A codec refuses its numbers when it has no value at its place. -/
theorem refusal?_readAll
    (codec : Codec)
    (bytes : Bytes)
    (offset : Nat) :
    codec.refusal? (Word.readAll codec.words (bytes.toList.drop offset)) =
      codec.refusalAt? bytes offset := by
  cases codec with
  | nested record fields layout =>
      rw [words, refusal?, refusalAt?, layoutRefusal?_readAll, decodeLayout_readAll]
  | member width enumeration =>
      rw [words, refusal?, refusalAt?, readAll_unsigned_drop, List.headD_cons]
  | _ => simp [refusal?, refusalAt?]

theorem layoutRefusal?_readAll
    (layout : List Codec)
    (bytes : Bytes)
    (offset : Nat) :
    layoutRefusal? layout (Word.readAll (layoutWords layout) (bytes.toList.drop offset)) =
      layoutRefusalAt? bytes layout offset := by
  cases layout with
  | nil => rw [layoutRefusal?, layoutRefusalAt?]
  | cons codec rest =>
      have own := length_readAll_words codec (bytes.toList.drop offset)
      rw [readAll_layoutWords_drop, layoutRefusal?, layoutRefusalAt?, List.take_left' own,
        List.drop_left' own, refusal?_readAll codec, layoutRefusal?_readAll rest]

end

/-! ## Places of fields -/

/-- A layout has as many values as it describes fields. -/
theorem length_valuesAt
    (layout : List Codec)
    (bytes : Bytes)
    (offset : Nat) :
    (valuesAt bytes layout offset).length = (fieldCodecs layout).length := by
  rw [← decodeLayout_readAll, length_decodeLayout]

/-- The values of what follows stand at the place that follows. -/
theorem valuesAt_append
    (before after : List Codec)
    (bytes : Bytes)
    (offset : Nat) :
    valuesAt bytes (before ++ after) offset =
      valuesAt bytes before offset ++
        valuesAt bytes after (offset + layoutByteSize before) := by
  induction before generalizing offset with
  | nil => simp [valuesAt, layoutByteSize]
  | cons codec rest inductionHypothesis =>
      rw [List.cons_append, valuesAt, valuesAt, inductionHypothesis, layoutByteSize,
        Nat.add_assoc]
      by_cases valueless : codec.arity = 0
      · simp only [valueless, if_true]
      · simp only [valueless, if_false, List.cons_append]

/-- The value of a field is the one at its place. -/
theorem getElem?_valuesAt
    (before : List Codec)
    {codec : Codec}
    (valued : codec.arity ≠ 0)
    (after : List Codec)
    (bytes : Bytes)
    (offset : Nat) :
    (valuesAt bytes (before ++ codec :: after) offset)[(fieldCodecs before).length]? =
      some (codec.valueAt bytes (offset + layoutByteSize before)) := by
  rw [valuesAt_append, ← length_valuesAt before bytes offset,
    List.getElem?_append_right (Nat.le_refl _), Nat.sub_self, valuesAt]
  simp only [valued, if_false, List.getElem?_cons_zero]

/-- A path of fields leads from a layout to a codec at a place: into a record within it for
each field but the last. -/
inductive FieldAt : List Codec → List Nat → Codec → Nat → Prop
  | field
      (before : List Codec)
      {codec : Codec}
      (valued : codec.arity ≠ 0)
      (after : List Codec) :
      FieldAt (before ++ codec :: after) [(fieldCodecs before).length] codec
        (layoutByteSize before)
  | within
      (before : List Codec)
      (record : String)
      (fields : List String)
      {layout : List Codec}
      {path : List Nat}
      {codec : Codec}
      {place : Nat}
      (inner : FieldAt layout path codec place)
      (after : List Codec) :
      FieldAt (before ++ .nested record fields layout :: after)
        ((fieldCodecs before).length :: path) codec (layoutByteSize before + place)

theorem layoutArity_append
    (before after : List Codec) :
    layoutArity (before ++ after) = layoutArity before + layoutArity after := by
  induction before with
  | nil => simp
  | cons codec rest inductionHypothesis => simp [inductionHypothesis, Nat.add_assoc]

/-- A layout with a field stores a number. -/
theorem FieldAt.layoutArity_ne_zero
    {layout : List Codec}
    {path : List Nat}
    {codec : Codec}
    {place : Nat}
    (reached : FieldAt layout path codec place) :
    layoutArity layout ≠ 0 := by
  induction reached with
  | field before valued after =>
      rw [layoutArity_append, layoutArity_cons]
      omega
  | within before record fields inner after inductionHypothesis =>
      rw [layoutArity_append, layoutArity_cons, arity]
      omega

end Codec

namespace Value

/-- The value of a field of a record. -/
def field? : Value → Nat → Option Value
  | .record _ fields, index => fields[index]?.map (·.2)
  | _, _ => none

/-- The value that a path of fields leads to. -/
def fieldAt? : List Nat → Value → Option Value
  | [], value => some value
  | index :: path, value => (value.field? index).bind (fieldAt? path)

/-- A record holds its values under the names of its fields. -/
theorem field?_record
    (record : String)
    {fields : List String}
    {values : List Value}
    (sameLength : fields.length = values.length)
    (index : Nat) :
    (Value.record record (fields.zip values)).field? index = values[index]? := by
  rw [field?, ← List.getElem?_map, List.map_snd_zip (Nat.le_of_eq sameLength.symm)]

end Value

namespace Codec

theorem accepted_of_layoutAccepted_append
    {before after : List Codec}
    {codec : Codec}
    (accepted : LayoutAccepted (before ++ codec :: after)) :
    codec.Accepted := by
  induction before with
  | nil =>
      rw [List.nil_append, LayoutAccepted] at accepted
      exact accepted.1
  | cons first rest inductionHypothesis =>
      rw [List.cons_append, LayoutAccepted] at accepted
      exact inductionHypothesis accepted.2

/-- Wherever a path of fields leads, it leads to the value at the place of the last one. -/
theorem FieldAt.fieldAt?_eq
    {layout : List Codec}
    {path : List Nat}
    {codec : Codec}
    {place : Nat}
    (reached : FieldAt layout path codec place)
    (accepted : LayoutAccepted layout)
    (record : String)
    {fields : List String}
    (sameLength : (fieldCodecs layout).length = fields.length)
    (bytes : Bytes)
    (offset : Nat) :
    Value.fieldAt? path (.record record (fields.zip (valuesAt bytes layout offset))) =
      some (codec.valueAt bytes (offset + place)) := by
  induction reached generalizing record fields offset with
  | field before valued after =>
      rw [Value.fieldAt?, Value.field?_record _ (by rw [length_valuesAt, sameLength]),
        getElem?_valuesAt before valued]
      rfl
  | @within before inner innerFields layout path codec place reached after inductionHypothesis =>
      -- The record within was compiled as well, so each of its values has the name of a field.
      have acceptedInner := accepted_of_layoutAccepted_append accepted
      rw [Accepted] at acceptedInner
      have valued : (Codec.nested inner innerFields layout).arity ≠ 0 := by
        rw [arity]
        exact reached.layoutArity_ne_zero
      rw [Value.fieldAt?, Value.field?_record _ (by rw [length_valuesAt, sameLength]),
        getElem?_valuesAt before valued, Option.bind_some, valueAt, ← Nat.add_assoc]
      exact inductionHypothesis acceptedInner.2 inner
        (Schema.of_compile acceptedInner.1).2.1 (offset + layoutByteSize before)

/-! ## Bytes that matter -/

mutual

/-- Whether the byte at a place of a codec is padding. -/
def isPadding : Codec → Nat → Bool
  | .padding _, _ => true
  | .nested _ _ layout, place => layoutIsPadding layout place
  | _, _ => false

/-- Whether the byte at a place of a layout is padding. -/
def layoutIsPadding : List Codec → Nat → Bool
  | [], _ => false
  | codec :: rest, place =>
      if place < codec.byteSize then codec.isPadding place
      else layoutIsPadding rest (place - codec.byteSize)

end

/-- The bytes of a codec are the same at two offsets, apart from padding. -/
def Agree (codec : Codec) (left right : Bytes) (offset other : Nat) : Prop :=
  ∀ place < codec.byteSize, codec.isPadding place = false →
    left[offset + place]? = right[other + place]?

/-- The bytes of a layout are the same at two offsets, apart from padding. -/
def LayoutAgree (layout : List Codec) (left right : Bytes) (offset other : Nat) : Prop :=
  ∀ place < layoutByteSize layout, layoutIsPadding layout place = false →
    left[offset + place]? = right[other + place]?

section Agreement

variable {left right : Bytes} {offset other : Nat}

theorem LayoutAgree.head
    {codec : Codec}
    {rest : List Codec}
    (agree : LayoutAgree (codec :: rest) left right offset other) :
    codec.Agree left right offset other := by
  intro place inside matters
  apply agree place
  · rw [layoutByteSize]
    omega
  · rw [layoutIsPadding, if_pos inside]
    exact matters

theorem LayoutAgree.tail
    {codec : Codec}
    {rest : List Codec}
    (agree : LayoutAgree (codec :: rest) left right offset other) :
    LayoutAgree rest left right (offset + codec.byteSize) (other + codec.byteSize) := by
  intro place inside matters
  rw [Nat.add_assoc, Nat.add_assoc]
  apply agree (codec.byteSize + place)
  · rw [layoutByteSize]
    omega
  · have beyond : ¬codec.byteSize + place < codec.byteSize := by omega
    rw [layoutIsPadding, if_neg beyond, Nat.add_sub_cancel_left]
    exact matters

theorem agree_nested_iff
    {record : String}
    {fields : List String}
    {layout : List Codec} :
    (Codec.nested record fields layout).Agree left right offset other ↔
      LayoutAgree layout left right offset other := by
  rw [Agree, LayoutAgree, byteSize]
  simp only [isPadding]

/-- All bytes of a codec without padding are the same. -/
theorem Agree.bytes_eq
    {codec : Codec}
    (agree : codec.Agree left right offset other)
    (plain : ∀ place, codec.isPadding place = false)
    (start : Nat)
    {width : Nat}
    (inside : start + width ≤ codec.byteSize) :
    ∀ place < width, left[offset + start + place]? = right[other + start + place]? := by
  intro place small
  rw [Nat.add_assoc, Nat.add_assoc]
  apply agree (start + place)
  · omega
  · exact plain (start + place)

/-- A number depends on its bytes alone. -/
theorem number_congr
    {width : Nat}
    (same : ∀ place < width, left[offset + place]? = right[other + place]?) :
    left.number width offset = right.number width other := by
  have windows : left.window offset width = right.window other width := by
    rw [Bytes.window_eq, Bytes.window_eq]
    apply List.ext_getElem?
    intro place
    by_cases inside : place < width
    · simpa [List.getElem?_take, inside] using same place inside
    · simp [inside]
  rw [Bytes.number, Bytes.number, windows]

/-- A codec of two numbers without padding stores the same pair. -/
theorem Agree.pair_eq
    {codec : Codec}
    (agree : codec.Agree left right offset other)
    (plain : ∀ place, codec.isPadding place = false)
    (size : codec.byteSize = 8) :
    left.number 4 offset = right.number 4 other ∧
      left.number 4 (offset + 4) = right.number 4 (other + 4) := by
  constructor
  · apply number_congr
    exact agree.bytes_eq plain 0 (by omega)
  · apply number_congr
    exact agree.bytes_eq plain 4 (by omega)

end Agreement

mutual

/-- The value of a codec depends on no other byte than those of its place, and on no padding
among them. -/
theorem valueAt_congr
    (codec : Codec)
    {left right : Bytes}
    {offset other : Nat}
    (agree : codec.Agree left right offset other) :
    codec.valueAt left offset = codec.valueAt right other := by
  cases codec with
  | nested record fields layout =>
      rw [valueAt, valueAt, valuesAt_congr layout (agree_nested_iff.mp agree)]
  | padding length => rw [valueAt, valueAt]
  | sequence =>
      obtain ⟨start, cardinality⟩ := agree.pair_eq (by simp [isPadding]) (by simp [byteSize])
      rw [valueAt, valueAt, start, cardinality]
  | location =>
      obtain ⟨line, column⟩ := agree.pair_eq (by simp [isPadding]) (by simp [byteSize])
      rw [valueAt, valueAt, line, column]
  | moduleReference =>
      obtain ⟨owner, partition⟩ := agree.pair_eq (by simp [isPadding]) (by simp [byteSize])
      rw [valueAt, valueAt, owner, partition]
  | _ =>
      rw [valueAt, valueAt, number_congr]
      exact agree.bytes_eq (by simp [isPadding]) 0 (by simp [byteSize])

theorem valuesAt_congr
    (layout : List Codec)
    {left right : Bytes}
    {offset other : Nat}
    (agree : LayoutAgree layout left right offset other) :
    valuesAt left layout offset = valuesAt right layout other := by
  cases layout with
  | nil => rw [valuesAt, valuesAt]
  | cons codec rest =>
      rw [valuesAt, valuesAt, valuesAt_congr rest agree.tail, valueAt_congr codec agree.head]

end

mutual

/-- So does whether it has a value there. -/
theorem refusalAt?_congr
    (codec : Codec)
    {left right : Bytes}
    {offset other : Nat}
    (agree : codec.Agree left right offset other) :
    codec.refusalAt? left offset = codec.refusalAt? right other := by
  cases codec with
  | nested record fields layout =>
      rw [refusalAt?, refusalAt?, layoutRefusalAt?_congr layout (agree_nested_iff.mp agree),
        valuesAt_congr layout (agree_nested_iff.mp agree)]
  | member width enumeration =>
      rw [refusalAt?, refusalAt?, number_congr]
      exact agree.bytes_eq (by simp [isPadding]) 0 (by simp [byteSize])
  | _ => simp [refusalAt?]

theorem layoutRefusalAt?_congr
    (layout : List Codec)
    {left right : Bytes}
    {offset other : Nat}
    (agree : LayoutAgree layout left right offset other) :
    layoutRefusalAt? left layout offset = layoutRefusalAt? right layout other := by
  cases layout with
  | nil => rw [layoutRefusalAt?, layoutRefusalAt?]
  | cons codec rest =>
      rw [layoutRefusalAt?, layoutRefusalAt?, refusalAt?_congr codec agree.head,
        layoutRefusalAt?_congr rest agree.tail]

end

end Codec

/-! ## Elements -/

/-- What does not lie inside the bytes is not found. -/
theorem Bytes.place_of_outside
    {bytes : Bytes}
    {offset size : Nat}
    (representable : (offset : Int) < MachineWord.limit)
    (outside : bytes.size < offset + size) :
    bytes.place offset size = .error .layoutViolated := by
  have lower : ¬(offset : Int) < -MachineWord.limit := by
    simp only [MachineWord.limit]
    omega
  have upper : ¬MachineWord.limit ≤ (offset : Int) := by omega
  have nonnegative : ¬(offset : Int) < 0 := by omega
  have short : (bytes.size : Int) < (offset : Int) + size := by omega
  simp [place, lower, upper, nonnegative, short]

namespace Element

/-- An element is read from its bytes as the plain reading finds it there, where they are
all there. -/
theorem readFrom_eq
    (element : Element)
    (bytes : Bytes)
    {offset : Nat}
    (representable : (offset : Int) < MachineWord.limit) :
    element.readFrom bytes offset =
      if bytes.size < offset + element.size then .error .layoutViolated
      else
        match element.codec.refusalAt? bytes offset with
        | none => .ok (element.codec.valueAt bytes offset)
        | some fault => .error fault := by
  by_cases outside : bytes.size < offset + element.size
  · rw [if_pos outside, readFrom, Bytes.place_of_outside representable outside]
    rfl
  · have inside : offset + element.size ≤ bytes.size := by omega
    have numbers : Word.readAll element.codec.words (bytes.window offset element.size) =
        Word.readAll element.codec.words (bytes.toList.drop offset) := by
      rw [Bytes.window_eq, ← totalSize_codec_words, Word.readAll_take]
    rw [if_neg outside, readFrom, Bytes.place_natCast representable inside, Fallible.ok_bind,
      readAt, if_pos inside, read_eq_codec, numbers]
    cases refused : element.codec.refusalAt? bytes offset with
    | none => simp only [Codec.refusal?_readAll, Codec.decode_readAll, refused]
    | some fault => simp only [Codec.refusal?_readAll, refused]

/-- The refusals of an element are not those of missing bytes. -/
theorem isRefusal_of_refusalAt?
    {element : Element}
    {bytes : Bytes}
    {offset : Nat}
    {fault : Fault}
    (refused : element.codec.refusalAt? bytes offset = some fault) :
    fault.isRefusal ∧ ¬element.isTotal := by
  rw [← Codec.refusal?_readAll] at refused
  have failed : element.read (bytes.toList.drop offset) = .error fault := by
    rw [read_eq_codec, refused]
  constructor
  · exact isRefusal_of_read failed
  · intro total
    rw [read_of_isTotal total] at failed
    contradiction

end Element

namespace Schema

theorem size_eq_sum
    (schema : Schema) :
    schema.size = (schema.layout.map Codec.byteSize).sum := by
  rw [size_eq_layoutByteSize]
  induction schema.layout with
  | nil => rw [Codec.layoutByteSize, List.map_nil, List.sum_nil]
  | cons codec rest inductionHypothesis =>
      rw [Codec.layoutByteSize, List.map_cons, List.sum_cons, inductionHypothesis]

/-- Of layouts whose padding is not negative and whose size a machine word holds, those are
compiled that have a value for each field. -/
theorem exists_compile_iff
    {name : String}
    {fields : List String}
    {layout : List Codec}
    (padding : Codec.layoutPaddingOk layout)
    (small : ((layout.map Codec.byteSize).sum : Int) < MachineWord.limit) :
    (∃ schema, compile name fields layout = .ok schema) ↔
      (Codec.fieldCodecs layout).length = fields.length := by
  constructor
  · rintro ⟨schema, compiled⟩
    exact (of_compile compiled).2.1
  · intro sameLength
    have bounded : (Codec.layoutSize layout : Int) < MachineWord.limit := by
      rw [show Codec.layoutSize layout = _ from size_eq_sum ⟨name, fields, layout⟩]
      exact small
    refine ⟨⟨name, fields, layout⟩, ?_⟩
    rw [compile, if_neg (not_not.mpr sameLength), if_pos ⟨padding, bounded⟩]

/-- A record is read as the plain reading finds it, which takes each field from its own
place. -/
structure ReadFieldwise (schema : Schema) : Prop where
  size : schema.size = (schema.layout.map Codec.byteSize).sum
  /-- The only bytes that are asked for are those of the size. -/
  short : ∀ (bytes : Bytes) (offset : Nat), (offset : Int) < MachineWord.limit →
    ((∃ fault, (Element.record schema).readFrom bytes offset = .error fault ∧
        fault.kind = .layoutViolated) ↔
      bytes.size < offset + schema.size)
  outcome : ∀ (bytes : Bytes) (offset : Nat), (offset : Int) < MachineWord.limit →
    offset + schema.size ≤ bytes.size →
      (Element.record schema).readFrom bytes offset =
        match schema.codec.refusalAt? bytes offset with
        | none =>
            .ok (.record schema.name
              (schema.fields.zip (Codec.valuesAt bytes schema.layout offset)))
        | some fault => .error fault
  refused : ∀ bytes offset fault, schema.codec.refusalAt? bytes offset = some fault →
    fault.isRefusal ∧ ¬(Element.record schema).isTotal
  fields : ∀ bytes offset,
    (Codec.valuesAt bytes schema.layout offset).length = schema.fields.length
  /-- Fields of records within it are read at their own places. -/
  reached : ∀ bytes offset path codec place, Codec.FieldAt schema.layout path codec place →
    (Value.record schema.name
      (schema.fields.zip (Codec.valuesAt bytes schema.layout offset))).fieldAt? path =
        some (codec.valueAt bytes (offset + place))
  /-- Where every field is one number, sharing the numbers out makes no difference. -/
  singles : Codec.isSimple schema.layout → ∀ bytes,
    Codec.decodeSingles (Codec.fieldCodecs schema.layout)
        (Word.readAll (Codec.layoutWords schema.layout) bytes) =
      Codec.decodeLayout schema.layout (Word.readAll (Codec.layoutWords schema.layout) bytes)
  /-- No other bytes matter than those of the size, and no padding among them. -/
  alike : ∀ (left right : Bytes) (offset other : Nat),
    (offset : Int) < MachineWord.limit → (other : Int) < MachineWord.limit →
    offset + schema.size ≤ left.size → other + schema.size ≤ right.size →
    Codec.LayoutAgree schema.layout left right offset other →
      (Element.record schema).readFrom left offset =
        (Element.record schema).readFrom right other

/-- A record that has not all its bytes is refused for that, and for nothing else is it
refused so. -/
theorem refused_iff_short
    (schema : Schema)
    (bytes : Bytes)
    {offset : Nat}
    (representable : (offset : Int) < MachineWord.limit) :
    (∃ fault, (Element.record schema).readFrom bytes offset = .error fault ∧
        fault.kind = .layoutViolated) ↔
      bytes.size < offset + schema.size := by
  rw [Element.readFrom_eq _ _ representable, Element.size_record]
  constructor
  · rintro ⟨fault, failed, kind⟩
    by_contra inside
    rw [if_neg inside] at failed
    split at failed
    next => cases failed
    next refused =>
      cases failed
      have apart := Fault.kind_of_isRefusal (Element.isRefusal_of_refusalAt? refused).1
      rw [kind] at apart
      simp at apart
  · intro short
    exact ⟨.layoutViolated, if_pos short, rfl⟩

/-- Records whose bytes are the same, apart from padding, are read alike. -/
theorem readFrom_congr
    (schema : Schema)
    {left right : Bytes}
    {offset other : Nat}
    (representable : (offset : Int) < MachineWord.limit)
    (otherRepresentable : (other : Int) < MachineWord.limit)
    (inside : offset + schema.size ≤ left.size)
    (otherInside : other + schema.size ≤ right.size)
    (agree : Codec.LayoutAgree schema.layout left right offset other) :
    (Element.record schema).readFrom left offset =
      (Element.record schema).readFrom right other := by
  have alike : (Element.record schema).codec.Agree left right offset other :=
    Codec.agree_nested_iff.mpr agree
  rw [Element.readFrom_eq _ _ representable, Element.readFrom_eq _ _ otherRepresentable,
    Element.size_record, if_neg (Nat.not_lt.mpr inside), if_neg (Nat.not_lt.mpr otherInside),
    Codec.refusalAt?_congr _ alike, Codec.valueAt_congr _ alike]

/-- A layout without negative padding, of a size that a machine word holds and of records
that are compiled themselves, is compiled exactly when it has a value for each field, and the
record is then read field by field. -/
theorem read_field_by_field
    {name : String}
    {fields : List String}
    {layout : List Codec}
    (padding : Codec.layoutPaddingOk layout)
    (small : ((layout.map Codec.byteSize).sum : Int) < MachineWord.limit)
    (nested : Codec.LayoutAccepted layout) :
    ((∃ schema, compile name fields layout = .ok schema) ↔
        (Codec.fieldCodecs layout).length = fields.length) ∧
      ∀ schema, compile name fields layout = .ok schema →
        schema = ⟨name, fields, layout⟩ ∧ schema.ReadFieldwise := by
  refine ⟨exists_compile_iff padding small, ?_⟩
  intro schema compiled
  obtain ⟨rfl, sameLength, _⟩ := of_compile compiled
  refine ⟨rfl, ?_⟩
  constructor
  case size => exact size_eq_sum _
  case short =>
    intro bytes offset representable
    exact refused_iff_short _ bytes representable
  case outcome =>
    intro bytes offset representable inside
    have read : (Codec.nested name fields layout).valueAt bytes offset =
        .record name (fields.zip (Codec.valuesAt bytes layout offset)) := by
      rw [Codec.valueAt]
    rw [Element.readFrom_eq _ _ representable, Element.size_record,
      if_neg (Nat.not_lt.mpr inside), ← read]
    rfl
  case refused =>
    intro bytes offset fault refused
    exact Element.isRefusal_of_refusalAt? refused
  case fields =>
    intro bytes offset
    rw [Codec.length_valuesAt, sameLength]
  case reached =>
    intro bytes offset path codec place reached
    exact reached.fieldAt?_eq nested name sameLength bytes offset
  case singles =>
    intro simple bytes
    exact Codec.decodeSingles_eq simple (Codec.length_readAll_layoutWords layout bytes)
  case alike =>
    intro left right offset other representable otherRepresentable inside otherInside agree
    exact readFrom_congr _ representable otherRepresentable inside otherInside agree

/-- The truth value of the flagged record within another is read from its third byte, and
the bytes of padding after it may be anything. -/
theorem read_field_by_field_flaggedWithin :
    Codec.layoutPaddingOk flaggedWithin.layout ∧
      ((flaggedWithin.layout.map Codec.byteSize).sum : Int) < MachineWord.limit ∧
      Codec.LayoutAccepted flaggedWithin.layout ∧
      (∃ schema, compile "Within" flaggedWithin.fields flaggedWithin.layout = .ok schema) ∧
      Codec.FieldAt flaggedWithin.layout [1, 0] .boolean 2 ∧
      (Element.record flaggedWithin).readFrom #[1, 2, 7, 9, 5, 5, 6, 0, 0, 0] 0 =
        (Element.record flaggedWithin).readFrom #[8, 1, 2, 7, 3, 4, 5, 6, 0, 0, 0] 1 := by
  have padding : Codec.layoutPaddingOk flaggedWithin.layout := rfl
  have small : ((flaggedWithin.layout.map Codec.byteSize).sum : Int) < MachineWord.limit := by
    simp [flaggedWithin, flagged, codec, Codec.byteSize, Codec.layoutByteSize, MachineWord.limit]
  have nested : Codec.LayoutAccepted flaggedWithin.layout := by
    simp only [flaggedWithin, flagged, codec, Codec.LayoutAccepted, Codec.Accepted, and_true,
      true_and]
    rfl
  have flag : Codec.FieldAt flaggedWithin.layout [1, 0] .boolean 2 :=
    .within [.unsigned 2] "Flagged" ["flag"] (.field [] (by simp [Codec.arity]) [.padding 1])
      [.padding 2, .index (.tagged .decl)]
  have agree : Codec.LayoutAgree flaggedWithin.layout #[1, 2, 7, 9, 5, 5, 6, 0, 0, 0]
      #[8, 1, 2, 7, 3, 4, 5, 6, 0, 0, 0] 0 1 := by
    unfold Codec.LayoutAgree
    decide
  obtain ⟨compiles, reads⟩ :=
    @read_field_by_field "Within" flaggedWithin.fields _ padding small nested
  obtain ⟨schema, compiled⟩ := compiles.mpr rfl
  obtain ⟨rfl, fieldwise⟩ := reads schema compiled
  have fieldwise : flaggedWithin.ReadFieldwise := fieldwise
  refine ⟨padding, small, nested, ⟨_, compiled⟩, flag, ?_⟩
  exact fieldwise.alike _ _ 0 1 (by decide) (by decide) (by decide) (by decide) agree

/-- A number that a strict enumeration does not name, a field named like what every record
has and an index whose kind is left open are refused though all bytes are there. -/
theorem refused_with_all_bytes :
    (∃ schema, compile "R" ["a"] [.member 1 .access] = .ok schema ∧ schema.size = 1 ∧
      (Element.record schema).readFrom #[9, 200] 1 = .error (.notMember "200" "Access")) ∧
    (∃ schema, compile "R" ["__class__"] [.unsigned 1] = .ok schema ∧ schema.size = 1 ∧
      (Element.record schema).readFrom #[9, 7] 1 = .error (.shapeReplaced "int")) ∧
    ∃ schema, compile "R" ["a"] [.index .anyTagged] = .ok schema ∧ schema.size = 4 ∧
      (Element.record schema).readFrom #[200, 0, 0, 0] 0 =
        .error (.typeMemberAbsent "AbstractIndex" "SORT_BITS") :=
  ⟨⟨⟨"R", ["a"], [.member 1 .access]⟩, rfl, rfl, rfl⟩,
    ⟨⟨"R", ["__class__"], [.unsigned 1]⟩, rfl, rfl, rfl⟩,
    ⟨"R", ["a"], [.index .anyTagged]⟩, rfl, rfl, rfl⟩

end Schema
end ModuleInterface

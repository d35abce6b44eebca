import Mathlib
import ModuleInterface.Codec.Direct
import ModuleInterface.Proofs.Codec.RoundTrip

/-!
# Records are written as they were read

Not every run of bytes is one that is written: padding is written as zeros, and a truth
value as 0 or 1. `Codec.normal` makes these changes and no others. Writing a record that
was read gives the normal form of the bytes that it was read from, whatever is nested in
it (`exists_layoutCarries_normal`).
-/

-- Powers are the core library's, as in the definitions that are reasoned about.
attribute [local instance (1100)] instPowNat

namespace ModuleInterface

namespace Word

/-- Reading some words looks at their bytes alone. -/
theorem readAll_take
    (words : List Word)
    (bytes : List UInt8) :
    readAll words (bytes.take (totalSize words)) = readAll words bytes := by
  induction words generalizing bytes with
  | nil => rfl
  | cons word rest inductionHypothesis =>
      have following : (bytes.take (word.size + totalSize rest)).drop word.size =
          (bytes.drop word.size).take (totalSize rest) := by
        rw [List.drop_take, Nat.add_sub_cancel_left]
      have own : (bytes.take (word.size + totalSize rest)).take word.size =
          bytes.take word.size := by
        rw [List.take_take, Nat.min_eq_left (Nat.le_add_right _ _)]
      rw [totalSize_cons]
      cases word with
      | unsigned width =>
          rw [size_unsigned] at following own ⊢
          rw [readAll_unsigned, readAll_unsigned, own, following, inductionHypothesis]
      | float64 =>
          rw [size_float64] at following own ⊢
          rw [readAll_float64, readAll_float64, own, following, inductionHypothesis]
      | skip length =>
          rw [size_skip] at following own ⊢
          rw [readAll_skip, readAll_skip, following, inductionHypothesis]

/-- Words that carry numbers are written before the words that follow them. -/
theorem Carries.writeAll_append
    {words : List Word}
    {values : List Value}
    {numbers : List Nat}
    (carried : Carries words values numbers)
    (following : List Word)
    (others : List Nat) :
    writeAll (words ++ following) (numbers ++ others) =
      writeAll words numbers ++ writeAll following others := by
  induction carried with
  | nil =>
      cases following with
      | nil => rfl
      | cons word rest => rfl
  | skip length carried inductionHypothesis =>
      simp only [List.cons_append, writeAll, inductionHypothesis, List.append_assoc]
  | unsigned integer fits carried inductionHypothesis =>
      simp only [List.cons_append, writeAll, inductionHypothesis, List.append_assoc]
  | float64 bits fits carried inductionHypothesis =>
      simp only [List.cons_append, writeAll, inductionHypothesis, List.append_assoc]

/-- Whatever words carry stands for a number. -/
theorem Carries.isNumber
    {words : List Word}
    {values : List Value}
    {numbers : List Nat}
    (carried : Carries words values numbers) :
    ∀ value ∈ values, value.integer?.isSome ∨ value.float64?.isSome := by
  induction carried with
  | nil => simp
  | skip length carried inductionHypothesis => exact inductionHypothesis
  | unsigned integer fits carried inductionHypothesis =>
      rw [List.forall_mem_cons, integer]
      exact ⟨.inl rfl, inductionHypothesis⟩
  | float64 bits fits carried inductionHypothesis =>
      rw [List.forall_mem_cons, bits]
      exact ⟨.inr rfl, inductionHypothesis⟩

end Word

/-- What compiling accepts: a field for each codec that has a value, no negative padding, and
a size that a machine word holds. -/
theorem Schema.of_compile
    {name : String}
    {fields : List String}
    {layout : List Codec}
    {schema : Schema}
    (compiled : compile name fields layout = .ok schema) :
    schema = ⟨name, fields, layout⟩ ∧
      (Codec.fieldCodecs layout).length = fields.length ∧
      Codec.layoutPaddingOk layout ∧
      Codec.layoutSize layout < MachineWord.limit := by
  unfold compile at compiled
  simp only at compiled
  split at compiled
  · contradiction
  next sameLength =>
    split at compiled
    next bounded =>
      cases compiled
      exact ⟨rfl, not_not.mp sameLength, bounded⟩
    next => contradiction

namespace Codec

/-! ## Shapes that are accepted -/

mutual

/-- Every record that a codec describes is one that compiling accepts. -/
def Accepted : Codec → Prop
  | .nested record fields layout =>
      Schema.compile record fields layout = .ok ⟨record, fields, layout⟩ ∧
        LayoutAccepted layout
  | _ => True

/-- Every record within a layout is one that compiling accepts. -/
def LayoutAccepted : List Codec → Prop
  | [] => True
  | codec :: rest => codec.Accepted ∧ LayoutAccepted rest

end

theorem length_decodeLayout
    (layout : List Codec)
    (numbers : List Nat) :
    (decodeLayout layout numbers).length = (fieldCodecs layout).length := by
  induction layout generalizing numbers with
  | nil => simp [decodeLayout, fieldCodecs]
  | cons codec rest inductionHypothesis =>
      by_cases valueless : codec.arity = 0
      · rw [decodeLayout, if_pos valueless, inductionHypothesis]
        simp [fieldCodecs, valueless]
      · rw [decodeLayout, if_neg valueless, List.length_cons, inductionHypothesis]
        simp [fieldCodecs, valueless]

/-! ## Normal bytes -/

mutual

/-- The bytes of a codec as they are written: zeros in place of padding, and 0 or 1 for a
truth value. -/
def normal : Codec → List UInt8 → List UInt8
  | .padding _, bytes => bytes.map fun _ => 0
  | .boolean, bytes => bytes.map fun byte => if byte = 0 then 0 else 1
  | .nested _ _ layout, bytes => layoutNormal layout bytes
  | _, bytes => bytes

/-- The bytes of a layout as they are written. -/
def layoutNormal : List Codec → List UInt8 → List UInt8
  | [], _ => []
  | codec :: rest, bytes =>
      codec.normal (bytes.take codec.byteSize) ++ layoutNormal rest (bytes.drop codec.byteSize)

end

/-- The bytes of a layout are those of its first codec and those of the rest. -/
theorem length_parts
    {codec : Codec}
    {rest : List Codec}
    {bytes : List UInt8}
    (size : bytes.length = layoutByteSize (codec :: rest)) :
    (bytes.take codec.byteSize).length = codec.byteSize ∧
      (bytes.drop codec.byteSize).length = layoutByteSize rest := by
  rw [layoutByteSize] at size
  rw [List.length_take, List.length_drop, size]
  omega

mutual

/-- What has no value is written as zeros. -/
theorem writeAll_words_of_arity_eq_zero
    (codec : Codec)
    (valueless : codec.arity = 0)
    {bytes : List UInt8}
    (size : bytes.length = codec.byteSize) :
    Word.writeAll codec.words [] = codec.normal bytes := by
  cases codec with
  | padding length =>
      rw [byteSize] at size
      rw [words, normal, List.map_const', size]
      simp [Word.writeAll]
  | nested record fields layout =>
      rw [arity] at valueless
      rw [byteSize] at size
      rw [words, normal, writeAll_layoutWords_of_arity_eq_zero layout valueless size]
  | _ => simp [arity] at valueless

theorem writeAll_layoutWords_of_arity_eq_zero
    (layout : List Codec)
    (valueless : layoutArity layout = 0)
    {bytes : List UInt8}
    (size : bytes.length = layoutByteSize layout) :
    Word.writeAll (layoutWords layout) [] = layoutNormal layout bytes := by
  cases layout with
  | nil => simp [Word.writeAll, layoutNormal]
  | cons codec rest =>
      obtain ⟨own, following⟩ := length_parts size
      rw [layoutArity_cons, Nat.add_eq_zero_iff] at valueless
      obtain ⟨carried, _⟩ := carries_of_arity_eq_zero codec valueless.1
      have appended := carried.writeAll_append (layoutWords rest) []
      rw [List.append_nil] at appended
      rw [layoutWords_cons, appended, writeAll_words_of_arity_eq_zero codec valueless.1 own,
        writeAll_layoutWords_of_arity_eq_zero rest valueless.2 following, layoutNormal]

end

/-! ## Writing what was read -/

/-- A value of a codec is written as the normal form of some bytes. -/
def WrittenAs (codec : Codec) (value : Value) (bytes : List UInt8) : Prop :=
  ∃ numbers, Word.Carries codec.words (Value.flatten (codec.spliced value)) numbers ∧
    Word.writeAll codec.words numbers = codec.normal bytes

/-- The values of a layout are written as the normal form of some bytes. -/
def LayoutWrittenAs (layout : List Codec) (values : List Value) (bytes : List UInt8) : Prop :=
  ∃ numbers, Word.Carries (layoutWords layout) (Value.flatten (layoutSpliced layout values))
      numbers ∧
    Word.writeAll (layoutWords layout) numbers = layoutNormal layout bytes

/-- What a codec makes of the number of its bytes is written as they are, when it stands
for this number. -/
theorem writtenAs_single
    {codec : Codec}
    {bytes : List UInt8}
    (word : codec.words = [.unsigned bytes.length])
    (whole : ∀ value, codec.spliced value = [value])
    (lowered : ∃ bare, (codec.decode [LittleEndian.decode bytes]).lower = [bare] ∧
      bare.integer? = some ((LittleEndian.decode bytes : Nat) : Int))
    (unchanged : codec.normal bytes = bytes) :
    codec.WrittenAs (codec.decode (Word.readAll codec.words bytes)) bytes := by
  obtain ⟨bare, lower, integer⟩ := lowered
  have read : Word.readAll codec.words bytes = [LittleEndian.decode bytes] := by
    rw [word, Word.readAll_unsigned, List.take_length, Word.readAll_nil]
  refine ⟨[LittleEndian.decode bytes], ?_, ?_⟩
  · rw [read, word, whole, Value.flatten, List.flatMap_singleton, lower]
    exact .unsigned integer (LittleEndian.decode_lt bytes) .nil
  · rw [word, unchanged]
    simp [Word.writeAll, LittleEndian.encode_decode]

/-- What a codec makes of the two numbers of its bytes is written as they are, when it
stands for these numbers. -/
theorem writtenAs_pair
    {codec : Codec}
    {bytes : List UInt8}
    (size : bytes.length = 8)
    (word : codec.words = [.unsigned 4, .unsigned 4])
    (whole : ∀ value, codec.spliced value = [value])
    (lowered : ∀ first second : Nat,
      (codec.decode [first, second]).lower = [.integer first, .integer second])
    (unchanged : codec.normal bytes = bytes) :
    codec.WrittenAs (codec.decode (Word.readAll codec.words bytes)) bytes := by
  have first : (bytes.take 4).length = 4 := by simp [size]
  have second : (bytes.drop 4).length = 4 := by simp [size]
  have firstFits := LittleEndian.decode_lt (bytes.take 4)
  have secondFits := LittleEndian.decode_lt (bytes.drop 4)
  have firstBytes := LittleEndian.encode_decode (bytes.take 4)
  have secondBytes := LittleEndian.encode_decode (bytes.drop 4)
  rw [first] at firstFits firstBytes
  rw [second] at secondFits secondBytes
  have read : Word.readAll codec.words bytes =
      [LittleEndian.decode (bytes.take 4), LittleEndian.decode (bytes.drop 4)] := by
    rw [word, Word.readAll_unsigned, Word.readAll_unsigned, Word.readAll_nil,
      List.take_of_length_le (Nat.le_of_eq second)]
  refine ⟨[LittleEndian.decode (bytes.take 4), LittleEndian.decode (bytes.drop 4)], ?_, ?_⟩
  · rw [read, word, whole, Value.flatten, List.flatMap_singleton, lowered]
    exact .unsigned rfl firstFits (.unsigned rfl secondFits .nil)
  · rw [word, unchanged]
    simp only [Word.writeAll, firstBytes, secondBytes, List.append_nil]
    exact List.take_append_drop 4 bytes

/-- A truth value is written as 0 or 1. -/
theorem writtenAs_boolean
    {bytes : List UInt8}
    (size : bytes.length = 1) :
    boolean.WrittenAs (boolean.decode (Word.readAll boolean.words bytes)) bytes := by
  obtain ⟨byte, rfl⟩ := List.length_eq_one_iff.mp size
  have read : boolean.decode (Word.readAll boolean.words [byte]) =
      .boolean (byte.toNat != 0) := by
    simp [words, decode]
  rw [read]
  by_cases zero : byte = 0
  · subst zero
    refine ⟨[0], ?_, by simp [words, normal, Word.writeAll]⟩
    rw [words, spliced]
    · exact .unsigned rfl (by decide) .nil
    · simp
  · have nonzero : byte.toNat ≠ 0 := fun none => zero (UInt8.toNat_inj.mp none)
    refine ⟨[1], ?_, by simp [words, normal, Word.writeAll, zero]⟩
    rw [words, spliced, bne_iff_ne.mpr nonzero]
    · exact .unsigned rfl (by decide) .nil
    · simp

/-- A floating-point number is written as its bytes. -/
theorem writtenAs_float64
    {bytes : List UInt8}
    (size : bytes.length = 8) :
    float64.WrittenAs (float64.decode (Word.readAll float64.words bytes)) bytes := by
  have fits := LittleEndian.decode_lt bytes
  have written := LittleEndian.encode_decode bytes
  rw [size] at fits written
  have read : float64.decode (Word.readAll float64.words bytes) =
      .float64 (UInt64.ofNat (LittleEndian.decode bytes)) := by
    simp [words, decode, List.take_of_length_le (Nat.le_of_eq size)]
  refine ⟨[LittleEndian.decode bytes], ?_, ?_⟩
  · rw [read, words, spliced]
    · exact .float64 rfl fits .nil
    · simp
  · simp only [words, normal, Word.writeAll, written, List.append_nil]

/-- A record is written as its fields are. -/
theorem LayoutWrittenAs.nested
    {record : String}
    {fields : List String}
    {layout : List Codec}
    {values : List Value}
    {bytes : List UInt8}
    (sameLength : fields.length = values.length)
    (written : LayoutWrittenAs layout values bytes) :
    (Codec.nested record fields layout).WrittenAs (.record record (fields.zip values)) bytes := by
  have unzipped : (fields.zip values).map (·.2) = values :=
    List.map_snd_zip (Nat.le_of_eq sameLength.symm)
  rw [WrittenAs, words, spliced, unzipped, normal]
  exact written

/-- A field and the rest of a layout are written one after another. -/
theorem LayoutWrittenAs.cons
    {codec : Codec}
    {rest : List Codec}
    {value : Value}
    {values : List Value}
    {bytes : List UInt8}
    (valued : codec.arity ≠ 0)
    (written : codec.WrittenAs value (bytes.take codec.byteSize))
    (writtenRest : LayoutWrittenAs rest values (bytes.drop codec.byteSize)) :
    LayoutWrittenAs (codec :: rest) (value :: values) bytes := by
  obtain ⟨numbers, carried, same⟩ := written
  obtain ⟨others, carriedRest, sameRest⟩ := writtenRest
  refine ⟨numbers ++ others, ?_, ?_⟩
  · rw [layoutWords_cons, layoutSpliced, if_neg valued, flatten_append]
    exact carried.append carriedRest
  · rw [layoutWords_cons, carried.writeAll_append, same, sameRest, layoutNormal]

/-- A codec without a value is written as zeros before the rest of a layout. -/
theorem LayoutWrittenAs.cons_of_arity_eq_zero
    {codec : Codec}
    {rest : List Codec}
    {values : List Value}
    {bytes : List UInt8}
    (valueless : codec.arity = 0)
    (size : (bytes.take codec.byteSize).length = codec.byteSize)
    (writtenRest : LayoutWrittenAs rest values (bytes.drop codec.byteSize)) :
    LayoutWrittenAs (codec :: rest) values bytes := by
  obtain ⟨carried, _⟩ := carries_of_arity_eq_zero codec valueless
  obtain ⟨others, carriedRest, sameRest⟩ := writtenRest
  refine ⟨others, ?_, ?_⟩
  · rw [layoutWords_cons, layoutSpliced.eq_def]
    simp only [valueless, if_true]
    exact carried.append carriedRest
  · have appended := carried.writeAll_append (layoutWords rest) others
    rw [List.nil_append] at appended
    rw [layoutWords_cons, appended, writeAll_words_of_arity_eq_zero codec valueless size,
      sameRest, layoutNormal]

/-- The numbers of a layout are those of its first codec and those of the rest, each read
from its own bytes. -/
theorem readAll_layoutWords_cons
    (codec : Codec)
    (rest : List Codec)
    (bytes : List UInt8) :
    Word.readAll (layoutWords (codec :: rest)) bytes =
      Word.readAll codec.words (bytes.take codec.byteSize) ++
        Word.readAll (layoutWords rest) (bytes.drop codec.byteSize) := by
  rw [layoutWords_cons, Word.readAll_append, totalSize_words, ← totalSize_words codec,
    Word.readAll_take]

mutual

/-- A field that is read from some bytes is written as their normal form. -/
theorem writtenAs_decode
    (codec : Codec)
    (accepted : codec.Accepted)
    (valued : codec.arity ≠ 0)
    {bytes : List UInt8}
    (size : bytes.length = codec.byteSize) :
    codec.WrittenAs (codec.decode (Word.readAll codec.words bytes)) bytes := by
  rw [byteSize.eq_def] at size
  cases codec with
  | unsigned width =>
      exact writtenAs_single (by rw [words, size]) (by simp [spliced])
        ⟨.integer (LittleEndian.decode bytes : Nat), by simp [decode, Value.lower], rfl⟩
        (by simp [normal])
  | float64 => exact writtenAs_float64 size
  | boolean => exact writtenAs_boolean size
  | padding length =>
      rw [arity] at valued
      contradiction
  | enumerator width enumeration =>
      exact writtenAs_single (by rw [words, size]) (by simp [spliced])
        ⟨_, by rw [decode, List.headD_cons, lower_enumeration_value], rfl⟩ (by simp [normal])
  | member width enumeration =>
      exact writtenAs_single (by rw [words, size]) (by simp [spliced])
        ⟨_, by rw [decode, List.headD_cons, lower_enumeration_value], rfl⟩ (by simp [normal])
  | flags width set =>
      exact writtenAs_single (by rw [words, size]) (by simp [spliced])
        ⟨.integer (LittleEndian.decode bytes : Nat), by simp [decode, Value.lower], rfl⟩
        (by simp [normal])
  | index kind =>
      have fits := LittleEndian.decode_lt bytes
      rw [size] at fits
      refine writtenAs_single (by rw [words, size]) (by simp [spliced])
        ⟨.integer (LittleEndian.decode bytes : Nat), ?_, rfl⟩ (by simp [normal])
      rw [decode, List.headD_cons]
      cases kind with
      | tagged kind =>
          simp only [IndexKind.ofWord, Value.lower, TaggedIndex.raw_ofWord kind _ fits]
      | plain kind => rfl
      | anyTagged => rfl
  | sequence =>
      exact writtenAs_pair size (by rw [words]) (by simp [spliced])
        (fun first second => by simp [decode, Sequence.value, Value.lower]) (by simp [normal])
  | location =>
      exact writtenAs_pair size (by rw [words]) (by simp [spliced])
        (fun first second => by simp [decode, SourceLocation.value, Value.lower])
        (by simp [normal])
  | moduleReference =>
      exact writtenAs_pair size (by rw [words]) (by simp [spliced])
        (fun first second => by simp [decode, Value.lower]) (by simp [normal])
  | nested record fields layout =>
      rw [Accepted] at accepted
      have sameLength := (Schema.of_compile accepted.1).2.1
      rw [words, decode]
      refine (layoutWrittenAs_decodeLayout layout accepted.2 size).nested ?_
      rw [length_decodeLayout, sameLength]

/-- Fields that are read from the bytes of a layout are written as their normal form. -/
theorem layoutWrittenAs_decodeLayout
    (layout : List Codec)
    (accepted : LayoutAccepted layout)
    {bytes : List UInt8}
    (size : bytes.length = layoutByteSize layout) :
    LayoutWrittenAs layout (decodeLayout layout (Word.readAll (layoutWords layout) bytes))
      bytes := by
  cases layout with
  | nil =>
      refine ⟨[], ?_, ?_⟩
      · simpa [layoutSpliced, Value.flatten] using Word.Carries.nil
      · simp [Word.writeAll, layoutNormal]
  | cons codec rest =>
      obtain ⟨own, following⟩ := length_parts size
      rw [LayoutAccepted] at accepted
      have read : (Word.readAll codec.words (bytes.take codec.byteSize)).length = codec.arity :=
        length_readAll_words codec _
      have writtenRest := layoutWrittenAs_decodeLayout rest accepted.2 following
      rw [readAll_layoutWords_cons]
      by_cases valueless : codec.arity = 0
      · rw [valueless, List.length_eq_zero_iff] at read
        rw [decodeLayout, if_pos valueless, read, List.nil_append]
        exact writtenRest.cons_of_arity_eq_zero valueless own
      · rw [decodeLayout, if_neg valueless, List.take_left' read, List.drop_left' read]
        exact LayoutWrittenAs.cons valueless (writtenAs_decode codec accepted.1 valueless own)
          writtenRest

end

end Codec

namespace Schema

/-! ## Records -/

/-- Values that stand for numbers of the words of a layout are written as these numbers. -/
theorem pack_of_carries
    {schema : Schema}
    {values : List Value}
    {numbers : List Nat}
    (carried : Word.Carries (Codec.layoutWords schema.layout) (Value.flatten values) numbers) :
    schema.pack values = .ok (Word.writeAll (Codec.layoutWords schema.layout) numbers) := by
  have encodable : values.forM Value.requireEncoding = .ok () := by
    refine Fallible.forM_eq_ok fun value member => ?_
    cases value with
    | floating index =>
        have bare : Value.floating index ∈ Value.flatten values :=
          List.mem_flatMap.mpr ⟨_, member, by simp [Value.lower]⟩
        obtain integer | float64 := carried.isNumber _ bare
        · contradiction
        · contradiction
    | _ => rfl
  rw [pack, encodable, Fallible.ok_bind, Codec.pack?, carried.packAll?_eq]
  rfl

/-- A record that has all its bytes is read from them. -/
theorem readFrom_eq_read
    {schema : Schema}
    {bytes : List UInt8}
    (size : bytes.length = schema.size) :
    (Element.record schema).readFrom bytes.toArray 0 = schema.read bytes := by
  have placed : Bytes.place bytes.toArray 0 (Element.record schema).size = .ok 0 :=
    Bytes.place_natCast (by decide) (by simp [size])
  have present : 0 + (Element.record schema).size ≤ bytes.toArray.size := by simp [size]
  rw [Element.readFrom, placed, Fallible.ok_bind, Element.readAt, if_pos present,
    Bytes.window_eq, List.drop_zero, Element.size_record, ← size, List.take_length]
  rfl

theorem size_eq_layoutByteSize
    (schema : Schema) :
    schema.size = Codec.layoutByteSize schema.layout :=
  Codec.totalSize_layoutWords schema.layout

/-- The fields of an accepted record are as many as the values that are read for it. -/
theorem length_fields
    {schema : Schema}
    (accepted : schema.codec.Accepted)
    (numbers : List Nat) :
    schema.fields.length = (Codec.decodeLayout schema.layout numbers).length := by
  rw [codec, Codec.Accepted] at accepted
  rw [Codec.length_decodeLayout, (of_compile accepted.1).2.1]

/-- A record that is given by values for its fields, with those of records within it in
their place, is written to its size and read back as the values that were given. Bytes of
that size from which a record is read are what the record is written to, but for padding,
which is written as zeros, and truth values, which are written as 0 or 1; that no record is
read from them is a refusal, which a total element does not know. -/
theorem round_trips
    {schema : Schema}
    (accepted : schema.codec.Accepted) :
    (∀ given typed, schema.fields.all Value.isOrdinaryName →
      Codec.LayoutHolds schema.layout typed →
      List.Forall₂ Value.SameNumber (Value.flatten given)
        (Value.flatten (Codec.layoutSpliced schema.layout typed)) →
      ∃ bytes, schema.pack given = .ok bytes ∧ bytes.length = schema.size ∧
        (Element.record schema).readFrom bytes.toArray 0 =
          .ok (.record schema.name (schema.fields.zip typed))) ∧
    ∀ bytes : List UInt8, bytes.length = schema.size →
      (∀ fault, (Element.record schema).readFrom bytes.toArray 0 = .error fault →
        fault.isRefusal ∧ ¬(Element.record schema).isTotal) ∧
      ∀ record, (Element.record schema).readFrom bytes.toArray 0 = .ok record →
        ∃ values, record = .record schema.name (schema.fields.zip values) ∧
          schema.fields.length = values.length ∧
          schema.pack (Codec.layoutSpliced schema.layout values) =
            .ok (Codec.layoutNormal schema.layout bytes) := by
  refine ⟨?_, fun bytes size => ⟨?_, ?_⟩⟩
  · intro given typed ordinary held same
    obtain ⟨numbers, stored⟩ := Codec.exists_layoutStores schema.layout held
    have sameLength : schema.fields.length = typed.length := by
      rw [length_fields accepted numbers, stored.decoded]
    have packed := pack_of_carries (stored.carried.of_sameNumbers same)
    have unzipped : (schema.fields.zip typed).map (·.2) = typed :=
      List.map_snd_zip (Nat.le_of_eq sameLength.symm)
    have denoted : (Element.record schema).Denotes (.list given)
        (.record schema.name (schema.fields.zip typed)) := by
      refine ⟨?_, given, rfl, ?_⟩
      · rw [Element.codec, codec, Codec.Holds]
        exact ⟨ordinary, typed, held, sameLength, rfl⟩
      · rw [Element.codec, codec, Codec.spliced, unzipped]
        exact same
    obtain ⟨size, read⟩ := denoted.read_eq packed
    refine ⟨_, packed, size, ?_⟩
    rw [readFrom_eq_read size]
    exact read
  · intro fault failed
    rw [readFrom_eq_read size] at failed
    have read : (Element.record schema).read bytes = .error fault := failed
    refine ⟨Element.isRefusal_of_read read, fun total => ?_⟩
    rw [Element.read_of_isTotal total] at read
    contradiction
  · intro record found
    rw [readFrom_eq_read size, read] at found
    split at found
    next =>
      cases found
      rw [size_eq_layoutByteSize] at size
      rw [codec, Codec.Accepted] at accepted
      obtain ⟨numbers, carried, written⟩ :=
        Codec.layoutWrittenAs_decodeLayout schema.layout accepted.2 size
      refine ⟨_, rfl, ?_, ?_⟩
      · rw [Codec.unpack_eq]
        exact length_fields (by rw [codec, Codec.Accepted]; exact accepted) _
      · rw [Codec.unpack_eq, pack_of_carries carried, written]
    next => contradiction

/-- A record of a truth value and a byte of padding. -/
def flagged : Schema :=
  ⟨"Flagged", ["flag"], [.boolean, .padding 1]⟩

/-- A record with a flagged one between a number and an index. -/
def flaggedWithin : Schema :=
  ⟨"Within", ["number", "flagged", "declaration"],
    [.unsigned 2, flagged.codec, .padding 2, .index (.tagged .decl)]⟩

theorem round_trips_flaggedWithin :
    flaggedWithin.codec.Accepted ∧
      (∃ bytes, flaggedWithin.pack [.integer 513, .boolean true, .integer 6] = .ok bytes ∧
        (Element.record flaggedWithin).readFrom bytes.toArray 0 =
          .ok (.record "Within" [("number", .integer 513),
            ("flagged", .record "Flagged" [("flag", .boolean true)]),
            ("declaration", .tagged (.ofWord .decl 6))])) ∧
      ∃ values,
        (Element.record flaggedWithin).readFrom #[1, 2, 7, 9, 5, 5, 6, 0, 0, 0] 0 =
          .ok (.record "Within" (flaggedWithin.fields.zip values)) ∧
        flaggedWithin.pack (Codec.layoutSpliced flaggedWithin.layout values) =
          .ok [1, 2, 1, 0, 0, 0, 6, 0, 0, 0] := by
  have accepted : flaggedWithin.codec.Accepted := by
    simp only [flaggedWithin, flagged, codec, Codec.Accepted, Codec.LayoutAccepted, and_true,
      true_and]
    exact ⟨rfl, rfl⟩
  obtain ⟨written, read⟩ := round_trips accepted
  refine ⟨accepted, ?_, ?_⟩
  · have inner : flagged.codec.Holds (.record "Flagged" [("flag", .boolean true)]) := by
      simp only [flagged, codec, Codec.Holds, Codec.LayoutHolds, Codec.arity, one_ne_zero,
        if_false, if_true]
      exact ⟨by decide, [.boolean true], ⟨_, _, rfl, ⟨true, rfl⟩, rfl⟩, rfl, rfl⟩
    have held : Codec.LayoutHolds flaggedWithin.layout
        [.integer 513, .record "Flagged" [("flag", .boolean true)], .tagged (.ofWord .decl 6)] := by
      have valued : flagged.codec.arity ≠ 0 := by simp [flagged, codec, Codec.arity]
      simp only [flaggedWithin, Codec.LayoutHolds, Codec.arity, Codec.Holds, valued, one_ne_zero,
        if_false, if_true]
      exact ⟨_, _, rfl, ⟨513, by decide, rfl⟩, _, _, rfl, inner, _, _, rfl,
        ⟨rfl, 6, by decide, rfl⟩, rfl⟩
    have same : List.Forall₂ Value.SameNumber
        (Value.flatten [.integer 513, .boolean true, .integer 6])
        (Value.flatten (Codec.layoutSpliced flaggedWithin.layout
          [.integer 513, .record "Flagged" [("flag", .boolean true)],
            .tagged (.ofWord .decl 6)])) := by
      exact .cons ⟨rfl, rfl⟩ (.cons ⟨rfl, rfl⟩ (.cons ⟨rfl, rfl⟩ .nil))
    obtain ⟨bytes, packed, _, found⟩ := written _ _ (by decide) held same
    exact ⟨bytes, packed, found⟩
  · obtain ⟨_, rewritten⟩ := read [1, 2, 7, 9, 5, 5, 6, 0, 0, 0] rfl
    obtain ⟨values, same, _, packed⟩ := rewritten _ rfl
    exact ⟨values, congrArg Except.ok same, packed⟩

/-- A field named like what every record has is written and not read back. Nor is a number
that a strict enumeration does not name, or an index whose kind is left open. -/
theorem round_trips_exceptions :
    (∃ schema, compile "R" ["__class__"] [.unsigned 1] = .ok schema ∧
      Codec.LayoutHolds schema.layout [.integer 7] ∧
      schema.pack [.integer 7] = .ok [7] ∧
      (Element.record schema).readFrom #[7] 0 = .error (.shapeReplaced "int")) ∧
    (∃ schema, compile "R" ["a"] [.member 1 .access] = .ok schema ∧ schema.size = 1 ∧
      (Element.record schema).readFrom #[200] 0 = .error (.notMember "200" "Access")) ∧
    ∃ schema, compile "R" ["a"] [.index .anyTagged] = .ok schema ∧ schema.size = 4 ∧
      (Element.record schema).readFrom #[200, 0, 0, 0] 0 =
        .error (.typeMemberAbsent "AbstractIndex" "SORT_BITS") := by
  refine ⟨⟨⟨"R", ["__class__"], [.unsigned 1]⟩, rfl, ?_, rfl, rfl⟩,
    ⟨⟨"R", ["a"], [.member 1 .access]⟩, rfl, rfl, rfl⟩,
    ⟨"R", ["a"], [.index .anyTagged]⟩, rfl, rfl, rfl⟩
  simp only [Codec.LayoutHolds, Codec.Holds, Codec.arity, one_ne_zero, if_false]
  exact ⟨_, _, rfl, ⟨7, by decide, rfl⟩, rfl⟩

end Schema
end ModuleInterface

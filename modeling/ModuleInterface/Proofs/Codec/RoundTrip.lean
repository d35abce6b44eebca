import Mathlib
import ModuleInterface.Proofs.Codec.Typed
import ModuleInterface.Proofs.Fallible

/-!
# Elements are read as they were written

An element is written from the values that a caller gives and read from its bytes as a
typed value. `Element.Denotes` relates the two: the typed value is one that the element
can hold, and what was given stands for the same numbers once records within it are
spliced in. Then the written bytes have the size of the element and are read as the
typed value (`Element.Denotes.read_eq`).
-/

-- Powers are the core library's, as in the definitions that are reasoned about.
attribute [local instance (1100)] instPowNat

namespace ModuleInterface

theorem Word.readAll_append
    (first second : List Word)
    (bytes : List UInt8) :
    readAll (first ++ second) bytes =
      readAll first bytes ++ readAll second (bytes.drop (totalSize first)) := by
  induction first generalizing bytes with
  | nil => simp
  | cons word rest inductionHypothesis =>
      cases word with
      | unsigned width => simp [inductionHypothesis]
      | float64 => simp [inductionHypothesis]
      | skip length => simp [inductionHypothesis]

namespace Codec

mutual

/-- As many numbers are read for a codec as it asks for. -/
theorem length_readAll_words
    (codec : Codec)
    (bytes : List UInt8) :
    (Word.readAll codec.words bytes).length = codec.arity := by
  cases codec with
  | nested record fields layout =>
      rw [words, arity]
      exact length_readAll_layoutWords layout bytes
  | _ => simp [words, arity]

/-- As many numbers are read for a layout as its codecs ask for. -/
theorem length_readAll_layoutWords
    (layout : List Codec)
    (bytes : List UInt8) :
    (Word.readAll (layoutWords layout) bytes).length = layoutArity layout := by
  cases layout with
  | nil => simp
  | cons codec rest =>
      rw [layoutWords_cons, Word.readAll_append, List.length_append,
        length_readAll_words codec, length_readAll_layoutWords rest, layoutArity_cons]

end

/-- Where every field is one word, pairing numbers and codecs shares the numbers out. -/
theorem decodeSingles_eq
    {layout : List Codec}
    {numbers : List Nat}
    (simple : isSimple layout)
    (enough : numbers.length = layoutArity layout) :
    decodeSingles (fieldCodecs layout) numbers = decodeLayout layout numbers := by
  induction layout generalizing numbers with
  | nil => simp [fieldCodecs, decodeSingles, decodeLayout]
  | cons codec rest inductionHypothesis =>
      by_cases valueless : codec.arity = 0
      · have skipped : fieldCodecs (codec :: rest) = fieldCodecs rest := by
          simp [fieldCodecs, valueless]
        have simpleRest : isSimple rest := by
          rwa [isSimple, skipped] at simple
        rw [skipped, decodeLayout, if_pos valueless]
        refine inductionHypothesis simpleRest ?_
        rw [enough, layoutArity_cons, valueless, Nat.zero_add]
      · have kept : fieldCodecs (codec :: rest) = codec :: fieldCodecs rest := by
          simp [fieldCodecs, valueless]
        rw [isSimple, kept, List.all_cons, Bool.and_eq_true, beq_iff_eq] at simple
        obtain ⟨single, simpleRest⟩ := simple
        rw [layoutArity_cons, single] at enough
        cases numbers with
        | nil =>
            rw [List.length_nil] at enough
            omega
        | cons number others =>
            have enoughRest : others.length = layoutArity rest := by
              simp only [List.length_cons] at enough
              omega
            rw [kept, decodeLayout, if_neg valueless, single]
            exact congrArg _ (inductionHypothesis simpleRest enoughRest)

/-- Both ways of reading a layout share its numbers out among its codecs. -/
theorem unpack_eq
    (layout : List Codec)
    (bytes : List UInt8) :
    unpack layout bytes = decodeLayout layout (Word.readAll (layoutWords layout) bytes) := by
  rw [unpack]
  by_cases simple : isSimple layout
  · rw [if_pos simple, decodeSingles_eq simple (length_readAll_layoutWords layout bytes)]
  · rw [if_neg simple]

end Codec

namespace Element

/-- The codec of a field that holds an element. -/
def codec : Element → Codec
  | .record schema => schema.codec
  | .index kind => .index kind
  | .sequence => .sequence

theorem totalSize_codec_words
    (element : Element) :
    Word.totalSize element.codec.words = element.size := by
  cases element with
  | record schema => simp [codec, Schema.codec, Codec.words, Schema.size, Codec.layoutSize]
  | index kind => simp [codec, Codec.words]
  | sequence => simp [codec, Codec.words]

/-- An element is read as the field that holds it. -/
theorem read_eq_codec
    (element : Element)
    (bytes : List UInt8) :
    element.read bytes =
      match element.codec.refusal? (Word.readAll element.codec.words bytes) with
      | none => .ok (element.codec.decode (Word.readAll element.codec.words bytes))
      | some fault => .error fault := by
  cases element with
  | record schema =>
      have refusal : schema.codec.refusal? (Word.readAll schema.codec.words bytes) =
          Codec.recordRefusal? schema.name schema.fields schema.layout bytes := by
        simp only [Schema.codec, Codec.words, Codec.refusal?, Codec.recordRefusal?,
          Codec.unpack_eq]
      have value : schema.codec.decode (Word.readAll schema.codec.words bytes) =
          schema.decode bytes := by
        simp only [Schema.codec, Codec.words, Codec.decode, Schema.decode, Codec.unpack_eq]
      cases refused : Codec.recordRefusal? schema.name schema.fields schema.layout bytes with
      | none => simp [read, Schema.read, codec, refusal, value, refused]
      | some fault => simp [read, Schema.read, codec, refusal, refused]
  | index kind =>
      cases refused : kind.refusal? with
      | none => simp [read, decode, codec, Codec.words, Codec.refusal?, Codec.decode, refused]
      | some fault => simp [read, codec, Codec.words, Codec.refusal?, refused]
  | sequence => simp [read, decode, codec, Codec.words, Codec.refusal?, Codec.decode]

/-- The values that are written for what is given as an element: those that a record
consists of, and else the given value itself. -/
def written : Element → Value → Except Fault (List Value)
  | .record _, given => given.components
  | _, given => .ok [given]

/-- What is given for an element stands for a typed value. -/
structure Denotes (element : Element) (given typed : Value) : Prop where
  held : element.codec.Holds typed
  same : ∃ items, element.written given = .ok items ∧
    List.Forall₂ Value.SameNumber (Value.flatten items)
      (Value.flatten (element.codec.spliced typed))

/-- A value that stands for one bare number is converted to it. -/
theorem toInteger_of_lower
    {given bare : Value}
    {number : Int}
    (lowered : given.lower = [bare])
    (integer : bare.integer? = some number)
    (untagged : ∀ index, given ≠ .tagged index) :
    given.requireEncoding = .ok () ∧ given.toInteger = .ok number := by
  cases given with
  | tagged index => exact absurd rfl (untagged index)
  | integer => cases lowered; cases integer; exact ⟨rfl, rfl⟩
  | boolean => cases lowered; cases integer; exact ⟨rfl, rfl⟩
  | enumerator => cases lowered; cases integer; exact ⟨rfl, rfl⟩
  | flags => cases lowered; cases integer; exact ⟨rfl, rfl⟩
  | plain => cases lowered; cases integer; exact ⟨rfl, rfl⟩
  | _ => cases lowered <;> contradiction

/-- A record that is written has its layout written. -/
theorem pack?_of_pack
    {schema : Schema}
    {values : List Value}
    {bytes : List UInt8}
    (packed : schema.pack values = .ok bytes) :
    Codec.pack? schema.layout values = some bytes := by
  obtain ⟨_, _, stored⟩ := Fallible.bind_eq_ok.mp packed
  split at stored
  next found =>
    cases stored
    exact found
  next => contradiction

/-- What is neither a tagged index nor a range is written as one integer, where no record
is asked for. -/
theorem pack_integer
    {element : Element}
    (recordless : ∀ schema, element ≠ .record schema)
    {given : Value}
    (untagged : ∀ index, given ≠ .tagged index)
    (unranged : ∀ start cardinality, given ≠ .sequence start cardinality)
    {number : Int}
    (encodable : given.requireEncoding = .ok ())
    (integer : given.toInteger = .ok number)
    {bytes : List UInt8}
    (written : Word.packInteger? 4 number = some bytes) :
    element.pack given = .ok bytes := by
  cases element with
  | record schema => exact absurd rfl (recordless schema)
  | index kind =>
      cases given with
      | tagged index => exact absurd rfl (untagged index)
      | sequence start cardinality => exact absurd rfl (unranged start cardinality)
      | _ => simp [pack, encodable, integer, written]
  | sequence =>
      cases given with
      | tagged index => exact absurd rfl (untagged index)
      | sequence start cardinality => exact absurd rfl (unranged start cardinality)
      | _ => simp [pack, encodable, integer, written]

/-- An element that is written is written as the numbers that its values stand for. -/
theorem pack_eq_of_carries
    {element : Element}
    {given : Value}
    {bytes : List UInt8}
    (packed : element.pack given = .ok bytes)
    {items : List Value}
    (written : element.written given = .ok items)
    {numbers : List Nat}
    (carried : Word.Carries element.codec.words (Value.flatten items) numbers) :
    bytes = Word.writeAll element.codec.words numbers := by
  cases element with
  | record schema =>
      have components : given.components = .ok items := written
      rw [codec, Schema.codec, Codec.words] at carried ⊢
      rw [pack, components] at packed
      have stored := pack?_of_pack packed
      rw [Codec.pack?, carried.packAll?_eq] at stored
      exact (Option.some.inj stored).symm
  | index kind =>
      cases written
      rw [codec, Codec.words] at carried ⊢
      rw [Value.flatten, List.flatMap_singleton] at carried
      generalize lowered : given.lower = bare at carried
      cases carried with
      | @unsigned width rest value values number numbers integer fits carriedRest =>
          cases carriedRest
          have alone : Word.writeAll [.unsigned 4] [number] = LittleEndian.encode 4 number :=
            List.append_nil _
          rw [alone]
          by_cases tagged : ∃ index, given = .tagged index
          · obtain ⟨index, rfl⟩ := tagged
            cases lowered
            cases integer
            cases packed
            rfl
          · have untagged : ∀ index, given ≠ .tagged index := fun index same =>
              tagged ⟨index, same⟩
            have unranged : ∀ start cardinality, given ≠ .sequence start cardinality := by
              rintro start cardinality rfl
              simp [Value.lower] at lowered
            obtain ⟨encodable, converted⟩ := toInteger_of_lower lowered integer untagged
            rw [pack_integer (fun schema => by simp) untagged unranged encodable converted
              (Word.packInteger?_natCast fits)] at packed
            exact (Except.ok.inj packed).symm
  | sequence =>
      cases written
      rw [codec, Codec.words] at carried ⊢
      rw [Value.flatten, List.flatMap_singleton] at carried
      have stored := carried.packAll?_eq
      cases given with
      | sequence start cardinality =>
          change Word.packAll? [.unsigned 4, .unsigned 4] [start, cardinality] = _ at stored
          have checked : sequence.pack (.sequence start cardinality) =
              .ok (Word.writeAll [.unsigned 4, .unsigned 4] numbers) := by
            simp only [pack, stored]
          rw [checked] at packed
          exact (Except.ok.inj packed).symm
      | location line column => contradiction
      | moduleReference reference => contradiction
      | _ =>
          generalize lowered : Value.lower _ = bare at carried
          cases carried with
          | unsigned _ _ carriedRest =>
              cases carriedRest with
              | unsigned => simp [Value.lower] at lowered

/-- What was written is read back as the typed value that it stands for. -/
theorem Denotes.read_eq
    {element : Element}
    {given typed : Value}
    (denoted : element.Denotes given typed)
    {bytes : List UInt8}
    (packed : element.pack given = .ok bytes) :
    bytes.length = element.size ∧ element.read bytes = .ok typed := by
  obtain ⟨held, items, written, same⟩ := denoted
  obtain ⟨numbers, stored⟩ := element.codec.exists_stores held
  obtain rfl := pack_eq_of_carries packed written (stored.carried.of_sameNumbers same)
  have read : Word.readAll element.codec.words
      (Word.writeAll element.codec.words numbers) = numbers := by
    simpa using stored.carried.readAll_writeAll []
  refine ⟨?_, ?_⟩
  · rw [stored.carried.length_writeAll, totalSize_codec_words]
  · rw [read_eq_codec, read, stored.accepted, stored.decoded]

end Element
end ModuleInterface

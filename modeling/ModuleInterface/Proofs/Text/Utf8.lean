import Mathlib
import ModuleInterface.Text.Utf8

/-!
# UTF-8 is read as it is written

The reader takes the bytes of a character one by one. After the first byte it is in the
middle of the character, and every further byte adds six bits to those that it has read,
until the character is complete. So all characters are read back from their bytes, and
so is every text that has bytes.
-/

namespace ModuleInterface
namespace Utf8

/-- The last byte of an open character completes it. -/
theorem step_last
    {bits : Nat}
    {low high : UInt8}
    {value : Nat}
    (lower : low.toNat ≤ value)
    (upper : value ≤ high.toNat)
    (small : value < 256) :
    step (some ⟨bits, 0, low, high⟩) (UInt8.ofNat value) =
      ([Char.ofNat (bits * 64 + (value - 0x80))], none) := by
  have whole : (UInt8.ofNat value).toNat = value := by
    rw [UInt8.toNat_ofNat']
    omega
  have within : low ≤ UInt8.ofNat value ∧ UInt8.ofNat value ≤ high := by
    simp only [UInt8.le_iff_toNat_le, whole]
    exact ⟨lower, upper⟩
  rw [step, if_pos within, Pending.continue, whole]

/-- A byte of an open character that is not the last adds its bits. -/
theorem step_more
    {bits more : Nat}
    {low high : UInt8}
    {value : Nat}
    (lower : low.toNat ≤ value)
    (upper : value ≤ high.toNat)
    (small : value < 256) :
    step (some ⟨bits, more + 1, low, high⟩) (UInt8.ofNat value) =
      ([], some ⟨bits * 64 + (value - 0x80), more, 0x80, 0xBF⟩) := by
  have whole : (UInt8.ofNat value).toNat = value := by
    rw [UInt8.toNat_ofNat']
    omega
  have within : low ≤ UInt8.ofNat value ∧ UInt8.ofNat value ≤ high := by
    simp only [UInt8.le_iff_toNat_le, whole]
    exact ⟨lower, upper⟩
  rw [step, if_pos within, Pending.continue, whole]

/-- The first byte of a character of two bytes opens it. -/
theorem opening_two
    (bits : Nat)
    (lower : 2 ≤ bits)
    (upper : bits < 0x20) :
    opening (UInt8.ofNat (bits + 0xC0)) = ([], some ⟨bits, 0, 0x80, 0xBF⟩) := by
  have whole : (UInt8.ofNat (bits + 0xC0)).toNat = bits + 0xC0 := by
    rw [UInt8.toNat_ofNat']
    omega
  have past : ¬bits + 0xC0 < 0x80 := by omega
  have start : ¬bits + 0xC0 < 0xC2 := by omega
  have within : bits + 0xC0 < 0xE0 := by omega
  simp only [opening, whole, past, start, within, if_true, if_false, Nat.add_sub_cancel]

/-- The first byte of a character of three bytes opens it, for a second byte that makes
the character neither short enough for two bytes nor half of a pair. -/
theorem opening_three
    (bits second : Nat)
    (upper : bits < 0x10)
    (lowest : 0x80 ≤ second)
    (highest : second ≤ 0xBF)
    (long : bits = 0 → 0xA0 ≤ second)
    (whole : bits = 0xD → second ≤ 0x9F) :
    ∃ low high : UInt8, low.toNat ≤ second ∧ second ≤ high.toNat ∧
      opening (UInt8.ofNat (bits + 0xE0)) = ([], some ⟨bits, 1, low, high⟩) := by
  have value : (UInt8.ofNat (bits + 0xE0)).toNat = bits + 0xE0 := by
    rw [UInt8.toNat_ofNat']
    omega
  have past : ¬bits + 0xE0 < 0x80 := by omega
  have start : ¬bits + 0xE0 < 0xC2 := by omega
  have beyond : ¬bits + 0xE0 < 0xE0 := by omega
  simp only [opening, value, past, start, beyond, if_false]
  by_cases first : bits = 0
  · subst first
    exact ⟨0xA0, 0xBF, long rfl, highest, rfl⟩
  · by_cases surrogate : bits = 0xD
    · subst surrogate
      exact ⟨0x80, 0x9F, lowest, whole rfl, rfl⟩
    · have different : ¬bits + 0xE0 = 0xE0 := by omega
      have other : ¬bits + 0xE0 = 0xED := by omega
      have within : bits + 0xE0 < 0xF0 := by omega
      simp only [different, other, within, if_true, if_false, Nat.add_sub_cancel]
      exact ⟨0x80, 0xBF, lowest, highest, rfl⟩

/-- The first byte of a character of four bytes opens it, for a second byte that makes
the character neither short enough for three bytes nor too great. -/
theorem opening_four
    (bits second : Nat)
    (upper : bits ≤ 4)
    (lowest : 0x80 ≤ second)
    (highest : second ≤ 0xBF)
    (long : bits = 0 → 0x90 ≤ second)
    (small : bits = 4 → second ≤ 0x8F) :
    ∃ low high : UInt8, low.toNat ≤ second ∧ second ≤ high.toNat ∧
      opening (UInt8.ofNat (bits + 0xF0)) = ([], some ⟨bits, 2, low, high⟩) := by
  have value : (UInt8.ofNat (bits + 0xF0)).toNat = bits + 0xF0 := by
    rw [UInt8.toNat_ofNat']
    omega
  have past : ¬bits + 0xF0 < 0x80 := by omega
  have start : ¬bits + 0xF0 < 0xC2 := by omega
  have two : ¬bits + 0xF0 < 0xE0 := by omega
  have first : ¬bits + 0xF0 = 0xE0 := by omega
  have surrogate : ¬bits + 0xF0 = 0xED := by omega
  have three : ¬bits + 0xF0 < 0xF0 := by omega
  simp only [opening, value, past, start, two, first, surrogate, three, if_false]
  by_cases least : bits = 0
  · subst least
    exact ⟨0x90, 0xBF, long rfl, highest, rfl⟩
  · by_cases greatest : bits = 4
    · subst greatest
      exact ⟨0x80, 0x8F, lowest, small rfl, rfl⟩
    · have different : ¬bits + 0xF0 = 0xF0 := by omega
      have within : bits + 0xF0 < 0xF4 := by omega
      simp only [different, within, if_true, if_false, Nat.add_sub_cancel]
      exact ⟨0x80, 0xBF, lowest, highest, rfl⟩

/-- A character is read back from its bytes. -/
theorem decodeFrom_utf8EncodeChar
    (character : Char)
    (rest : List UInt8) :
    decodeFrom none (String.utf8EncodeChar character ++ rest) =
      character :: decodeFrom none rest := by
  have valid := character.valid
  have back : Char.ofNat character.val.toNat = character := Char.ofNat_toNat character
  rw [UInt32.isValidChar, Nat.isValidChar] at valid
  unfold String.utf8EncodeChar
  simp only
  generalize character.val.toNat = code at valid back ⊢
  by_cases one : code ≤ 0x7F
  · have value : (UInt8.ofNat code).toNat = code := by
      rw [UInt8.toNat_ofNat']
      omega
    have small : code < 0x80 := by omega
    rw [if_pos one, List.cons_append, decodeFrom_cons, step, opening, value, if_pos small, back]
    rfl
  rw [if_neg one]
  by_cases two : code ≤ 0x7FF
  · have lead := opening_two (code / 64 % 0x20) (by omega) (by omega)
    have last : step (some ⟨code / 64 % 0x20, 0, 0x80, 0xBF⟩)
        (UInt8.ofNat (code % 0x40 + 0x80)) = ([character], none) := by
      rw [step_last (by simp) (by simp; omega) (by omega)]
      have bits : code / 64 % 0x20 * 64 + (code % 0x40 + 0x80 - 0x80) = code := by omega
      rw [bits, back]
    rw [if_pos two, List.cons_append, List.cons_append, decodeFrom_cons, step, lead,
      decodeFrom_cons, last]
    rfl
  rw [if_neg two]
  by_cases three : code ≤ 0xFFFF
  · obtain ⟨low, high, lower, upper, lead⟩ :=
      opening_three (code / 4096 % 0x10) (code / 64 % 0x40 + 0x80)
        (by omega) (by omega) (by omega) (by omega) (by omega)
    have last : step
        (some ⟨code / 4096 % 0x10 * 64 + (code / 64 % 0x40 + 0x80 - 0x80), 0, 0x80, 0xBF⟩)
        (UInt8.ofNat (code % 0x40 + 0x80)) = ([character], none) := by
      rw [step_last (by simp) (by simp; omega) (by omega)]
      have bits : (code / 4096 % 0x10 * 64 + (code / 64 % 0x40 + 0x80 - 0x80)) * 64 +
          (code % 0x40 + 0x80 - 0x80) = code := by omega
      rw [bits, back]
    rw [if_pos three, List.cons_append, List.cons_append, List.cons_append, decodeFrom_cons,
      step, lead, decodeFrom_cons, step_more lower upper (by omega), decodeFrom_cons, last]
    rfl
  rw [if_neg three]
  obtain ⟨low, high, lower, upper, lead⟩ :=
    opening_four (code / 262144 % 8) (code / 4096 % 0x40 + 0x80)
      (by omega) (by omega) (by omega) (by omega) (by omega)
  have last : step (some ⟨(code / 262144 % 8 * 64 + (code / 4096 % 0x40 + 0x80 - 0x80)) * 64 +
        (code / 64 % 0x40 + 0x80 - 0x80), 0, 0x80, 0xBF⟩)
      (UInt8.ofNat (code % 0x40 + 0x80)) = ([character], none) := by
    rw [step_last (by simp) (by simp; omega) (by omega)]
    have bits : ((code / 262144 % 8 * 64 + (code / 4096 % 0x40 + 0x80 - 0x80)) * 64 +
        (code / 64 % 0x40 + 0x80 - 0x80)) * 64 + (code % 0x40 + 0x80 - 0x80) = code := by omega
    rw [bits, back]
  rw [List.cons_append, List.cons_append, List.cons_append, List.cons_append, decodeFrom_cons,
    step, lead, decodeFrom_cons, step_more lower upper (by omega), decodeFrom_cons,
    step_more (by simp) (by simp; omega) (by omega), decodeFrom_cons, last]
  rfl

/-- All characters are read back from their bytes. -/
theorem decodeFrom_encode
    (characters : List Char) :
    decodeFrom none (encode characters) = characters := by
  induction characters with
  | nil => rfl
  | cons character rest inductionHypothesis =>
      rw [encode, List.flatMap_cons, decodeFrom_utf8EncodeChar]
      exact congrArg _ inductionHypothesis

/-- Bytes that characters are stored as. -/
def Stored (bytes : List UInt8) : Prop :=
  ∃ characters, bytes = encode characters

/-- Different bytes that characters are stored as are read as different texts. -/
theorem Stored.decode_inj
    {left right : List UInt8}
    (storedLeft : Stored left)
    (storedRight : Stored right) :
    decode left = decode right ↔ left = right := by
  constructor
  · intro same
    obtain ⟨first, rfl⟩ := storedLeft
    obtain ⟨second, rfl⟩ := storedRight
    rw [decode, decode, decodeFrom_encode, decodeFrom_encode] at same
    have bytes := congrArg encode? same
    rw [encode?_textOf, encode?_textOf] at bytes
    exact Option.some.inj bytes
  · intro same
    rw [same]

/-- Only the null character has a zero among its bytes. -/
theorem eq_nul_of_mem_utf8EncodeChar
    {character : Char}
    (member : 0 ∈ String.utf8EncodeChar character) :
    character = Char.ofNat 0 := by
  have back : Char.ofNat character.val.toNat = character := Char.ofNat_toNat character
  have nonzero : ∀ value, value % 256 ≠ 0 → (0 : UInt8) ≠ UInt8.ofNat value := by
    intro value different same
    have values := congrArg UInt8.toNat same
    rw [UInt8.toNat_ofNat'] at values
    exact different values.symm
  unfold String.utf8EncodeChar at member
  simp only at member
  have valid := character.valid
  rw [UInt32.isValidChar, Nat.isValidChar] at valid
  generalize character.val.toNat = code at valid back member
  split at member
  · rw [List.mem_singleton] at member
    by_cases zero : code = 0
    · rw [← back, zero]
    · exact absurd member (nonzero _ (by omega))
  · exfalso
    split at member
    · simp only [List.mem_cons, List.not_mem_nil, or_false] at member
      obtain same | same := member
      · exact nonzero _ (by omega) same
      · exact nonzero _ (by omega) same
    · split at member
      · simp only [List.mem_cons, List.not_mem_nil, or_false] at member
        obtain same | same | same := member
        · exact nonzero _ (by omega) same
        · exact nonzero _ (by omega) same
        · exact nonzero _ (by omega) same
      · simp only [List.mem_cons, List.not_mem_nil, or_false] at member
        obtain same | same | same | same := member
        · exact nonzero _ (by omega) same
        · exact nonzero _ (by omega) same
        · exact nonzero _ (by omega) same
        · exact nonzero _ (by omega) same

end Utf8

namespace Symbol

/-- A text holds no null character. -/
def NulFree (text : String) : Prop :=
  .character (Char.ofNat 0) ∉ ofText text

instance (text : String) : Decidable (NulFree text) :=
  inferInstanceAs (Decidable (_ ∉ _))

/-- A text before its first null character, or all of it. -/
def beforeNul (text : String) : String :=
  toText ((ofText text).takeWhile (· ≠ .character (Char.ofNat 0)))

/-- A text without null characters is not cut. -/
theorem NulFree.beforeNul_eq
    {text : String}
    (nulFree : NulFree text) :
    beforeNul text = text := by
  have whole : (ofText text).takeWhile (· ≠ .character (Char.ofNat 0)) = ofText text := by
    rw [List.takeWhile_eq_self_iff]
    intro symbol member
    rw [decide_eq_true_iff]
    rintro rfl
    exact nulFree member
  rw [beforeNul, whole, toText_ofText]

/-- Symbols that are all characters are those of the characters. -/
theorem eq_map_of_mapM_character?
    {symbols : List Symbol}
    {characters : List Char}
    (found : symbols.mapM character? = some characters) :
    symbols = characters.map .character := by
  induction symbols generalizing characters with
  | nil =>
      cases found
      rfl
  | cons symbol rest inductionHypothesis =>
      cases symbol with
      | half number => simp [List.mapM_cons, character?] at found
      | character first =>
          rw [List.mapM_cons, character?, Option.bind_eq_bind, Option.bind_some] at found
          obtain ⟨others, foundRest, final⟩ := Option.bind_eq_some_iff.mp found
          cases final
          rw [List.map_cons, ← inductionHypothesis foundRest]

end Symbol

namespace Utf8

/-- A text that has bytes consists of characters. -/
theorem exists_characters
    {text : String}
    {bytes : List UInt8}
    (encoded : encode? text = some bytes) :
    ∃ characters, Symbol.ofText text = characters.map .character ∧
      bytes = encode characters := by
  obtain ⟨characters, found, final⟩ := Option.bind_eq_some_iff.mp encoded
  cases final
  exact ⟨characters, Symbol.eq_map_of_mapM_character? found, rfl⟩

/-- The bytes of a text up to their first zero, or all of them, are those of the text before
its first null character. -/
theorem exists_beforeNul
    {text : String}
    {bytes : List UInt8}
    (encoded : encode? text = some bytes) :
    ∃ front rest, bytes ++ [0] = front ++ 0 :: rest ∧ 0 ∉ front ∧
      decode front = Symbol.beforeNul text := by
  obtain ⟨characters, symbols, rfl⟩ := exists_characters encoded
  let present : Char → Bool := fun character => character ≠ Char.ofNat 0
  have cut : Symbol.beforeNul text = Symbol.textOf (characters.takeWhile present) := by
    rw [Symbol.beforeNul, symbols, List.takeWhile_map, Symbol.textOf]
    congr 3
    funext character
    simp [present]
  have zeroFree : 0 ∉ encode (characters.takeWhile present) := by
    intro member
    obtain ⟨character, kept, zero⟩ := List.mem_flatMap.mp member
    have differs := List.mem_takeWhile_imp kept
    simp [present, eq_nul_of_mem_utf8EncodeChar zero] at differs
  have parts : encode characters =
      encode (characters.takeWhile present) ++ encode (characters.dropWhile present) := by
    rw [encode, encode, encode, ← List.flatMap_append, List.takeWhile_append_dropWhile]
  have read : decode (encode (characters.takeWhile present)) = Symbol.beforeNul text := by
    rw [decode, decodeFrom_encode, cut]
  cases following : characters.dropWhile present with
  | nil =>
      refine ⟨_, [], ?_, zeroFree, read⟩
      rw [parts, following, encode_nil, List.append_nil]
  | cons character others =>
      have stopped := List.head?_dropWhile_not present characters
      rw [following] at stopped
      have null : character = Char.ofNat 0 := by simpa [present] using stopped
      refine ⟨_, encode others ++ [0], ?_, zeroFree, read⟩
      rw [parts, following, null, encode, encode, List.flatMap_cons, List.append_assoc]
      rfl

end Utf8
end ModuleInterface

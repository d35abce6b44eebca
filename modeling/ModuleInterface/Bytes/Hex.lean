/-!
# Hexadecimal text of bytes

Two lower-case digits a byte, most significant digit first. Reading accepts both
cases, and blanks between the pairs of digits.
-/

namespace ModuleInterface
namespace Hex

/-- The lower-case digit of a number below sixteen. -/
def digit (value : Nat) : Char :=
  if value < 10 then Char.ofNat ('0'.toNat + value)
  else Char.ofNat ('a'.toNat + (value - 10))

/-- The number that one digit stands for, in either case. -/
def digitValue? (character : Char) : Option Nat :=
  if '0' ≤ character ∧ character ≤ '9' then
    some (character.toNat - '0'.toNat)
  else if 'a' ≤ character ∧ character ≤ 'f' then
    some (character.toNat - 'a'.toNat + 10)
  else if 'A' ≤ character ∧ character ≤ 'F' then
    some (character.toNat - 'A'.toNat + 10)
  else none

/-- The digits of one byte. -/
def byteDigits (byte : UInt8) : List Char :=
  [digit (byte.toNat / 16), digit (byte.toNat % 16)]

/-- The hexadecimal text of some bytes. -/
def encode (bytes : List UInt8) : String :=
  String.ofList (bytes.flatMap byteDigits)

/-- Whether a character may stand between the digits of two bytes. -/
def isBlank (character : Char) : Bool :=
  character == ' ' || decide ('\t' ≤ character ∧ character ≤ '\r')

/-- Read bytes from a position on, after those that were found, the latest first. -/
def readFrom : Nat → List UInt8 → List Char → Except Nat (List UInt8)
  | _, found, [] => .ok found.reverse
  | position, found, high :: rest =>
      if isBlank high then readFrom (position + 1) found rest
      else
        match digitValue? high, rest with
        | none, _ => .error position
        | some _, [] => .error (position + 1)
        | some highValue, low :: rest =>
            match digitValue? low with
            | none => .error (position + 1)
            | some lowValue =>
                readFrom (position + 2) (UInt8.ofNat (highValue * 16 + lowValue) :: found) rest

/-- The bytes that a text stands for, or the position of what is not hexadecimal.
A character outside ASCII is found before all else. -/
def read (text : String) : Except Nat (List UInt8) :=
  match text.toList.findIdx? fun character => 0x7F < character.toNat with
  | some position => .error position
  | none => readFrom 0 [] text.toList

/-- A number below sixteen is read back from its digit. -/
theorem digitValue?_digit : ∀ value < 16, digitValue? (digit value) = some value := by
  decide

/-- A digit is no blank. -/
theorem isBlank_digit : ∀ value < 16, isBlank (digit value) = false := by
  decide

/-- A digit is an ASCII character. -/
theorem toNat_digit_le : ∀ value < 16, (digit value).toNat ≤ 0x7F := by
  decide

theorem readFrom_flatMap_byteDigits (position : Nat) (found bytes : List UInt8) :
    readFrom position found (bytes.flatMap byteDigits) = .ok (found.reverse ++ bytes) := by
  induction bytes generalizing position found with
  | nil => simp [readFrom]
  | cons byte rest inductionHypothesis =>
      have byteBound : byte.toNat < 256 := byte.toNat_lt
      have recombined : byte.toNat / 16 * 16 + byte.toNat % 16 = byte.toNat := by omega
      simp [byteDigits, readFrom, isBlank_digit (byte.toNat / 16) (by omega),
        digitValue?_digit (byte.toNat / 16) (by omega),
        digitValue?_digit (byte.toNat % 16) (by omega), inductionHypothesis, recombined]

/-- Every run of bytes is read back from its text. -/
@[simp] theorem read_encode (bytes : List UInt8) : read (encode bytes) = .ok bytes := by
  have ascii : (encode bytes).toList.findIdx? (fun character => 0x7F < character.toNat) =
      none := by
    simp only [encode, String.toList_ofList, List.findIdx?_eq_none_iff, List.mem_flatMap,
      byteDigits, decide_eq_false_iff_not, forall_exists_index, and_imp]
    intro character byte _ member
    have byteBound : byte.toNat < 256 := byte.toNat_lt
    rcases List.mem_cons.mp member with rfl | member
    · have := toNat_digit_le (byte.toNat / 16) (by omega)
      omega
    · obtain rfl := List.mem_singleton.mp member
      have := toNat_digit_le (byte.toNat % 16) (by omega)
      omega
  rw [read, ascii]
  simp [encode, readFrom_flatMap_byteDigits]

end Hex
end ModuleInterface

/-!
# Decimal numerals

A numeral is a run of decimal digits of any script, with a sign in front if need
be, single underscores between digits and blanks around it. The digits of every
script come in runs of ten consecutive characters, from zero to nine. Neither
reading nor printing goes past a fixed number of digits. The digits are counted
before what follows them is looked at.
-/

-- Powers are the core library's, whatever else a reader of this module imports.
attribute [local instance (1100)] instPowNat

namespace ModuleInterface

namespace Digit

/-- The zeros of all scripts, in order. -/
def zeros : List Nat := [
  0x30, 0x660, 0x6F0, 0x7C0, 0x966, 0x9E6, 0xA66, 0xAE6, 0xB66, 0xBE6, 0xC66, 0xCE6, 0xD66,
  0xDE6, 0xE50, 0xED0, 0xF20, 0x1040, 0x1090, 0x17E0, 0x1810, 0x1946, 0x19D0, 0x1A80, 0x1A90,
  0x1B50, 0x1BB0, 0x1C40, 0x1C50, 0xA620, 0xA8D0, 0xA900, 0xA9D0, 0xA9F0, 0xAA50, 0xABF0,
  0xFF10, 0x104A0, 0x10D30, 0x11066, 0x110F0, 0x11136, 0x111D0, 0x112F0, 0x11450, 0x114D0,
  0x11650, 0x116C0, 0x11730, 0x118E0, 0x11950, 0x11C50, 0x11D50, 0x11DA0, 0x16A60, 0x16AC0,
  0x16B50, 0x1D7CE, 0x1D7D8, 0x1D7E2, 0x1D7EC, 0x1D7F6, 0x1E140, 0x1E2F0, 0x1E950, 0x1FBF0]

/-- The number that a decimal digit of any script stands for. -/
def value? (character : Char) : Option Nat :=
  (zeros.find? fun first => first ≤ character.toNat ∧ character.toNat < first + 10).map
    fun first => character.toNat - first

end Digit

namespace Numeral

/-- The greatest number of digits of a numeral. -/
def digitLimit : Nat := 4300

/-- Whether a number has a numeral. -/
def isPrintable (number : Int) : Bool :=
  decide (number.natAbs < 10 ^ digitLimit)

/-- Why a text is not read as an integer. -/
inductive Misspelling
  /-- It is no numeral. -/
  | malformed
  /-- It starts with more digits than a numeral may have. -/
  | overlong (digits : Nat)
  deriving DecidableEq, Repr

/-- The runs of characters that may stand around a numeral. -/
def blanks : List (Nat × Nat) := [
  (0x9, 0xD), (0x20, 0x20), (0x85, 0x85), (0xA0, 0xA0), (0x1680, 0x1680), (0x2000, 0x200A),
  (0x2028, 0x2029), (0x202F, 0x202F), (0x205F, 0x205F), (0x3000, 0x3000)]

/-- Whether a character may stand around a numeral. -/
def isBlank (character : Char) : Bool :=
  blanks.any fun (first, last) => first ≤ character.toNat && character.toNat ≤ last

/-- The digits at the start of a text. -/
structure Digits where
  /-- How many digits were read. -/
  count : Nat
  /-- The number that they spell. -/
  value : Nat
  /-- What follows them. -/
  rest : List Char
  deriving Repr

/-- The digits that continue some already read. An underscore is accepted where
a digit stands on both sides of it. -/
def scan? (count value : Nat) : List Char → Option Digits
  | [] => some ⟨count, value, []⟩
  | '_' :: digit :: rest =>
      match Digit.value? digit with
      | some unit => scan? (count + 1) (10 * value + unit) rest
      | none => none
  | '_' :: [] => none
  | character :: rest =>
      match Digit.value? character with
      | some unit => scan? (count + 1) (10 * value + unit) rest
      | none => some ⟨count, value, character :: rest⟩

/-- The number that a text without a sign spells. -/
def natural (characters : List Char) : Except Misspelling Nat :=
  match characters with
  | '_' :: _ => .error .malformed
  | _ =>
      match scan? 0 0 characters with
      | none => .error .malformed
      | some digits =>
          if digitLimit < digits.count then .error (.overlong digits.count)
          else if 0 < digits.count ∧ digits.rest.all isBlank then .ok digits.value
          else .error .malformed

/-- The integer that a text spells. -/
def parse (text : String) : Except Misspelling Int :=
  match text.toList.dropWhile isBlank with
  | '-' :: rest => (natural rest).map fun number => -(number : Int)
  | '+' :: rest => (natural rest).map fun number => (number : Int)
  | rest => (natural rest).map fun number => (number : Int)

end Numeral
end ModuleInterface

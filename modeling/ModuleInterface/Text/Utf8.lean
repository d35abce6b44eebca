import ModuleInterface.Text.Symbol

/-!
# UTF-8

Text is stored as UTF-8, unless it holds an unpaired surrogate, which has no
bytes. Reading never fails: each maximal run of bytes that starts a character but
cannot be completed is read as one replacement character, and so is each byte that
can start none. The reader is a machine that takes one byte at a time and knows
only the character it is in the middle of.
-/

namespace ModuleInterface
namespace Utf8

/-- The bytes of some characters. -/
def encode (characters : List Char) : List UInt8 :=
  characters.flatMap String.utf8EncodeChar

/-- The bytes of a text that can be stored. -/
def encode? (text : String) : Option (List UInt8) := do
  return encode (← (Symbol.ofText text).mapM Symbol.character?)

/-- The character that stands for bytes that cannot be read. -/
def replacement : Char := '\uFFFD'

/-- A character of which at least one byte is still to come. -/
structure Pending where
  /-- The bits read so far. -/
  bits : Nat
  /-- The number of bytes still to come after the next one. -/
  more : Nat
  /-- The least byte that can come next. -/
  low : UInt8
  /-- The greatest byte that can come next. -/
  high : UInt8
  deriving DecidableEq, Repr

/-- What one byte does: the characters it completes, and the one it leaves open. -/
abbrev Effect := List Char × Option Pending

/-- The effect of a byte that stands between characters. -/
def opening (byte : UInt8) : Effect :=
  let value := byte.toNat
  if value < 0x80 then ([Char.ofNat value], none)
  else if value < 0xC2 then ([replacement], none)
  else if value < 0xE0 then ([], some ⟨value - 0xC0, 0, 0x80, 0xBF⟩)
  else if value = 0xE0 then ([], some ⟨0, 1, 0xA0, 0xBF⟩)
  else if value = 0xED then ([], some ⟨0xD, 1, 0x80, 0x9F⟩)
  else if value < 0xF0 then ([], some ⟨value - 0xE0, 1, 0x80, 0xBF⟩)
  else if value = 0xF0 then ([], some ⟨0, 2, 0x90, 0xBF⟩)
  else if value < 0xF4 then ([], some ⟨value - 0xF0, 2, 0x80, 0xBF⟩)
  else if value = 0xF4 then ([], some ⟨4, 2, 0x80, 0x8F⟩)
  else ([replacement], none)

/-- The effect of a byte that continues a character. -/
def Pending.continue (pending : Pending) (byte : UInt8) : Effect :=
  let bits := pending.bits * 64 + (byte.toNat - 0x80)
  match pending.more with
  | 0 => ([Char.ofNat bits], none)
  | more + 1 => ([], some ⟨bits, more, 0x80, 0xBF⟩)

/-- The effect of a byte. A byte that cannot continue an open character closes
it with a replacement character and is then read afresh. -/
def step : Option Pending → UInt8 → Effect
  | none, byte => opening byte
  | some pending, byte =>
      if pending.low ≤ byte ∧ byte ≤ pending.high then pending.continue byte
      else (replacement :: (opening byte).1, (opening byte).2)

/-- The characters of some bytes, from the middle of an open character. -/
def decodeFrom : Option Pending → List UInt8 → List Char
  | none, [] => []
  | some _, [] => [replacement]
  | pending, byte :: rest =>
      (step pending byte).1 ++ decodeFrom (step pending byte).2 rest

@[simp] theorem decodeFrom_none_nil : decodeFrom none [] = [] := rfl

@[simp] theorem decodeFrom_some_nil (pending : Pending) :
    decodeFrom (some pending) [] = [replacement] := rfl

theorem decodeFrom_cons (pending : Option Pending) (byte : UInt8) (rest : List UInt8) :
    decodeFrom pending (byte :: rest) =
      (step pending byte).1 ++ decodeFrom (step pending byte).2 rest := by
  cases pending <;> rfl

/-- The text of some bytes. -/
def decode (bytes : List UInt8) : String :=
  Symbol.textOf (decodeFrom none bytes)

@[simp] theorem encode_nil : encode [] = [] := rfl

/-- The text of some characters is stored as their bytes. -/
@[simp] theorem encode?_textOf (characters : List Char) :
    encode? (Symbol.textOf characters) = some (encode characters) := by
  rw [encode?, Symbol.textOf, Symbol.ofText_toText, Symbol.mapM_character?]
  rfl

@[simp] theorem encode?_empty : encode? "" = some [] := rfl

@[simp] theorem decode_nil : decode [] = "" := rfl

end Utf8
end ModuleInterface

import ModuleInterface.Bytes.LittleEndian
import ModuleInterface.Fault

/-!
# Windows onto a run of bytes

All reading goes through `window`: the bytes from one offset on, up to a given
number, fewer where the run ends first. `window_eq` states it on the list of
bytes, so that a proof about reading never sees the array.

An offset that a caller gives may count from the end of the bytes. What is read
at it must lie inside the bytes, wherever it is counted from (`place`).
-/

namespace ModuleInterface

/-- The least number that a machine word does not hold. Offsets and lengths are numbers
that a signed machine word of 64 bits holds. -/
def MachineWord.limit : Int := 9223372036854775808

/-- A run of bytes with constant-time access. -/
abbrev Bytes := Array UInt8

namespace Bytes

/-- The `size` bytes from `offset` on, fewer where the bytes end first. -/
def window (bytes : Bytes) (offset size : Nat) : List UInt8 :=
  (bytes.extract offset (offset + size)).toList

theorem window_eq (bytes : Bytes) (offset size : Nat) :
    bytes.window offset size = (bytes.toList.drop offset).take size := by
  simp [window, List.extract_eq_take_drop]

/-- The little-endian number of `width` bytes at `offset`. -/
def number (bytes : Bytes) (width offset : Nat) : Nat :=
  LittleEndian.decode (bytes.window offset width)

/-- The bytes from `offset` to the end. -/
def tail (bytes : Bytes) (offset : Nat) : List UInt8 :=
  bytes.window offset (bytes.size - offset)

theorem tail_eq (bytes : Bytes) (offset : Nat) :
    bytes.tail offset = bytes.toList.drop offset := by
  rw [tail, window_eq]
  apply List.take_of_length_le
  simp

/-- The place of `size` bytes from an offset on. A negative offset counts from
the end of the bytes. An offset past what a machine word holds is refused
before any other. -/
def place (bytes : Bytes) (offset : Int) (size : Nat) : Except Fault Nat :=
  if offset < -MachineWord.limit ∨ MachineWord.limit ≤ offset then .error .offsetOverflow
  else
    let start := if offset < 0 then offset + bytes.size else offset
    if start < 0 ∨ (bytes.size : Int) < start + size then .error .layoutViolated
    else .ok start.toNat

/-- What lies inside the bytes is where its offset says. -/
theorem place_natCast {bytes : Bytes} {offset size : Nat}
    (representable : (offset : Int) < MachineWord.limit)
    (inside : offset + size ≤ bytes.size) :
    bytes.place offset size = .ok offset := by
  have lower : ¬(offset : Int) < -MachineWord.limit := by
    simp only [MachineWord.limit]
    omega
  have upper : ¬MachineWord.limit ≤ (offset : Int) := by omega
  have nonnegative : ¬(offset : Int) < 0 := by omega
  have fits : ¬(bytes.size : Int) < (offset : Int) + size := by omega
  simp [place, lower, upper, nonnegative, fits]

end Bytes
end ModuleInterface

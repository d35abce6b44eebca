import ModuleInterface.Bytes.Window

/-!
# Fields of four bytes

What a format says of a stored number names the place of each of its bytes. `quadAt`
says it so, for a number of four bytes; `number_four` states that reading through a
window gives this number, wherever the bytes end.
-/

namespace ModuleInterface

/-- The byte at a place, zero past the end. -/
def byteAt (data : List UInt8) (place : Nat) : Nat :=
  (data[place]?.getD 0).toNat

/-- The number that four bytes from a place on store, the least significant first. -/
def quadAt (data : List UInt8) (place : Nat) : Nat :=
  byteAt data place + 256 * byteAt data (place + 1) + 65536 * byteAt data (place + 2) +
    16777216 * byteAt data (place + 3)

theorem byteAt_lt (data : List UInt8) (place : Nat) : byteAt data place < 256 :=
  (data[place]?.getD 0).toNat_lt

theorem quadAt_lt (data : List UInt8) (place : Nat) : quadAt data place < 4294967296 := by
  have first := byteAt_lt data place
  have second := byteAt_lt data (place + 1)
  have third := byteAt_lt data (place + 2)
  have fourth := byteAt_lt data (place + 3)
  unfold quadAt
  omega

theorem byteAt_drop (data : List UInt8) (start place : Nat) :
    byteAt (data.drop start) place = byteAt data (start + place) := by
  simp [byteAt]

theorem quadAt_drop (data : List UInt8) (start place : Nat) :
    quadAt (data.drop start) place = quadAt data (start + place) := by
  simp only [quadAt, byteAt_drop, Nat.add_assoc]

/-- A number of four bytes depends on these four bytes alone. -/
theorem quadAt_congr {left right : List UInt8} {place : Nat}
    (same : ∀ index < 4, byteAt left (place + index) = byteAt right (place + index)) :
    quadAt left place = quadAt right place := by
  have first : byteAt left place = byteAt right place := same 0 (by omega)
  simp only [quadAt, first, same 1 (by omega), same 2 (by omega), same 3 (by omega)]

theorem byteAt_append {data added : List UInt8} {place : Nat} (inside : place < data.length) :
    byteAt (data ++ added) place = byteAt data place := by
  simp [byteAt, List.getElem?_append_left inside]

theorem byteAt_set_of_ne {data : List UInt8} {changed place : Nat} (apart : changed ≠ place)
    (byte : UInt8) : byteAt (data.set changed byte) place = byteAt data place := by
  simp [byteAt, List.getElem?_set_ne apart]

/-- A changed byte matters to no number that it is not one of the bytes of. -/
theorem quadAt_set_of_apart {data : List UInt8} {place changed : Nat}
    (apart : changed < place ∨ place + 4 ≤ changed) (byte : UInt8) :
    quadAt (data.set changed byte) place = quadAt data place :=
  quadAt_congr fun index small => byteAt_set_of_ne (by omega) byte

/-- The first four bytes, or as many as there are, denote the number at the start. -/
theorem decode_take_four (data : List UInt8) :
    LittleEndian.decode (data.take 4) = quadAt data 0 := by
  match data with
  | [] => rfl
  | [_] => simp [quadAt, byteAt]
  | [_, _] => simp [quadAt, byteAt]
  | [_, _, _] => simp [quadAt, byteAt]; omega
  | _ :: _ :: _ :: _ :: _ => simp [quadAt, byteAt]; omega

/-- A number of four bytes inside a window is that of its place in all bytes. -/
theorem decode_take_four_window (data : List UInt8) (offset width place : Nat)
    (fits : place + 4 ≤ width) :
    LittleEndian.decode ((((data.drop offset).take width).drop place).take 4) =
      quadAt data (offset + place) := by
  have short : 4 ≤ width - place := by omega
  rw [List.drop_take, List.take_take, List.drop_drop, Nat.min_eq_left short, decode_take_four,
    quadAt_drop, Nat.add_zero]

/-- A number of four bytes is another one when one of its bytes is changed. -/
theorem quadAt_set_ne {data : List UInt8} {place changed : Nat}
    (lower : place ≤ changed) (upper : changed < place + 4) (inside : changed < data.length)
    {byte : UInt8} (different : data[changed]? ≠ some byte) :
    quadAt (data.set changed byte) place ≠ quadAt data place := by
  have decoded : ∀ bytes : List UInt8,
      quadAt bytes place = LittleEndian.decode ((bytes.drop place).take 4) := by
    intro bytes
    rw [decode_take_four, quadAt_drop, Nat.add_zero]
  intro equal
  rw [decoded, decoded] at equal
  have sameLength : (((data.set changed byte).drop place).take 4).length =
      ((data.drop place).take 4).length := by
    simp
  -- What denotes the same number in as many bytes is the same run of bytes.
  have written := LittleEndian.encode_decode (((data.set changed byte).drop place).take 4)
  rw [equal, sameLength, LittleEndian.encode_decode] at written
  have stored := congrArg (fun bytes : List UInt8 => bytes[changed - place]?) written
  have within : changed - place < 4 := by omega
  have here : place + (changed - place) = changed := by omega
  simp only [List.getElem?_take_of_lt within, List.getElem?_drop, here,
    List.getElem?_set_self inside] at stored
  exact different stored

/-- A number of four bytes is that of its place. -/
theorem Bytes.number_four (bytes : Bytes) (offset : Nat) :
    bytes.number 4 offset = quadAt bytes.toList offset := by
  rw [number, window_eq, decode_take_four, quadAt_drop, Nat.add_zero]

end ModuleInterface

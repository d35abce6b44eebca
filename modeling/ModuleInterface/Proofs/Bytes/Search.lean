import Mathlib
import ModuleInterface.Blob
import ModuleInterface.Proofs.Fallible

/-!
# The search for a zero byte

What owns the bytes of a blob decides how the end of a text is searched: all at once, or
chunk after chunk. Both find the same place (`Blob.search_eq`): the first zero byte, or the
end of the bytes (`EndsAt`). So the text that starts at a place is what stands before the
first zero byte from there on, or before the end, whatever owns the bytes
(`Blob.textAt_eq`).
-/

namespace ModuleInterface

/-- The bytes from a place on, up to the first zero byte or the end. -/
def textBytes (data : List UInt8) (place : Nat) : List UInt8 :=
  (data.drop place).takeWhile fun byte => !byte == 0

/-- A search for a zero byte that starts at a place ends at another: there is no zero byte
before, and one there unless the bytes end. -/
structure EndsAt (data : List UInt8) (start stop : Nat) : Prop where
  start_le : start ≤ stop
  stop_le : stop ≤ data.length
  zero : stop < data.length → data[stop]? = some 0
  first : ∀ place, start ≤ place → place < stop → data[place]? ≠ some 0

/-- A search ends at one place. -/
theorem EndsAt.unique
    {data : List UInt8}
    {start stop other : Nat}
    (ends : EndsAt data start stop)
    (endsOther : EndsAt data start other) :
    stop = other := by
  obtain earlier | rfl | later := Nat.lt_trichotomy stop other
  · have zero := ends.zero (Nat.lt_of_lt_of_le earlier endsOther.stop_le)
    exact absurd zero (endsOther.first stop ends.start_le earlier)
  · rfl
  · have zero := endsOther.zero (Nat.lt_of_lt_of_le later ends.stop_le)
    exact absurd zero (ends.first other endsOther.start_le later)

namespace Bytes

/-- Zero bytes are searched from a position on. -/
theorem firstNul_eq (bytes : Bytes) (position : Nat) :
    bytes.firstNul position =
      position + (bytes.toList.drop position).findIdx (· == 0) := by
  rw [firstNul, tail_eq]

/-- The search ends at the end of the bytes. -/
theorem firstNul_le
    (bytes : Bytes)
    {position : Nat}
    (inside : position ≤ bytes.size) :
    bytes.firstNul position ≤ bytes.size := by
  have bound : (bytes.toList.drop position).findIdx (· == 0) ≤
      (bytes.toList.drop position).length :=
    List.findIdx_le_length
  rw [List.length_drop, Array.length_toList] at bound
  rw [firstNul_eq]
  omega

/-- The search ends at the first zero byte, or at the end of the bytes. -/
theorem endsAt_firstNul
    (bytes : Bytes)
    {position : Nat}
    (inside : position ≤ bytes.size) :
    EndsAt bytes.toList position (bytes.firstNul position) := by
  have bound := bytes.firstNul_le inside
  rw [firstNul_eq] at bound ⊢
  constructor
  case start_le => exact Nat.le_add_right _ _
  case stop_le => simpa using bound
  case zero =>
    intro within
    have found : (bytes.toList.drop position).findIdx (· == 0) <
        (bytes.toList.drop position).length := by
      rw [List.length_drop]
      omega
    have zero := List.findIdx_getElem (w := found)
    rw [beq_iff_eq, List.getElem_drop] at zero
    rw [List.getElem?_eq_getElem within, zero]
  case first =>
    intro place lower upper zero
    obtain ⟨index, rfl⟩ := Nat.exists_eq_add_of_le lower
    have earlier : index < (bytes.toList.drop position).findIdx (· == 0) := by omega
    have nonzero := List.not_of_lt_findIdx earlier
    rw [← List.getElem?_drop] at zero
    obtain ⟨inside, value⟩ := List.getElem?_eq_some_iff.mp zero
    simp [value] at nonzero

/-- What is not found in the first bytes of a run is found in the rest of it. -/
theorem findIdx_nul_take_drop (run : List UInt8) (count : Nat) :
    run.findIdx (· == 0) =
      if (run.take count).findIdx (· == 0) < (run.take count).length then
        (run.take count).findIdx (· == 0)
      else (run.take count).length + (run.drop count).findIdx (· == 0) := by
  conv_lhs => rw [← List.take_append_drop count run]
  rw [List.findIdx_append]
  split
  next => rfl
  next => exact Nat.add_comm _ _

/-- A scan of enough chunks ends at the first zero byte, or at the end of the bytes. -/
theorem scanChunks_eq
    (bytes : Bytes)
    {chunks position : Nat}
    (enough : bytes.size ≤ position + chunks * chunkSize) :
    scanChunks bytes chunks position = min (bytes.firstNul position) bytes.size := by
  induction chunks generalizing position with
  | zero =>
      rw [scanChunks, firstNul_eq]
      omega
  | succ chunks inductionHypothesis =>
      have rest : bytes.size ≤ position + chunkSize + chunks * chunkSize := by
        rw [Nat.add_mul, Nat.one_mul] at enough
        omega
      -- The first zero byte is in this chunk, or it is the first of those after it.
      have split := findIdx_nul_take_drop (bytes.toList.drop position) chunkSize
      have length : ((bytes.toList.drop position).take chunkSize).length =
          min chunkSize (bytes.size - position) := by
        simp
      rw [scanChunks, inductionHypothesis rest, window_eq, firstNul_eq, firstNul_eq,
        ← List.drop_drop, split, length]
      split
      next within => omega
      next beyond => omega

end Bytes

/-- A text consists of the bytes before the place where the search for its end ends. -/
theorem EndsAt.textBytes_eq
    {data : List UInt8}
    {start stop : Nat}
    (ends : EndsAt data start stop) :
    textBytes data start = (data.drop start).take (stop - start) := by
  have inside : start ≤ data.toArray.size := Nat.le_trans ends.start_le ends.stop_le
  have found : stop = start + (data.drop start).findIdx (· == 0) := by
    rw [ends.unique (Bytes.endsAt_firstNul data.toArray inside), Bytes.firstNul_eq]
  rw [found, Nat.add_sub_cancel_left, textBytes, List.takeWhile_eq_take_findIdx_not]
  simp

namespace Blob

/-- The end of a text is found at the same place, whatever owns the bytes. -/
theorem search_eq
    (blob : Blob)
    {bytes : Bytes}
    {start : Nat}
    (inside : start ≤ bytes.size) :
    blob.search bytes start = bytes.firstNul start := by
  rw [search]
  split
  next => rfl
  next =>
    have enough : bytes.size ≤ start + (bytes.size / Bytes.chunkSize + 1) * Bytes.chunkSize := by
      rw [Bytes.chunkSize]
      omega
    rw [Bytes.firstNulByChunks, Bytes.scanChunks_eq bytes enough]
    exact Nat.min_eq_left (bytes.firstNul_le inside)

section FindNul

variable {data : List UInt8} (backing : Backing) {start : Value}

/-- What stands for an integer is searched from like it. -/
theorem findNul_of_integer?
    {place : Int}
    (stands : start.integer? = some place) :
    (Blob.of data backing).findNul start =
      (Blob.of data backing).searchFrom data.toArray start place := by
  rw [findNul, stands]
  rfl

/-- What is a floating-point number is searched from like it. -/
theorem findNul_of_float64?
    {bits : UInt64}
    (noInteger : start.integer? = none)
    (stands : start.float64? = some bits) :
    (Blob.of data backing).findNul start =
      (Blob.of data backing).searchFromFloat data.toArray bits := by
  rw [findNul, noInteger, stands]
  rfl

/-- What is no number is not searched from. -/
theorem findNul_of_no_number
    (noInteger : start.integer? = none)
    (noFloat : start.float64? = none) :
    (Blob.of data backing).findNul start = .error (.notStart start.typeName) := by
  rw [findNul, noInteger, noFloat]
  rfl

/-- A search that starts inside the bytes ends, whatever owns them. -/
theorem findNul_eq
    {place : Nat}
    (stands : start.integer? = some (place : Int))
    (inside : place ≤ data.length) :
    (Blob.of data backing).findNul start = .ok (Bytes.firstNul data.toArray place) := by
  have within : ¬((place : Int) < 0 ∨ (data.length : Int) < place) := by omega
  have bounded : place ≤ data.toArray.size := by simpa using inside
  rw [findNul_of_integer? backing stands, searchFrom,
    ← search_eq (Blob.of data backing) bounded]
  exact if_neg within

/-- No search starts outside the bytes. -/
theorem findNul_of_outside
    {place : Int}
    (stands : start.integer? = some place)
    (outside : ¬(0 ≤ place ∧ place ≤ data.length)) :
    (Blob.of data backing).findNul start =
      .error (start.startFault place data.length) := by
  have refused : place < 0 ∨ (data.length : Int) < place := by omega
  rw [findNul_of_integer? backing stands, searchFrom]
  exact if_pos refused

end FindNul

/-- A text is read from the bytes before the first zero byte. -/
theorem textAt_eq
    {data : List UInt8}
    (backing : Backing)
    {start : Nat}
    (inside : start ≤ data.length) :
    (Blob.of data backing).textAt (.integer start) =
      .ok (Utf8.decode (textBytes data start)) := by
  have bounded : start ≤ data.toArray.size := by simpa using inside
  have spelled : Bytes.window data.toArray start (Bytes.firstNul data.toArray start - start) =
      textBytes data start := by
    rw [(Bytes.endsAt_firstNul data.toArray bounded).textBytes_eq, Bytes.window_eq]
  have accessed : (Blob.of data backing).access = .ok data.toArray := rfl
  have place : (Value.integer start).integerOr .notBound = .ok (start : Int) := rfl
  rw [textAt, findNul_eq backing rfl inside, accessed, place, Fallible.ok_bind,
    Fallible.ok_bind, Fallible.ok_bind, Int.toNat_natCast, spelled]
  rfl

/-- No text starts outside the bytes. -/
theorem textAt_of_outside
    {data : List UInt8}
    (backing : Backing)
    {start : Int}
    (outside : ¬(0 ≤ start ∧ start ≤ data.length)) :
    (Blob.of data backing).textAt (.integer start) =
      .error (.textOutsideBlob start data.length) := by
  rw [textAt, findNul_of_outside backing rfl outside, Fallible.error_bind,
    Value.startFault_integer]

/-- The same text starts at a place, whatever owns the bytes. -/
theorem textAt_backing
    (data : List UInt8)
    (backing other : Backing)
    (start : Int) :
    (Blob.of data backing).textAt (.integer start) =
      (Blob.of data other).textAt (.integer start) := by
  by_cases inside : 0 ≤ start ∧ start ≤ data.length
  · obtain ⟨place, rfl⟩ := Int.eq_ofNat_of_zero_le inside.1
    have within : place ≤ data.length := by omega
    rw [textAt_eq backing within, textAt_eq other within]
  · rw [textAt_of_outside backing inside, textAt_of_outside other inside]

end Blob
end ModuleInterface

import ModuleInterface.Bytes.Window
import ModuleInterface.Text.Utf8
import ModuleInterface.Value.Integer

/-!
# Blobs

A blob is a view of bytes that someone else owns. Once it is released, every
use of the bytes fails. The text that starts at an offset ends before the next
zero byte, or with the blob. How that byte is found depends on what backs the
blob: some owners search their own bytes, and for all others the view is
scanned in chunks.

A caller may give anything for an offset or a bound. What a text starts at is
compared with the ends of the bytes, as every number can be, before any byte is
looked at; only an integer has bytes after it.
-/

namespace ModuleInterface

namespace Value

/-- The fault of a start of a text that stands for an integer outside some bytes. A
truth value and an index are shown as they are printed, as long as the digits of the
index can be, and all else by the integer. -/
def startFault (start : Value) (place : Int) (length : Nat) : Fault :=
  match start with
  | .boolean _ => .startOutsideBlob start.render length
  | .plain _ =>
      if Numeral.isPrintable place then .startOutsideBlob start.render length
      else .textOutsideBlob place length
  | _ => .textOutsideBlob place length

@[simp] theorem startFault_integer (number place : Int) (length : Nat) :
    (integer number).startFault place length = .textOutsideBlob place length := rfl

end Value

/-- What owns the bytes of a blob. -/
inductive Backing
  /-- Immutable bytes. -/
  | bytes
  /-- Bytes that can change. -/
  | buffer
  /-- A view of other bytes. -/
  | view
  /-- An array of two-byte items. -/
  | pairs
  /-- An array of four-byte items. -/
  | quads
  /-- A view with two dimensions. -/
  | grid
  deriving DecidableEq, Repr

/-- Whether the owner of the bytes can search them. -/
def Backing.searches : Backing → Bool
  | .bytes => true
  | .buffer => true
  | _ => false

/-- The number of bytes of a row of a grid. -/
def Backing.rowSize : Nat := 2

/-- Fail unless a number of bytes fill the rows of a grid, at least one. -/
def Backing.requireRows (length : Nat) : Except Fault Unit :=
  if length = 0 then .error .gridEmpty
  else if length < rowSize then .error .gridRowless
  else if length % rowSize = 0 then .ok ()
  else .error .gridIncomplete

/-- Fail unless bytes can be owned so: an array has whole items and a grid whole
rows. -/
def Backing.require (data : List UInt8) : Backing → Except Fault Unit
  | .pairs => if data.length % 2 = 0 then .ok () else .error .itemsIncomplete
  | .quads => if data.length % 4 = 0 then .ok () else .error .itemsIncomplete
  | .grid => requireRows data.length
  | _ => .ok ()

namespace Bytes

/-- The position of the first zero byte from a position on, or the number of
bytes. -/
def firstNul (bytes : Bytes) (start : Nat) : Nat :=
  start + (bytes.tail start).findIdx (· == 0)

/-- The number of bytes that a scan looks at together. -/
def chunkSize : Nat := 256

/-- The position of the first zero byte within a number of chunks from a
position on, or the number of bytes. -/
def scanChunks (bytes : Bytes) : Nat → Nat → Nat
  | 0, _ => bytes.size
  | chunks + 1, position =>
      let chunk := bytes.window position chunkSize
      let hit := chunk.findIdx (· == 0)
      if hit < chunk.length then position + hit
      else scanChunks bytes chunks (position + chunkSize)

/-- The position of the first zero byte from a position on, found by a scan in
chunks, or the number of bytes. -/
def firstNulByChunks (bytes : Bytes) (start : Nat) : Nat :=
  scanChunks bytes (bytes.size / chunkSize + 1) start

/-- The position that a bound of a slice stands for: a negative bound counts
from the end, and every bound is clipped to the bytes. -/
def clip (bytes : Bytes) (bound : Int) : Nat :=
  if bound < 0 then (bound + bytes.size).toNat else min bound.toNat bytes.size

/-- The bytes between two bounds. -/
def slice (bytes : Bytes) (start stop : Int) : List UInt8 :=
  bytes.window (bytes.clip start) (bytes.clip stop - bytes.clip start)

end Bytes

/-- A view of bytes that someone else owns. -/
structure Blob where
  bytes : Bytes
  backing : Backing
  released : Bool
  deriving Repr

namespace Blob

/-- A view of some bytes. -/
def of (bytes : List UInt8) (backing : Backing) : Blob :=
  ⟨bytes.toArray, backing, false⟩

/-- The same blob after its release. -/
def release (blob : Blob) : Blob :=
  { blob with released := true }

/-- The bytes, unless they have been released. -/
def access (blob : Blob) : Except Fault Bytes :=
  if blob.released then .error .released else .ok blob.bytes

@[simp] theorem access_release (blob : Blob) :
    blob.release.access = .error .released := rfl

/-- The number of bytes. -/
def length (blob : Blob) : Except Fault Nat := do
  return (← blob.access).size

/-- The position of the first zero byte from a position on, as the backing
finds it. -/
def search (blob : Blob) (bytes : Bytes) (start : Nat) : Nat :=
  if blob.backing.searches then bytes.firstNul start else bytes.firstNulByChunks start

/-- The position of the first zero byte from an integer on. The integer must not lie
outside the bytes: what is given for it is shown if it does. -/
def searchFrom (blob : Blob) (bytes : Bytes) (given : Value) (start : Int) :
    Except Fault Nat :=
  if start < 0 ∨ (bytes.size : Int) < start then
    .error (given.startFault start bytes.size)
  else .ok (blob.search bytes start.toNat)

/-- Where a search from a floating-point number ends. The number must not lie outside
the bytes, and no byte can be looked at from it on: a scan has ended when it starts
where the bytes end, or at no number. -/
def searchFromFloat (blob : Blob) (bytes : Bytes) (start : UInt64) : Except Fault Nat :=
  if Binary64.isOutside start bytes.size then
    .error (.startOutsideBlob (Binary64.text start) bytes.size)
  else if blob.backing.searches ∨ Binary64.isBelow start bytes.size then
    .error .notBound
  else .ok bytes.size

/-- The position of the first zero byte from where a text starts, or the number of
bytes. Only a number can be compared with the ends of the bytes. -/
def findNul (blob : Blob) (start : Value) : Except Fault Nat := do
  let bytes ← blob.access
  match start.integer?, start.float64? with
  | some place, _ => blob.searchFrom bytes start place
  | none, some bits => blob.searchFromFloat bytes bits
  | none, none => throw (.notStart start.typeName)

/-- The text that starts at a position. -/
def textAt (blob : Blob) (start : Value) : Except Fault String := do
  let stop ← blob.findNul start
  let bytes ← blob.access
  let place ← start.integerOr .notBound
  return Utf8.decode (bytes.window place.toNat (stop - place.toNat))

/-- The bytes between two bounds. -/
def slice (blob : Blob) (start stop : Value) : Except Fault (List UInt8) := do
  let bytes ← blob.access
  return bytes.slice (← start.toBound 0) (← stop.toBound bytes.size)

end Blob

/-- An item of a fixed format. -/
inductive FormatItem
  /-- A number of `width` bytes. -/
  | unsigned (width : Nat)
  /-- Bytes without meaning. -/
  | skip (length : Nat)
  /-- Bytes as they are. -/
  | raw (length : Nat)
  deriving DecidableEq, Repr

namespace FormatItem

/-- The number of bytes of an item. -/
def size : FormatItem → Nat
  | .unsigned width => width
  | .skip length => length
  | .raw length => length

/-- The number of bytes of a format. -/
def totalSize : List FormatItem → Nat
  | [] => 0
  | item :: items => item.size + totalSize items

/-- The values that some items read from bytes. -/
def readAll : List FormatItem → List UInt8 → List Value
  | [], _ => []
  | .unsigned width :: rest, bytes =>
      .integer (LittleEndian.decode (bytes.take width)) :: readAll rest (bytes.drop width)
  | .skip length :: rest, bytes => readAll rest (bytes.drop length)
  | .raw length :: rest, bytes => .bytes (bytes.take length) :: readAll rest (bytes.drop length)

end FormatItem

/-- The values of a fixed format at an offset that may count from the end. -/
def Blob.unpack (blob : Blob) (format : List FormatItem) (offset : Value) :
    Except Fault (List Value) := do
  let bytes ← blob.access
  let size := FormatItem.totalSize format
  let start ← bytes.place (← offset.toOffset) size
  return FormatItem.readAll format (bytes.window start size)

end ModuleInterface

import ModuleInterface.Bytes.LittleEndian

/-!
# SHA-256

The digest that a container's header records of its own content. The message
is padded to whole blocks of 64 bytes, and each block is folded into a state of
eight 32-bit words.
-/

namespace ModuleInterface
namespace Sha256

/-- The chaining state: eight words. -/
structure State where
  a : UInt32
  b : UInt32
  c : UInt32
  d : UInt32
  e : UInt32
  f : UInt32
  g : UInt32
  h : UInt32
  deriving DecidableEq, Repr

namespace State

/-- The words of a state, in order. -/
def words (state : State) : List UInt32 :=
  [state.a, state.b, state.c, state.d, state.e, state.f, state.g, state.h]

/-- Wordwise sum of two states. -/
def add (left right : State) : State :=
  ⟨left.a + right.a, left.b + right.b, left.c + right.c, left.d + right.d,
    left.e + right.e, left.f + right.f, left.g + right.g, left.h + right.h⟩

end State

/-- The state before the first block. -/
def initial : State :=
  ⟨0x6a09e667, 0xbb67ae85, 0x3c6ef372, 0xa54ff53a,
    0x510e527f, 0x9b05688c, 0x1f83d9ab, 0x5be0cd19⟩

/-- The constants of the sixty-four rounds. -/
def roundConstants : List UInt32 := [
  0x428a2f98, 0x71374491, 0xb5c0fbcf, 0xe9b5dba5, 0x3956c25b, 0x59f111f1,
  0x923f82a4, 0xab1c5ed5, 0xd807aa98, 0x12835b01, 0x243185be, 0x550c7dc3,
  0x72be5d74, 0x80deb1fe, 0x9bdc06a7, 0xc19bf174, 0xe49b69c1, 0xefbe4786,
  0x0fc19dc6, 0x240ca1cc, 0x2de92c6f, 0x4a7484aa, 0x5cb0a9dc, 0x76f988da,
  0x983e5152, 0xa831c66d, 0xb00327c8, 0xbf597fc7, 0xc6e00bf3, 0xd5a79147,
  0x06ca6351, 0x14292967, 0x27b70a85, 0x2e1b2138, 0x4d2c6dfc, 0x53380d13,
  0x650a7354, 0x766a0abb, 0x81c2c92e, 0x92722c85, 0xa2bfe8a1, 0xa81a664b,
  0xc24b8b70, 0xc76c51a3, 0xd192e819, 0xd6990624, 0xf40e3585, 0x106aa070,
  0x19a4c116, 0x1e376c08, 0x2748774c, 0x34b0bcb5, 0x391c0cb3, 0x4ed8aa4a,
  0x5b9cca4f, 0x682e6ff3, 0x748f82ee, 0x78a5636f, 0x84c87814, 0x8cc70208,
  0x90befffa, 0xa4506ceb, 0xbef9a3f7, 0xc67178f2
]

/-- Rotation of a word to the right. -/
def rotate (word : UInt32) (amount : UInt32) : UInt32 :=
  word >>> amount ||| word <<< (32 - amount)

/-- One round: the state after mixing in a constant and a word of the schedule. -/
def round (state : State) (input : UInt32 × UInt32) : State :=
  let mixE := rotate state.e 6 ^^^ rotate state.e 11 ^^^ rotate state.e 25
  let choice := (state.e &&& state.f) ^^^ (~~~state.e &&& state.g)
  let first := state.h + mixE + choice + input.1 + input.2
  let mixA := rotate state.a 2 ^^^ rotate state.a 13 ^^^ rotate state.a 22
  let majority :=
    (state.a &&& state.b) ^^^ (state.a &&& state.c) ^^^ (state.b &&& state.c)
  ⟨first + mixA + majority, state.a, state.b, state.c,
    state.d + first, state.e, state.f, state.g⟩

/-- The schedule with its next word, which depends on the last sixteen. -/
def extendSchedule (schedule : Array UInt32) : Array UInt32 :=
  let word := fun back => schedule.getD (schedule.size - back) 0
  let near := rotate (word 15) 7 ^^^ rotate (word 15) 18 ^^^ word 15 >>> 3
  let far := rotate (word 2) 17 ^^^ rotate (word 2) 19 ^^^ word 2 >>> 10
  schedule.push (word 16 + near + word 7 + far)

/-- The word that four bytes stand for, most significant first. -/
def bigEndianWord (bytes : List UInt8) : UInt32 :=
  bytes.foldl (fun word byte => word <<< 8 ||| byte.toUInt32) 0

/-- The sixteen words of a block. -/
def blockWords (block : List UInt8) : List UInt32 :=
  (List.range 16).map fun index => bigEndianWord ((block.drop (4 * index)).take 4)

/-- The sixty-four words of a block's schedule. -/
def schedule (block : List UInt8) : List UInt32 :=
  (Nat.repeat extendSchedule 48 (blockWords block).toArray).toList

/-- The state after one block. -/
def compress (state : State) (block : List UInt8) : State :=
  state.add ((roundConstants.zip (schedule block)).foldl round state)

/-- The bytes of a number of 64 bits, most significant first. -/
def lengthBytes (value : Nat) : List UInt8 :=
  (LittleEndian.encode 8 value).reverse

/-- The message with the marker, zeros and its length in bits, in whole blocks. -/
def pad (message : List UInt8) : List UInt8 :=
  let zeros := (119 - message.length % 64) % 64
  message ++ 0x80 :: List.replicate zeros 0 ++ lengthBytes (8 * message.length)

/-- The state after a number of blocks. -/
def compressBlocks : Nat → State → List UInt8 → State
  | 0, state, _ => state
  | blocks + 1, state, bytes =>
      compressBlocks blocks (compress state (bytes.take 64)) (bytes.drop 64)

/-- The four bytes of a word, most significant first. -/
def wordBytes (word : UInt32) : List UInt8 :=
  [(word >>> 24).toUInt8, (word >>> 16).toUInt8, (word >>> 8).toUInt8, word.toUInt8]

/-- The thirty-two bytes of a message's digest. -/
def digest (message : List UInt8) : List UInt8 :=
  let padded := pad message
  (compressBlocks (padded.length / 64) initial padded).words.flatMap wordBytes

/-- A digest has thirty-two bytes. -/
@[simp] theorem length_digest (message : List UInt8) : (digest message).length = 32 := by
  simp [digest, State.words, wordBytes]

end Sha256
end ModuleInterface

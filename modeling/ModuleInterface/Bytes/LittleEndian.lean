/-!
# Little-endian numbers

Every number in a container is stored with its least significant byte first.
`encode` writes the low-order bytes of a number and `decode` reads a number
back from any run of bytes. The two are inverse on numbers that fit the width
and on runs of exactly that width.
-/

-- Powers are the core library's, whatever else a reader of this module imports.
attribute [local instance (1100)] instPowNat

namespace ModuleInterface
namespace LittleEndian

/-- The `width` low-order bytes of a number, least significant first. -/
def encode : Nat → Nat → List UInt8
  | 0, _ => []
  | width + 1, value => UInt8.ofNat value :: encode width (value / 256)

/-- The number whose bytes, least significant first, are given. -/
def decode : List UInt8 → Nat
  | [] => 0
  | byte :: rest => byte.toNat + 256 * decode rest

@[simp] theorem encode_zero (value : Nat) : encode 0 value = [] := rfl

@[simp] theorem encode_succ (width value : Nat) :
    encode (width + 1) value = UInt8.ofNat value :: encode width (value / 256) := rfl

@[simp] theorem decode_nil : decode [] = 0 := rfl

@[simp] theorem decode_cons (byte : UInt8) (rest : List UInt8) :
    decode (byte :: rest) = byte.toNat + 256 * decode rest := rfl

@[simp] theorem length_encode (width value : Nat) :
    (encode width value).length = width := by
  induction width generalizing value with
  | zero => rfl
  | succ width inductionHypothesis => simp [inductionHypothesis]

/-- A run of bytes denotes a number below 256 to the power of its length. -/
theorem decode_lt (bytes : List UInt8) : decode bytes < 256 ^ bytes.length := by
  induction bytes with
  | nil => simp
  | cons byte rest inductionHypothesis =>
      have byteBound : byte.toNat < 256 := byte.toNat_lt
      simp only [decode_cons, List.length_cons, Nat.pow_succ]
      omega

/-- Reading back the bytes of a number that fits the width gives the number. -/
theorem decode_encode (width value : Nat) (fits : value < 256 ^ width) :
    decode (encode width value) = value := by
  induction width generalizing value with
  | zero => simp at fits; simp [fits]
  | succ width inductionHypothesis =>
      have quotientFits : value / 256 < 256 ^ width := by
        rw [Nat.pow_succ] at fits
        omega
      simp only [encode_succ, decode_cons, inductionHypothesis _ quotientFits,
        UInt8.toNat_ofNat']
      omega

/-- Writing the number that a run of bytes denotes gives the same bytes. -/
theorem encode_decode (bytes : List UInt8) :
    encode bytes.length (decode bytes) = bytes := by
  induction bytes with
  | nil => rfl
  | cons byte rest inductionHypothesis =>
      have byteBound : byte.toNat < 256 := byte.toNat_lt
      have quotient : (byte.toNat + 256 * decode rest) / 256 = decode rest := by omega
      have head : UInt8.ofNat (byte.toNat + 256 * decode rest) = byte := by
        apply UInt8.toNat_inj.mp
        rw [UInt8.toNat_ofNat']
        omega
      simp only [List.length_cons, encode_succ, decode_cons, quotient, head,
        inductionHypothesis]

end LittleEndian
end ModuleInterface

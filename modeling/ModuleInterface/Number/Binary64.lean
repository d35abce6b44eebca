/-!
# Binary floating-point numbers of 64 bits

A number is held as its 64 bits. `ofInt?` rounds an integer to the nearest
number, a tie to the even significand, and fails when the integer lies past the
largest finite one. `truncate` drops the fraction of a finite number.
-/

-- Powers are the core library's, whatever else a reader of this module imports.
attribute [local instance (1100)] instPowNat

namespace ModuleInterface
namespace Binary64

/-- The number of bits of the fraction. -/
abbrev fractionBits : Nat := 52

/-- The number of bits of the exponent. -/
abbrev exponentBits : Nat := 11

/-- The number of bits below the sign. -/
abbrev magnitudeBits : Nat := fractionBits + exponentBits

/-- The difference between the exponent bits and the power of two that an
integral significand is multiplied by. -/
abbrev scaleBits : Nat := 1075

/-- The exponent bits of what is not finite. -/
abbrev topExponent : Nat := 2047

/-- The fraction bits of a number. -/
def fraction (bits : UInt64) : Nat :=
  bits.toNat % 2 ^ fractionBits

/-- The exponent bits of a number. -/
def exponent (bits : UInt64) : Nat :=
  bits.toNat / 2 ^ fractionBits % 2 ^ exponentBits

/-- Whether the sign bit is set. -/
def isNegative (bits : UInt64) : Bool :=
  decide (2 ^ magnitudeBits ≤ bits.toNat)

/-- Whether the bits stand for no number. -/
def isNaN (bits : UInt64) : Bool :=
  exponent bits == topExponent && fraction bits != 0

/-- The bits that are written for no number. -/
def nan : UInt64 := 0x7FF8000000000000

/-- Whether the bits stand for an infinity. -/
def isInfinite (bits : UInt64) : Bool :=
  exponent bits == topExponent && fraction bits == 0

/-- The integral significand of a finite number's magnitude and its power of two,
offset by `scaleBits`. -/
def scaled (bits : UInt64) : Nat × Nat :=
  if exponent bits = 0 then (fraction bits, 1)
  else (2 ^ fractionBits + fraction bits, exponent bits)

/-- Apply the sign of a number to a magnitude. -/
def signed (bits : UInt64) (magnitude : Nat) : Int :=
  if isNegative bits then -(magnitude : Int) else magnitude

/-- The integer part of a finite number. -/
def truncate (bits : UInt64) : Int :=
  let (significand, power) := scaled bits
  signed bits
    (if scaleBits ≤ power then significand * 2 ^ (power - scaleBits)
      else significand / 2 ^ (scaleBits - power))

/-- Whether a number equals an integer. -/
def equalsInt (bits : UInt64) (value : Int) : Bool :=
  let (significand, power) := scaled bits
  exponent bits != topExponent &&
    signed bits (significand * 2 ^ power) == value * 2 ^ scaleBits

/-- Whether a number is at least zero and less than a natural number. -/
def isBelow (bits : UInt64) (limit : Nat) : Bool :=
  exponent bits != topExponent && (!isNegative bits || equalsInt bits 0) &&
    decide (truncate bits < limit)

/-- Whether a number is below zero or greater than a natural number. What is no number
is neither. -/
def isOutside (bits : UInt64) (limit : Nat) : Bool :=
  !isNaN bits && !isBelow bits limit && !equalsInt bits limit

/-- The integer part of a number that is at least zero is no less than zero. -/
theorem truncate_nonneg {bits : UInt64} {limit : Nat} (below : isBelow bits limit = true) :
    0 ≤ truncate bits := by
  simp only [isBelow, Bool.and_eq_true, Bool.or_eq_true] at below
  obtain ⟨⟨_, bound⟩, _⟩ := below
  cases sign : isNegative bits with
  | false =>
      simp only [truncate, signed, sign, Bool.false_eq_true, if_false]
      exact Int.natCast_nonneg _
  | true =>
      simp only [sign, Bool.not_true, Bool.false_eq_true, false_or, equalsInt, signed,
        Bool.and_eq_true, beq_iff_eq, if_true, Int.zero_mul, Int.neg_eq_zero] at bound
      have none : (scaled bits).1 = 0 := by
        have product : (scaled bits).1 * 2 ^ (scaled bits).2 = 0 := by
          exact_mod_cast bound.2
        rcases Nat.mul_eq_zero.mp product with significand | power
        · exact significand
        · exact absurd power (Nat.ne_of_gt (Nat.two_pow_pos _))
      simp [truncate, none, signed]

/-- A signed magnitude that is a multiple of a power of two has the sign of the factor. -/
theorem signed_eq_mul {bits : UInt64} {magnitude power : Nat} {value : Int}
    (product : signed bits magnitude = value * 2 ^ power) :
    magnitude = value.natAbs * 2 ^ power ∧ signed bits value.natAbs = value := by
  have positive : (0 : Int) < 2 ^ power := Int.pow_pos (by decide)
  have absolute : (signed bits magnitude).natAbs = magnitude := by
    unfold signed
    split <;> simp
  refine ⟨?_, ?_⟩
  · rw [← absolute, product, Int.natAbs_mul, Int.natAbs_pow]
    rfl
  · unfold signed at product ⊢
    split
    next negative =>
      rw [if_pos negative] at product
      have bound : value * 2 ^ power ≤ 0 * 2 ^ power := by
        rw [← product, Int.zero_mul]
        exact Int.neg_nonpos_of_nonneg (Int.natCast_nonneg _)
      have nonpositive := Int.le_of_mul_le_mul_right bound positive
      omega
    next positiveSign =>
      rw [if_neg positiveSign] at product
      have bound : 0 * 2 ^ power ≤ value * 2 ^ power := by
        rw [← product, Int.zero_mul]
        exact Int.natCast_nonneg _
      have nonnegative := Int.le_of_mul_le_mul_right bound positive
      omega

/-- A number that equals an integer has it as its integer part. -/
theorem truncate_of_equalsInt {bits : UInt64} {value : Int}
    (equal : equalsInt bits value = true) : truncate bits = value := by
  simp only [equalsInt, Bool.and_eq_true, beq_iff_eq] at equal
  obtain ⟨magnitude, sign⟩ := signed_eq_mul equal.2
  have whole : (if scaleBits ≤ (scaled bits).2 then
      (scaled bits).1 * 2 ^ ((scaled bits).2 - scaleBits)
      else (scaled bits).1 / 2 ^ (scaleBits - (scaled bits).2)) = value.natAbs := by
    split
    next large =>
      rw [← Nat.pow_sub_mul_pow 2 large, ← Nat.mul_assoc] at magnitude
      exact Nat.eq_of_mul_eq_mul_right (Nat.two_pow_pos _) magnitude
    next small =>
      rw [← Nat.pow_sub_mul_pow 2 (Nat.le_of_not_le small), ← Nat.mul_assoc] at magnitude
      rw [Nat.eq_of_mul_eq_mul_right (Nat.two_pow_pos _) magnitude]
      exact Nat.mul_div_cancel _ (Nat.two_pow_pos _)
  simp only [truncate, whole, sign]

/-- Whether two numbers are equal: no number equals what is not one, and the
two zeros are equal. -/
def same (left right : UInt64) : Bool :=
  !isNaN left && !isNaN right &&
    (left == right ||
      (left.toNat % 2 ^ magnitudeBits == 0 && right.toNat % 2 ^ magnitudeBits == 0))

/-- The quotient by a power of two, rounded to nearest with ties to even. -/
def roundShift (value shift : Nat) : Nat :=
  let quotient := value / 2 ^ shift
  let doubled := 2 * (value % 2 ^ shift)
  if 2 ^ shift < doubled ∨ (doubled = 2 ^ shift ∧ quotient % 2 = 1) then quotient + 1
  else quotient

/-- The bits of the number nearest to a magnitude. A significand that rounds up
to the next power of two carries into the exponent. -/
def ofNat? (value : Nat) : Option Nat :=
  if value = 0 then some 0
  else
    let power := value.log2
    let significand :=
      if power ≤ fractionBits then value * 2 ^ (fractionBits - power)
      else roundShift value (power - fractionBits)
    let bits := (power + 1022) * 2 ^ fractionBits + significand
    if bits < topExponent * 2 ^ fractionBits then some bits else none

/-- The bits of the number nearest to an integer. -/
def ofInt? (value : Int) : Option UInt64 :=
  (ofNat? value.natAbs).map fun bits =>
    UInt64.ofNat (if value < 0 then bits + 2 ^ magnitudeBits else bits)

end Binary64
end ModuleInterface

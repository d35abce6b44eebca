import Mathlib
import ModuleInterface.Codec.Pack
import ModuleInterface.Codec.Unpack

/-!
# Words that carry numbers

Writing goes through values and reading through numbers. In between stand the numbers
that the words of a layout carry: `Word.Carries` relates words, the bare values that are
written to them and the numbers that these stand for, and `Word.writeAll` writes numbers
without failing. Writing values is writing the numbers that they stand for, and reading
gives these back.
-/

-- Powers are the core library's, as in the definitions that are reasoned about.
attribute [local instance (1100)] instPowNat

namespace ModuleInterface
namespace Word

/-- Bare values stand for numbers in some words, each number within its word. -/
inductive Carries : List Word → List Value → List Nat → Prop
  | nil : Carries [] [] []
  | skip
      (length : Nat)
      {rest : List Word}
      {values : List Value}
      {numbers : List Nat}
      (carried : Carries rest values numbers) :
      Carries (.skip length :: rest) values numbers
  | unsigned
      {width : Nat}
      {rest : List Word}
      {value : Value}
      {values : List Value}
      {number : Nat}
      {numbers : List Nat}
      (integer : value.integer? = some (number : Int))
      (fits : number < 256 ^ width)
      (carried : Carries rest values numbers) :
      Carries (.unsigned width :: rest) (value :: values) (number :: numbers)
  | float64
      {rest : List Word}
      {value : Value}
      {values : List Value}
      {number : Nat}
      {numbers : List Nat}
      (bits : value.float64? = some (UInt64.ofNat number))
      (fits : number < 256 ^ 8)
      (carried : Carries rest values numbers) :
      Carries (.float64 :: rest) (value :: values) (number :: numbers)

/-- The bytes of words that carry some numbers, with zeros where bytes are skipped. -/
def writeAll : List Word → List Nat → List UInt8
  | .skip length :: rest, numbers => List.replicate length 0 ++ writeAll rest numbers
  | .unsigned width :: rest, number :: numbers =>
      LittleEndian.encode width number ++ writeAll rest numbers
  | .float64 :: rest, number :: numbers =>
      LittleEndian.encode 8 number ++ writeAll rest numbers
  | _, _ => []

theorem packInteger?_natCast
    {width number : Nat}
    (fits : number < 256 ^ width) :
    packInteger? width (number : Int) = some (LittleEndian.encode width number) := by
  have bounds : (0 : Int) ≤ number ∧ (number : Int) < 256 ^ width := by
    refine ⟨Int.natCast_nonneg _, ?_⟩
    exact_mod_cast fits
  rw [packInteger?, if_pos bounds, Int.toNat_natCast]

/-- Writing values is writing the numbers that they stand for. -/
theorem Carries.packAll?_eq
    {words : List Word}
    {values : List Value}
    {numbers : List Nat}
    (carried : Carries words values numbers) :
    packAll? words values = some (writeAll words numbers) := by
  induction carried with
  | nil => rfl
  | skip length carried inductionHypothesis =>
      rw [packAll?, inductionHypothesis]
      rfl
  | unsigned integer fits carried inductionHypothesis =>
      rw [packAll?, integer, inductionHypothesis]
      simp only [Option.bind_eq_bind, Option.bind_some, packInteger?_natCast fits]
      rfl
  | @float64 rest value values number numbers bits fits carried inductionHypothesis =>
      have whole : (UInt64.ofNat number).toNat = number := by
        rw [UInt64.toNat_ofNat']
        exact Nat.mod_eq_of_lt fits
      rw [packAll?, Value.storedFloat64?, bits, inductionHypothesis]
      simp only [Option.some_or, Option.bind_eq_bind, Option.bind_some, whole]
      rfl

/-- The first word of what is carried carries a number that the first value stands for. -/
theorem Carries.exists_of_unsigned
    {width : Nat}
    {rest : List Word}
    {value : Value}
    {values : List Value}
    {numbers : List Nat}
    (carried : Carries (.unsigned width :: rest) (value :: values) numbers) :
    ∃ number others, numbers = number :: others ∧ value.integer? = some (number : Int) ∧
      number < 256 ^ width ∧ Carries rest values others := by
  cases carried with
  | unsigned integer fits carried => exact ⟨_, _, rfl, integer, fits, carried⟩

theorem Carries.exists_of_integer
    {width number : Nat}
    {rest : List Word}
    {value : Value}
    {values : List Value}
    {numbers : List Nat}
    (carried : Carries (.unsigned width :: rest) (value :: values) numbers)
    (stands : value.integer? = some (number : Int)) :
    ∃ others, numbers = number :: others ∧ number < 256 ^ width ∧
      Carries rest values others := by
  obtain ⟨carriedNumber, others, rfl, integer, fits, following⟩ := carried.exists_of_unsigned
  obtain rfl : number = carriedNumber :=
    Int.ofNat_inj.mp (Option.some.inj (stands.symm.trans integer))
  exact ⟨others, rfl, fits, following⟩

/-- Values are written to words of some widths only if these carry numbers for them. -/
theorem exists_carries_of_packAll?
    {items : List (Nat × Value)}
    {bytes : List UInt8}
    (packed : packAll? (items.map fun item => .unsigned item.1) (items.map (·.2)) =
      some bytes) :
    ∃ numbers, Carries (items.map fun item => .unsigned item.1) (items.map (·.2)) numbers ∧
      bytes = writeAll (items.map fun item => .unsigned item.1) numbers := by
  induction items generalizing bytes with
  | nil =>
      cases packed
      exact ⟨[], .nil, rfl⟩
  | cons item rest inductionHypothesis =>
      obtain ⟨width, value⟩ := item
      simp only [List.map_cons, packAll?, Option.bind_eq_bind, Option.bind_eq_some_iff] at packed
      obtain ⟨number, integer, head, packedHead, tail, packedTail, final⟩ := packed
      cases final
      obtain ⟨numbers, carried, rfl⟩ := inductionHypothesis packedTail
      unfold packInteger? at packedHead
      split at packedHead
      next bounds =>
        cases packedHead
        obtain ⟨nonnegative, small⟩ := bounds
        have whole : ((number.toNat : Nat) : Int) = number := Int.toNat_of_nonneg nonnegative
        refine ⟨number.toNat :: numbers, .unsigned ?_ ?_ carried, rfl⟩
        · rw [integer, whole]
        · rw [← whole] at small
          exact_mod_cast small
      next => contradiction

/-- Values are written in the size of the words that carry them. -/
theorem length_packAll?
    {words : List Word}
    {values : List Value}
    {bytes : List UInt8}
    (packed : packAll? words values = some bytes) :
    bytes.length = totalSize words := by
  fun_induction packAll? words values generalizing bytes with
  | case1 =>
      cases packed
      rfl
  | case2 length rest values inductionHypothesis =>
      obtain ⟨tail, packedTail, final⟩ := Option.bind_eq_some_iff.mp packed
      cases final
      rw [List.length_append, List.length_replicate, inductionHypothesis packedTail]
      rfl
  | case3 width rest value values inductionHypothesis =>
      simp only [Option.bind_eq_bind, Option.bind_eq_some_iff] at packed
      obtain ⟨number, _, head, packedHead, tail, packedTail, final⟩ := packed
      cases final
      rw [List.length_append, length_packInteger? packedHead, inductionHypothesis packedTail]
      rfl
  | case4 rest value values inductionHypothesis =>
      simp only [Option.bind_eq_bind, Option.bind_eq_some_iff] at packed
      obtain ⟨bits, _, tail, packedTail, final⟩ := packed
      cases final
      rw [List.length_append, LittleEndian.length_encode, inductionHypothesis packedTail]
      rfl
  | case5 => contradiction

/-- The numbers that were written are read back, whatever follows them. -/
theorem Carries.readAll_writeAll
    {words : List Word}
    {values : List Value}
    {numbers : List Nat}
    (carried : Carries words values numbers)
    (following : List UInt8) :
    readAll words (writeAll words numbers ++ following) = numbers := by
  induction carried with
  | nil => rfl
  | skip length carried inductionHypothesis =>
      rw [writeAll, readAll_skip, List.append_assoc, List.drop_left' List.length_replicate,
        inductionHypothesis]
  | @unsigned width rest value values number numbers integer fits carried inductionHypothesis =>
      have size := LittleEndian.length_encode width number
      rw [writeAll, readAll_unsigned, List.append_assoc, List.take_left' size,
        List.drop_left' size, LittleEndian.decode_encode _ _ fits, inductionHypothesis]
  | @float64 rest value values number numbers bits fits carried inductionHypothesis =>
      have size := LittleEndian.length_encode 8 number
      rw [writeAll, readAll_float64, List.append_assoc, List.take_left' size,
        List.drop_left' size, LittleEndian.decode_encode _ _ fits, inductionHypothesis]

/-- Words that carry numbers have their full size. -/
theorem Carries.length_writeAll
    {words : List Word}
    {values : List Value}
    {numbers : List Nat}
    (carried : Carries words values numbers) :
    (writeAll words numbers).length = totalSize words := by
  induction carried with
  | nil => rfl
  | skip length carried inductionHypothesis =>
      rw [writeAll, List.length_append, List.length_replicate, inductionHypothesis]
      rfl
  | unsigned integer fits carried inductionHypothesis =>
      rw [writeAll, List.length_append, LittleEndian.length_encode, inductionHypothesis]
      rfl
  | float64 bits fits carried inductionHypothesis =>
      rw [writeAll, List.length_append, LittleEndian.length_encode, inductionHypothesis]
      rfl

/-- Words one after another carry numbers one after another. -/
theorem Carries.append
    {first second : List Word}
    {firstValues secondValues : List Value}
    {firstNumbers secondNumbers : List Nat}
    (firstCarried : Carries first firstValues firstNumbers)
    (secondCarried : Carries second secondValues secondNumbers) :
    Carries (first ++ second) (firstValues ++ secondValues)
      (firstNumbers ++ secondNumbers) := by
  induction firstCarried with
  | nil => exact secondCarried
  | skip length carried inductionHypothesis => exact .skip length inductionHypothesis
  | unsigned integer fits carried inductionHypothesis =>
      exact .unsigned integer fits inductionHypothesis
  | float64 bits fits carried inductionHypothesis =>
      exact .float64 bits fits inductionHypothesis

end Word

/-- Two bare values stand for the same number. -/
structure Value.SameNumber (left right : Value) : Prop where
  integer : left.integer? = right.integer?
  float64 : left.float64? = right.float64?

/-- Words carry the same numbers for values that stand for the same numbers. -/
theorem Word.Carries.of_sameNumbers
    {words : List Word}
    {values others : List Value}
    {numbers : List Nat}
    (carried : Carries words values numbers)
    (same : List.Forall₂ Value.SameNumber others values) :
    Carries words others numbers := by
  induction carried generalizing others with
  | nil =>
      cases same
      exact .nil
  | skip length carried inductionHypothesis => exact .skip length (inductionHypothesis same)
  | unsigned integer fits carried inductionHypothesis =>
      cases same with
      | cons head tail =>
          exact .unsigned (head.integer.trans integer) fits (inductionHypothesis tail)
  | float64 bits fits carried inductionHypothesis =>
      cases same with
      | cons head tail =>
          exact .float64 (head.float64.trans bits) fits (inductionHypothesis tail)

end ModuleInterface

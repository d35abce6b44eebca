import ModuleInterface.Number.Binary64

/-!
# The fewest digits of a binary number

A finite binary number is read back from every decimal in an interval around
it: from halfway to the number below up to halfway to the number above, the ends
included when its significand is even. `shortest` selects the decimal with the
fewest digits in that interval, and the nearest of these. It looks at the grids
of one digit, two digits, …; on each grid the two neighbours of the number are
the only candidates. `text` lays the digits out: positionally between 0.0001 and
10 to the power of 16, and with an exponent of at least two digits elsewhere.
-/

-- Powers are the core library's, whatever else a reader of this module imports.
attribute [local instance (1100)] instPowNat

namespace ModuleInterface

/-- The number `digits` times 10 to the power of `exponent`. -/
structure Decimal where
  digits : Nat
  exponent : Int
  deriving DecidableEq, Repr

namespace Decimal

/-- The product of a number with 10 to the power of an exponent, for an exponent
that is not negative. -/
abbrev scaleUp (number : Nat) (exponent : Int) : Nat :=
  number * 10 ^ exponent.toNat

/-- A decimal without the zeros at the end of its digits, as far as a number of
steps goes. -/
def strip : Nat → Decimal → Decimal
  | 0, decimal => decimal
  | steps + 1, decimal =>
      if decimal.digits % 10 = 0 then
        strip steps ⟨decimal.digits / 10, decimal.exponent + 1⟩
      else decimal

end Decimal

namespace Binary64

/-- The interval of a positive number: all over `denominator`, the number itself,
and the ends of what is read back as it. -/
structure Rounding where
  low : Nat
  value : Nat
  high : Nat
  denominator : Nat
  /-- Whether the ends themselves are read back as the number. -/
  closed : Bool
  deriving Repr

/-- The significand of a number whose lower neighbour is only half as far away
as the upper one. -/
abbrev leastSignificand : Nat := 2 ^ fractionBits

/-- The interval that is read back as the magnitude of a number. -/
def rounding (bits : UInt64) : Rounding :=
  let (significand, power) := scaled bits
  let unit := 2 ^ power
  let below := if significand = leastSignificand ∧ 1 < power then 1 else 2
  { low := (4 * significand - below) * unit
    value := 4 * significand * unit
    high := (4 * significand + 2) * unit
    denominator := 4 * 2 ^ scaleBits
    closed := significand % 2 == 0 }

namespace Rounding

/-- Whether a decimal lies in an interval. -/
def contains (interval : Rounding) (decimal : Decimal) : Bool :=
  let scaled := Decimal.scaleUp (decimal.digits * interval.denominator) decimal.exponent
  let low := Decimal.scaleUp interval.low (-decimal.exponent)
  let high := Decimal.scaleUp interval.high (-decimal.exponent)
  if interval.closed then decide (low ≤ scaled ∧ scaled ≤ high)
  else decide (low < scaled ∧ scaled < high)

/-- Whether the number of an interval is below 10 to the power of an exponent. -/
def below (interval : Rounding) (exponent : Int) : Bool :=
  decide (Decimal.scaleUp interval.value (-exponent) <
    Decimal.scaleUp interval.denominator exponent)

/-- The least exponent of 10 whose power exceeds the number, estimated from the
binary logarithm and then corrected. -/
def magnitude (interval : Rounding) : Int :=
  let logarithm : Int := (interval.value.log2 : Int) - interval.denominator.log2
  let estimate := Int.fdiv (logarithm * 30103) 100000
  if interval.below estimate then estimate
  else if interval.below (estimate + 1) then estimate + 1
  else estimate + 2

/-- The decimal that is selected from the grid of an exponent, if one of the two
neighbours of the number on it lies in the interval: of two the nearer, and of
two equally near the even one. -/
def onGrid? (interval : Rounding) (exponent : Int) : Option Decimal :=
  let value := Decimal.scaleUp interval.value (-exponent)
  let unit := Decimal.scaleUp interval.denominator exponent
  let floor := value / unit
  let lower : Decimal := ⟨floor, exponent⟩
  let upper : Decimal := ⟨floor + 1, exponent⟩
  match interval.contains lower, interval.contains upper with
  | true, true =>
      let doubled := 2 * (value % unit)
      if unit < doubled ∨ (doubled = unit ∧ floor % 2 = 1) then some upper else some lower
  | true, false => some lower
  | false, true => some upper
  | false, false => none

end Rounding

/-- The number of digits that always suffices. -/
def digitsSuffice : Nat := 17

/-- The decimal with the fewest digits that is read back as the magnitude of a
finite number other than zero. -/
def shortest (bits : UInt64) : Decimal :=
  let interval := rounding bits
  let magnitude := interval.magnitude
  let selected := (List.range digitsSuffice).findSome? fun (count : Nat) =>
    interval.onGrid? (magnitude - (count + 1))
  Decimal.strip digitsSuffice (selected.getD ⟨0, 0⟩)

/-- The least number of digits of a written exponent. -/
def exponentDigits : Nat := 2

/-- The exponent of ten from which on an exponent is written. -/
def positionalLimit : Int := 16

/-- The number of zeros after the point from which on an exponent is written. -/
def leadingZeroLimit : Int := 4

/-- Digits with the point after a number of them, which may be negative or past
their end. -/
def positional (digits : String) (point : Int) : String :=
  let zeros := fun (count : Int) => String.ofList (List.replicate count.toNat '0')
  if point ≤ 0 then "0." ++ zeros (-point) ++ digits
  else if (digits.length : Int) ≤ point then digits ++ zeros (point - digits.length) ++ ".0"
  else
    String.ofList (digits.toList.take point.toNat) ++ "." ++
      String.ofList (digits.toList.drop point.toNat)

/-- Digits with the point after the first of them, and an exponent. -/
def exponential (digits : String) (exponent : Int) : String :=
  let rest := digits.toList.drop 1
  let fraction := if rest.isEmpty then "" else "." ++ String.ofList rest
  let size := toString exponent.natAbs
  let padding := String.ofList (List.replicate (exponentDigits - size.length) '0')
  String.ofList (digits.toList.take 1) ++ fraction ++ "e" ++
    (if exponent < 0 then "-" else "+") ++ padding ++ size

/-- The text of the magnitude of a finite number. -/
def magnitudeText (bits : UInt64) : String :=
  if (scaled bits).1 = 0 then "0.0"
  else
    let decimal := shortest bits
    let digits := toString decimal.digits
    let point := (digits.length : Int) + decimal.exponent
    if -leadingZeroLimit < point ∧ point ≤ positionalLimit then positional digits point
    else exponential digits (point - 1)

/-- The text of a number. -/
def text (bits : UInt64) : String :=
  if isNaN bits then "nan"
  else
    (if isNegative bits then "-" else "") ++
      (if isInfinite bits then "inf" else magnitudeText bits)

end Binary64
end ModuleInterface

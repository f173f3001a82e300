/-!
# Binary fractions of 53 bits

The numbers of the usual double precision: a significand below 2^53 times a
power of two between 2^-1074 and 2^971, with a sign, and beyond them two
infinities and a value that is no number.

* `ofRatio` rounds a fraction to the nearest of them, a tie to the even
  significand;
* `ofDecimal` does the same for decimal digits with a power of ten;
* `wholePart` drops the fraction and `floor?` rounds down.

All arithmetic is exact, on natural numbers.
-/

namespace Chip8

/-- A number of double precision.  A finite one is `significand` times two to
the power `exponent`, and the significand is at least 2^52 unless the exponent
is the least. -/
inductive Binary64 where
  | finite (negative : Bool) (significand : Nat) (exponent : Int)
  | infinity (negative : Bool)
  | nan
  deriving DecidableEq, Repr

namespace Binary64

/-- The least exponent. -/
def leastExponent : Int := -1074

/-- The greatest exponent. -/
def greatestExponent : Int := 971

/-- The least significand of a number that is not tiny. -/
def leastSignificand : Nat := 0x10000000000000

/-- Zero, with a sign. -/
def zero (negative : Bool) : Binary64 :=
  .finite negative 0 leastExponent

/-- The fraction `numerator / denominator` divided by a power of two, as a
fraction. -/
def scale (numerator denominator : Nat) (exponent : Int) : Nat × Nat :=
  if 0 ≤ exponent then
    (numerator, denominator * Nat.pow 2 exponent.toNat)
  else
    (numerator * Nat.pow 2 (-exponent).toNat, denominator)

/-- The natural number nearest to a fraction; a tie goes to the even one. -/
def roundHalfEven (numerator denominator : Nat) : Nat :=
  let below := numerator / denominator
  let twice := numerator % denominator * 2
  if twice > denominator ∨ (twice = denominator ∧ below % 2 = 1) then
    below + 1
  else
    below

/-- The exponent at which a positive fraction has a significand of 53 bits, or
the least exponent if that is greater. -/
def exponentFor (numerator denominator : Nat) : Int :=
  let guess := max leastExponent
    ((numerator.log2 : Int) - denominator.log2 - 53)
  let (scaled, unit) := scale numerator denominator guess
  if scaled / unit ≥ 2 * leastSignificand then guess + 1 else guess

/-- The number nearest to a fraction. -/
def ofRatio (negative : Bool) (numerator denominator : Nat) : Binary64 :=
  if numerator = 0 then
    zero negative
  else
    let exponent := exponentFor numerator denominator
    let (scaled, unit) := scale numerator denominator exponent
    let significand := roundHalfEven scaled unit
    let (significand, exponent) :=
      if significand = 2 * leastSignificand then
        (leastSignificand, exponent + 1)
      else
        (significand, exponent)
    if exponent > greatestExponent then
      .infinity negative
    else
      .finite negative significand exponent

/-- The number nearest to an integer. -/
def ofInt (value : Int) : Binary64 :=
  ofRatio (value < 0) value.natAbs 1

/-- The number nearest to `digits` times ten to the power `exponent`.  Powers
far outside the range give infinity or zero at once. -/
def ofDecimal (negative : Bool) (digits : Nat) (exponent : Int) : Binary64 :=
  if digits = 0 then zero negative
  else if exponent > 400 then .infinity negative
  else if exponent < -(400 + (digits.log2 : Int)) then zero negative
  else if 0 ≤ exponent then
    ofRatio negative (digits * Nat.pow 10 exponent.toNat) 1
  else
    ofRatio negative digits (Nat.pow 10 (-exponent).toNat)

/-- The product of two finite numbers, the second a natural number. -/
def times (value : Binary64) (factor : Nat) : Binary64 :=
  match value with
  | .finite negative significand exponent =>
      if 0 ≤ exponent then
        ofRatio negative (significand * factor * Nat.pow 2 exponent.toNat) 1
      else
        ofRatio negative (significand * factor) (Nat.pow 2 (-exponent).toNat)
  | other => other

/-- The quotient of two finite numbers, the second a positive integer. -/
def divideBy (value : Binary64) (divisor : Nat) : Binary64 :=
  match value with
  | .finite negative significand exponent =>
      if 0 ≤ exponent then
        ofRatio negative (significand * Nat.pow 2 exponent.toNat) divisor
      else
        ofRatio negative significand (divisor * Nat.pow 2 (-exponent).toNat)
  | other => other

/-- The size of a finite number without its fraction. -/
def wholePart (significand : Nat) (exponent : Int) : Nat :=
  if 0 ≤ exponent then
    significand * Nat.pow 2 exponent.toNat
  else
    significand / Nat.pow 2 (-exponent).toNat

/-- Whether a number is finite. -/
def isFinite : Binary64 → Bool
  | .finite _ _ _ => true
  | _ => false

/-- Whether a number is zero, of either sign. -/
def isZero : Binary64 → Bool
  | .finite _ significand _ => significand = 0
  | _ => false

/-- The greatest integer that is not above a finite number. -/
def floor? : Binary64 → Option Int
  | .finite negative significand exponent =>
      if 0 ≤ exponent then
        let whole : Int := ↑(significand * Nat.pow 2 exponent.toNat)
        some (if negative then -whole else whole)
      else
        let signed : Int := if negative then -significand else significand
        some (signed / Nat.pow 2 (-exponent).toNat)
  | _ => none

end Binary64

end Chip8

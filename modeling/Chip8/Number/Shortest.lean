import Chip8.Number.Binary64

/-!
# Shortest decimal digits

A positive number of double precision is shown with the fewest decimal digits
that read back as that number; of several such decimals with the same number
of digits, the nearest one is taken, and a tie goes to the even digit.

The decimals that read back fill an interval around the number.  For one digit,
two digits and so on, `shortest` tries the two decimals beside the number; some
seventeen digits always read back.

`render` writes a number: positionally from 0.0001 up to below 10^16, with a
point and an exponent outside.
-/

namespace Chip8

/-- A positive decimal: 0.d₁d₂d₃… times ten to the power `point`, where the dᵢ
are the digits of `digits`. -/
structure Decimal where
  digits : Nat
  point : Int
  deriving DecidableEq, Repr

namespace Binary64

/-- A power of ten as a fraction. -/
def powerOfTen (exponent : Int) : Nat × Nat :=
  if 0 ≤ exponent then
    (Nat.pow 10 exponent.toNat, 1)
  else
    (1, Nat.pow 10 (-exponent).toNat)

/-- The power of two as a fraction. -/
def powerOfTwo (exponent : Int) : Nat × Nat :=
  if 0 ≤ exponent then
    (Nat.pow 2 exponent.toNat, 1)
  else
    (1, Nat.pow 2 (-exponent).toNat)

/-- Four times the number and the ends of the interval of decimals that read
back as it, in units of two to the power `exponent - 2`, and whether the ends
belong to the interval. -/
structure Neighbourhood where
  low : Nat
  centre : Nat
  high : Nat
  closed : Bool

/-- The neighbourhood of a positive number.  Below the least significand of an
exponent the neighbours lie twice as close. -/
def neighbourhood (significand : Nat) (exponent : Int) : Neighbourhood where
  low :=
    if significand = leastSignificand ∧ exponent > leastExponent then
      4 * significand - 1
    else
      4 * significand - 2
  centre := 4 * significand
  high := 4 * significand + 2
  closed := significand % 2 = 0

/-- Whether a number of grid steps lies in the neighbourhood.  A step is
`up / down` of the units of the neighbourhood. -/
def Neighbourhood.holds (around : Neighbourhood) (up down steps : Nat) : Bool :=
  if around.closed then
    around.low * down ≤ steps * up ∧ steps * up ≤ around.high * down
  else
    around.low * down < steps * up ∧ steps * up < around.high * down

/-- The number of grid steps nearest to the number among those two beside it
that read back. -/
def Neighbourhood.nearest? (around : Neighbourhood) (up down : Nat) :
    Option Nat :=
  let below := around.centre * down / up
  let rest := around.centre * down % up
  match around.holds up down below, around.holds up down (below + 1) with
  | true, true =>
      if rest * 2 > up ∨ (rest * 2 = up ∧ below % 2 = 1) then
        some (below + 1)
      else
        some below
  | true, false => some below
  | false, true => some (below + 1)
  | false, false => none

/-- The least power of ten above a positive fraction, searched upwards from a
power that is not above it. -/
def pointFrom (numerator denominator : Nat) : Nat → Int → Int
  | 0, guess => guess
  | fuel + 1, guess =>
      let (up, down) := powerOfTen guess
      if numerator * down ≥ up * denominator then
        pointFrom numerator denominator fuel (guess + 1)
      else
        guess

/-- Strip the zeros from the end of a numeral. -/
def withoutZeros : Nat → Nat → Nat
  | 0, digits => digits
  | fuel + 1, digits =>
      if digits ≠ 0 ∧ digits % 10 = 0 then
        withoutZeros fuel (digits / 10)
      else
        digits

/-- The shortest decimal that reads back as a positive number. -/
def shortest (significand : Nat) (exponent : Int) : Decimal :=
  let around := neighbourhood significand exponent
  let (up, down) := powerOfTwo (exponent - 2)
  let size : Int := (around.centre.log2 : Int) + exponent - 2
  let point := pointFrom (around.centre * up) down 4 (size * 30103 / 100000 - 1)
  let found := (List.range 17).findSome? fun fewer =>
    let (tenUp, tenDown) := powerOfTen (point - (fewer + 1 : Nat))
    (around.nearest? (tenUp * down) (tenDown * up)).map fun steps =>
      let carried : Int := if steps ≥ Nat.pow 10 (fewer + 1) then 1 else 0
      (⟨withoutZeros 20 steps, point + carried⟩ : Decimal)
  found.getD ⟨significand, point⟩

/-! ## Writing -/

/-- The powers of ten between which numbers are written positionally: the least
one whose number is, and the least one whose number is not. -/
def positionalFrom : Int := -3

/-- See `positionalFrom`. -/
def positionalBelow : Int := 17

/-- A positive decimal in positional or exponential form. -/
def renderDecimal (decimal : Decimal) : String :=
  let digits := Nat.toDigits 10 decimal.digits
  let zeros := fun count => List.replicate count '0'
  let text :=
    if positionalFrom ≤ decimal.point ∧ decimal.point < positionalBelow then
      if decimal.point ≤ 0 then
        '0' :: '.' :: zeros (-decimal.point).toNat ++ digits
      else
        let whole := decimal.point.toNat
        if digits.length ≤ whole then
          digits ++ zeros (whole - digits.length) ++ ['.', '0']
        else
          digits.take whole ++ '.' :: digits.drop whole
    else
      let power := decimal.point - 1
      let exponent := Nat.toDigits 10 power.natAbs
      digits.take 1 ++
        (if digits.length > 1 then '.' :: digits.drop 1 else []) ++
        ['e', if power < 0 then '-' else '+'] ++
        zeros (2 - exponent.length) ++ exponent
  String.ofList text

/-- A number as text. -/
def render : Binary64 → String
  | .nan => "nan"
  | .infinity negative => if negative then "-inf" else "inf"
  | .finite negative significand exponent =>
      let size :=
        if significand = 0 then "0.0"
        else renderDecimal (shortest significand exponent)
      if negative then "-" ++ size else size

end Binary64

end Chip8

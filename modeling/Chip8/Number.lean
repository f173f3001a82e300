import Chip8.Number.Binary64

/-!
# Numbers beside integers

A number is an integer or a binary fraction.  It is compared with integers by
its exact value; infinities lie beyond all integers, and what is no number is on
neither side of any.
-/

namespace Chip8

/-- An integer or a binary fraction. -/
inductive Number where
  | integer (value : Int)
  | real (value : Binary64)
  deriving DecidableEq, Repr

namespace Number

/-- Whether a number is less than an integer. -/
def isBelow (number : Number) (bound : Int) : Bool :=
  match number with
  | .integer value => value < bound
  | .real value =>
      match value.floor? with
      | some whole => whole < bound
      | none => value = .infinity true

/-- Whether a number is an integer or more. -/
def isAtLeast (number : Number) (bound : Int) : Bool :=
  match number with
  | .integer value => bound ≤ value
  | .real value =>
      match value.floor? with
      | some whole => bound ≤ whole
      | none => value = .infinity false

end Number

end Chip8

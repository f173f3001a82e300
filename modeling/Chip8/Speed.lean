import Chip8.Datum.Equality
import Chip8.Datum.Integer

/-!
# Speeds

The speed of a machine is the number of instructions in one frame.  It is given
as a value of a document, which is read as an integer and must be positive.
-/

namespace Chip8

/-- Why a value is no speed. -/
inductive SpeedError where
  | notAnInteger (reason : IntegerError)
  | notPositive (value : Datum)
  deriving DecidableEq, Repr

namespace SpeedError

/-- The text that reports the error. -/
def message : SpeedError → String
  | .notAnInteger reason => reason.message
  | .notPositive value =>
      "speed must be a positive number of cycles, got " ++ value.shown

end SpeedError

/-- The speed that a value stands for: a positive integer. -/
def speedOf (value : Datum) : Except SpeedError Nat :=
  match value.toInteger with
  | .error reason => .error (.notAnInteger reason)
  | .ok number =>
      if number < 1 then .error (.notPositive value) else .ok number.toNat

/-- A positive integer is the speed that it stands for. -/
theorem speedOf_integer {number : Int} (positive : 1 ≤ number) :
    speedOf (.integer number) = .ok number.toNat := by
  simp [speedOf, Datum.toInteger, positive]

end Chip8

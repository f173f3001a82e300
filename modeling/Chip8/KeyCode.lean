import Chip8.Datum.Equality
import Chip8.Datum.Integer
import Chip8.Processor

/-!
# Codes of keypad keys

A code says which keypad key is meant, and is kept as it was given.

* In a layout and in a report, a code is a number from zero on and below
  sixteen.  Truth values stand for the keys one and zero; a binary fraction is
  in range or not, but stands for no key.
* In a key map file, a code is an integer, or a text that spells one as a marked
  numeral; truth values and fractions are no codes.
-/

namespace Chip8

/-- A code of a keypad key, as it was given. -/
inductive KeyCode where
  | key (key : Key)
  | truth (value : Bool)
  | fraction (value : Binary64)
  deriving DecidableEq, Repr

/-- Why a value is no code of a keypad key. -/
inductive KeyCodeError where
  | numeral (reason : IntegerError)
  | unsuitable (value : Datum)
  | incomparable (kind : String)
  | outOfRange (value : Datum)
  deriving DecidableEq, Repr

namespace KeyCodeError

/-- The text that reports the error. -/
def message : KeyCodeError → String
  | .numeral reason => reason.message
  | .unsuitable value =>
      "keypad code must be an int or a string, got " ++ value.shown
  | .incomparable kind =>
      Text.quoted "<=" ++ " not supported between instances of " ++
        Text.quoted "int" ++ " and " ++ Text.quoted kind
  | .outOfRange value => "keypad code out of range: " ++ value.shown

end KeyCodeError

namespace KeyCode

/-- The keypad key that a code stands for. -/
def key? : KeyCode → Option Key
  | .key pad => some pad
  | .truth value => some (if value then 1 else 0)
  | .fraction _ => none

/-- A code as the value that it was given as. -/
def datum : KeyCode → Datum
  | .key pad => .integer pad.val
  | .truth value => .boolean value
  | .fraction value => .real value

/-- The code that a value is. -/
def ofDatum : Datum → Except KeyCodeError KeyCode
  | .boolean value => .ok (.truth value)
  | .integer value =>
      match keyOfInt? value with
      | some pad => .ok (.key pad)
      | none => .error (.outOfRange (.integer value))
  | .real value =>
      if (Number.real value).isAtLeast 0 ∧ (Number.real value).isBelow 16 then
        .ok (.fraction value)
      else
        .error (.outOfRange (.real value))
  | other => .error (.incomparable other.kind)

/-- A key is the code that its number is. -/
@[simp]
theorem ofDatum_datum_key (pad : Key) :
    ofDatum (datum (.key pad)) = .ok (.key pad) := by
  have known : keyOfInt? (pad.val : Int) = some pad := by
    have bound := pad.isLt
    unfold keyOfInt?
    rw [dif_pos ⟨by omega, by omega⟩]
    simp
  simp [datum, ofDatum, known]

/-- The text that reports a value in the place of a number of a key or of a
register. -/
def misplacedMessage (kind : String) : String :=
  "list indices must be integers or slices, not " ++ kind

/-- The text that reports a fraction in the place of a key. -/
def fractionMessage : String := misplacedMessage "float"

end KeyCode

/-- The keypad key that a value of a key map file names. -/
def keyOfDatum (value : Datum) : Except KeyCodeError Key :=
  let found := fun code =>
    match keyOfInt? code with
    | some key => .ok key
    | none => .error (.outOfRange value)
  match value with
  | .string text =>
      match integerOfText .marked text with
      | .ok code => found code
      | .error reason => .error (.numeral reason)
  | .integer code => found code
  | _ => .error (.unsuitable value)

end Chip8

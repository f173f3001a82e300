import Chip8.Datum
import Chip8.Text.Numeral

/-!
# Values as integers

Which integer a value of a document stands for: truth values are one and zero,
binary fractions lose their fraction, and texts are read as plain numerals.
-/

namespace Chip8

/-- Why a value stands for no integer. -/
inductive IntegerError where
  | malformed (style : Text.NumeralStyle) (text : Text)
  | tooLong (digits : Nat)
  | infinite
  | notANumber
  | unsuitable (kind : String)
  deriving DecidableEq, Repr

namespace IntegerError

/-- At most this many characters of a refused text are quoted. -/
def quoteLimit : Nat := 200

/-- The text that reports the error. -/
def message : IntegerError → String
  | .malformed style text =>
      let base := match style with
        | .plain => "10"
        | .marked => "0"
      s!"invalid literal for int() with base {base}: " ++
        String.ofList ((Text.quoted text).toList.take quoteLimit)
  | .tooLong digits =>
      let limit := Text.Numeral.digitLimit
      s!"Exceeds the limit ({limit} digits) for integer string conversion: " ++
        s!"value has {digits} digits; " ++
        "use sys.set_int_max_str_digits() to increase the limit"
  | .infinite => "cannot convert float infinity to integer"
  | .notANumber => "cannot convert float NaN to integer"
  | .unsuitable kind =>
      "int() argument must be a string, a bytes-like object " ++
        "or a real number, not " ++ Text.quoted kind

end IntegerError

/-- Read a text as an integer.  A half stands in no numeral, and neither does
the character that replaces it. -/
def integerOfText (style : Text.NumeralStyle) (text : Text) :
    Except IntegerError Int :=
  match Text.Numeral.read style text.replaced with
  | .ok value => .ok value
  | .error .malformed => .error (.malformed style text)
  | .error (.tooLong digits) => .error (.tooLong digits)

namespace Datum

/-- The integer that a value stands for. -/
def toInteger : Datum → Except IntegerError Int
  | .boolean value => .ok (if value then 1 else 0)
  | .integer value => .ok value
  | .real .nan => .error .notANumber
  | .real (.infinity _) => .error .infinite
  | .real (.finite negative significand exponent) =>
      let whole : Int := Binary64.wholePart significand exponent
      .ok (if negative then -whole else whole)
  | .string value => integerOfText .plain value
  | other => .error (.unsuitable other.kind)

end Datum

end Chip8

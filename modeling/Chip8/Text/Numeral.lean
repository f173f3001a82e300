import Chip8.Text.Blank
import Chip8.Text.Digit

/-!
# Integers written as text

A numeral is an optional sign and digits.  Blanks may surround it, a single
underscore may stand between two digits, and digits may come from any script.

* A plain numeral is decimal and may start with zeros.
* A marked numeral may start with `0x`, `0o` or `0b` in either case, with one
  underscore allowed after the mark.  Without a mark it is decimal, and then
  only the number zero may start with a zero.

A decimal numeral of more than 4300 digits is refused for its length.
-/

namespace Chip8.Text

/-- Whether the base of a numeral is fixed or told by a mark. -/
inductive NumeralStyle where
  | plain
  | marked
  deriving DecidableEq, Repr

/-- Why a text is not read as an integer. -/
inductive NumeralError where
  | malformed
  | tooLong (digits : Nat)
  deriving DecidableEq, Repr

namespace Numeral

/-- The greatest number of digits of a decimal numeral. -/
def digitLimit : Nat := 4300

/-- Blanks become spaces and digits of other scripts their ASCII forms. -/
def simplified (character : Char) : Char :=
  if character.toNat < 0x7F then character
  else if isBlank character then ' '
  else
    match decimalDigit? character with
    | some value => Char.ofNat (0x30 + value)
    | none => character

/-- The value of a letter or digit of ASCII as a digit of a large base. -/
def digitValue? (character : Char) : Option Nat :=
  let code := character.toNat
  if 0x30 ≤ code ∧ code ≤ 0x39 then some (code - 0x30)
  else if 0x41 ≤ code ∧ code ≤ 0x5A then some (code - 0x41 + 10)
  else if 0x61 ≤ code ∧ code ≤ 0x7A then some (code - 0x61 + 10)
  else none

/-- Split off a sign: whether it is negative, and the rest. -/
def splitSign : List Char → Bool × List Char
  | '-' :: rest => (true, rest)
  | '+' :: rest => (false, rest)
  | text => (false, text)

/-- A text without an underscore at its start. -/
def afterUnderscore : List Char → List Char
  | '_' :: rest => rest
  | text => text

/-- Split off the mark of a numeral: its base, whether its first digit may be
zero only if all are, and the rest. -/
def splitMark : List Char → Nat × Bool × List Char
  | '0' :: 'x' :: rest => (16, false, afterUnderscore rest)
  | '0' :: 'X' :: rest => (16, false, afterUnderscore rest)
  | '0' :: 'o' :: rest => (8, false, afterUnderscore rest)
  | '0' :: 'O' :: rest => (8, false, afterUnderscore rest)
  | '0' :: 'b' :: rest => (2, false, afterUnderscore rest)
  | '0' :: 'B' :: rest => (2, false, afterUnderscore rest)
  | '0' :: rest => (10, true, '0' :: rest)
  | text => (10, false, text)

/-- Whether a character is a digit of the base. -/
def isDigit (base : Nat) (character : Char) : Bool :=
  (digitValue? character).any (· < base)

/-- Whether a text has a character other than an underscore at each end and no
two underscores side by side. -/
def isSeparated : List Char → Bool
  | [] => false
  | ['_'] => false
  | [_] => true
  | '_' :: _ => false
  | _ :: '_' :: rest => isSeparated rest
  | _ :: next :: rest => isSeparated (next :: rest)

/-- The number that digits of a base denote. -/
def magnitude (base : Nat) (digits : List Char) : Nat :=
  digits.foldl
    (fun total character => total * base + (digitValue? character).getD 0) 0

/-- Read the digits of a numeral. -/
def readDigits (base : Nat) (zeroOnly : Bool) (text : List Char) :
    Except NumeralError Nat :=
  let belongs := fun character => character = '_' ∨ isDigit base character
  let digits := (text.takeWhile belongs).filter (· ≠ '_')
  if ¬ isSeparated (text.takeWhile belongs) then .error .malformed
  else if base = 10 ∧ digits.length > digitLimit then
    .error (.tooLong digits.length)
  else if text.dropWhile belongs ≠ [] then .error .malformed
  else if zeroOnly ∧ magnitude base digits ≠ 0 then .error .malformed
  else .ok (magnitude base digits)

/-- Read an integer. -/
def read (style : NumeralStyle) (text : String) : Except NumeralError Int :=
  let (negative, unsigned) :=
    splitSign (strip (text.toList.map simplified))
  let (base, zeroOnly, digits) :=
    match style with
    | .plain => (10, false, unsigned)
    | .marked => splitMark unsigned
  match readDigits base zeroOnly digits with
  | .ok value => .ok (if negative then -(value : Int) else value)
  | .error reason => .error reason

end Numeral

end Chip8.Text

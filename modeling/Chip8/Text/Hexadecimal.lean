/-!
# Hexadecimal numerals

Numbers in base sixteen, filled up with zeros to a least width.  A minus sign
counts as one place of the width.
-/

namespace Chip8.Text

/-- A text filled up with zeros on its left to a least width. -/
def zeroFilled (width : Nat) (digits : List Char) : List Char :=
  List.replicate (width - digits.length) '0' ++ digits

/-- A number with at least `width` digits, the letters in lower case. -/
def lowerHex (width number : Nat) : String :=
  String.ofList (zeroFilled width (Nat.toDigits 16 number))

/-- A number with at least `width` places, the letters in upper case. -/
def upperHex (width : Nat) (number : Int) : String :=
  let digits := (Nat.toDigits 16 number.natAbs).map Char.toUpper
  if number < 0 then
    String.ofList ('-' :: zeroFilled (width - 1) digits)
  else
    String.ofList (zeroFilled width digits)

end Chip8.Text

import Chip8.Text
import Chip8.Text.Hexadecimal
import Chip8.Text.Printable

/-!
# Quoted texts

How a text is shown inside a message:

* it stands in single quotes, or in double quotes if it holds a single quote
  and no double quote;
* the quote and the backslash are written after a backslash;
* line feed, carriage return and tab are written `\n`, `\r` and `\t`;
* any other symbol that is not printable is written by its number.
-/

namespace Chip8.Text

/-- The quote that a text is put in if nothing speaks against it. -/
def singleQuote : Char := Char.ofNat 0x27

/-- The quote for texts that hold a single quote. -/
def doubleQuote : Char := Char.ofNat 0x22

/-- The quote that a text is put in. -/
def quoteFor (text : Text) : Char :=
  if .character singleQuote ∈ text.symbols ∧
      .character doubleQuote ∉ text.symbols then
    doubleQuote
  else
    singleQuote

/-- The number of a symbol after the shortest mark that fits it. -/
def escapedCode (code : Nat) : String :=
  if code ≤ 0xFF then "\\x" ++ lowerHex 2 code
  else if code ≤ 0xFFFF then "\\u" ++ lowerHex 4 code
  else "\\U" ++ lowerHex 8 code

/-- A character as it stands between quotes. -/
def escaped (quote character : Char) : List Char :=
  if character = quote ∨ character = '\\' then ['\\', character]
  else if character = '\n' then ['\\', 'n']
  else if character = '\r' then ['\\', 'r']
  else if character = '\t' then ['\\', 't']
  else if isPrintable character then [character]
  else (escapedCode character.toNat).toList

/-- A symbol as it stands between quotes. -/
def escapedSymbol (quote : Char) : Symbol → List Char
  | .character value => escaped quote value
  | .half offset => (escapedCode (Symbol.half offset).number).toList

/-- A text in quotes. -/
def quoted (text : Text) : String :=
  let quote := quoteFor text
  String.ofList
    (quote :: text.symbols.flatMap (escapedSymbol quote) ++ [quote])

end Chip8.Text

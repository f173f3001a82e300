import Chip8.Datum
import Chip8.Text.Numeral

/-!
# Reading documents

A document is one JSON value with blanks around it:

* a number with a fraction or an exponent is a binary fraction, any other an
  integer; `NaN`, `Infinity` and `-Infinity` are numbers too;
* of several entries of a record with one name the last value counts, in the
  place of the first;
* half of a surrogate pair may stand alone in a text, and a whole pair is one
  character;
* control characters in texts, comments, a byte order mark and further values
  are refused, and so are lists and records nested too deeply.

How many lists and records may lie one in the other is for the reader's
surroundings to say.  The reader works on a list of characters and gives what it
read together with the rest.
-/

namespace Chip8

/-- Why some bytes are no document. -/
inductive DocumentError where
  | notText
  | malformed
  | tooDeep
  | numeralTooLong (digits : Nat)
  deriving DecidableEq, Repr

namespace Datum.Reader

/-- What a reader gives: a value and the characters after it. -/
abbrev Reading (α : Type) := Except DocumentError (α × List Char)

/-- Drop blanks. -/
def skipBlanks (text : List Char) : List Char :=
  text.dropWhile fun character =>
    character = ' ' ∨ character = '\t' ∨ character = '\n' ∨ character = '\r'

/-! ## Texts -/

/-- The value of a hexadecimal digit. -/
def hexDigit? (character : Char) : Option Nat :=
  match Text.Numeral.digitValue? character with
  | some value => if value < 16 then some value else none
  | none => none

/-- The number that four hexadecimal digits denote. -/
def hexCode? (a b c d : Char) : Option Nat :=
  match hexDigit? a, hexDigit? b, hexDigit? c, hexDigit? d with
  | some a, some b, some c, some d => some (((a * 16 + b) * 16 + c) * 16 + d)
  | _, _, _, _ => none

/-- Whether a code is the first half of a pair that names one character. -/
def isHighHalf (code : Nat) : Bool :=
  0xD800 ≤ code ∧ code < 0xDC00

/-- Whether a code is the second half of such a pair. -/
def isLowHalf (code : Nat) : Bool :=
  0xDC00 ≤ code ∧ code < 0xE000

/-- The character that two halves name together. -/
def paired (first second : Nat) : Symbol :=
  .character
    (Char.ofNat (0x10000 + (first - 0xD800) * 0x400 + (second - 0xDC00)))

/-- The character that a letter after a backslash stands for. -/
def escapeOf? (letter : Char) : Option Char :=
  if letter = Text.doubleQuote ∨ letter = '\\' ∨ letter = '/' then some letter
  else if letter = 'b' then some (Char.ofNat 8)
  else if letter = 'f' then some (Char.ofNat 12)
  else if letter = 'n' then some '\n'
  else if letter = 'r' then some '\r'
  else if letter = 't' then some '\t'
  else none

/-- Read the symbols of a text up to its closing quote.  `done` holds the
symbols so far, the latest first. -/
def readTextFrom (done : List Symbol) :
    List Char → Option (Text × List Char)
  | [] => none
  | '\\' :: 'u' :: a :: b :: c :: d ::
      '\\' :: 'u' :: e :: f :: g :: h :: rest =>
      match hexCode? a b c d, hexCode? e f g h with
      | some first, some second =>
          if isHighHalf first && isLowHalf second then
            readTextFrom (paired first second :: done) rest
          else
            readTextFrom (.ofNumber first :: done)
              ('\\' :: 'u' :: e :: f :: g :: h :: rest)
      | _, _ => none
  | '\\' :: 'u' :: a :: b :: c :: d :: rest =>
      match hexCode? a b c d with
      | some code => readTextFrom (.ofNumber code :: done) rest
      | none => none
  | '\\' :: letter :: rest =>
      match escapeOf? letter with
      | some character => readTextFrom (.character character :: done) rest
      | none => none
  | character :: rest =>
      if character = Text.doubleQuote then some (⟨done.reverse⟩, rest)
      else if character = '\\' ∨ character.toNat < 0x20 then none
      else readTextFrom (.character character :: done) rest

/-- Read a text up to its closing quote. -/
def readText (text : List Char) : Option (Text × List Char) :=
  readTextFrom [] text

/-! ## Numbers -/

/-- The number that decimal digits denote. -/
def decimalValue (digits : List Char) : Nat :=
  Text.Numeral.magnitude 10 digits

/-- Split off the whole part of a number: a zero alone, or digits. -/
def splitWhole : List Char → List Char × List Char
  | '0' :: rest => (['0'], rest)
  | text => text.span Char.isDigit

/-- Split off a point with digits, if both are there. -/
def splitFraction : List Char → List Char × List Char
  | '.' :: rest =>
      match rest.span Char.isDigit with
      | ([], _) => ([], '.' :: rest)
      | (digits, after) => (digits, after)
  | text => ([], text)

/-- Split off an exponent, if it has digits. -/
def splitExponent : List Char → Option Int × List Char
  | mark :: rest =>
      if mark = 'e' ∨ mark = 'E' then
        let (negative, unsigned) := Text.Numeral.splitSign rest
        match unsigned.span Char.isDigit with
        | ([], _) => (none, mark :: rest)
        | (digits, after) =>
            let size : Int := decimalValue digits
            (some (if negative then -size else size), after)
      else
        (none, mark :: rest)
  | [] => (none, [])

/-- Read a number that starts with a digit. -/
def readNumber (negative : Bool) (text : List Char) : Reading Datum :=
  let (whole, afterWhole) := splitWhole text
  let (fraction, afterFraction) := splitFraction afterWhole
  let (exponent, rest) := splitExponent afterFraction
  if whole = [] then
    .error .malformed
  else if fraction = [] ∧ exponent = none then
    if whole.length > Text.Numeral.digitLimit then
      .error (.numeralTooLong whole.length)
    else
      let size : Int := decimalValue whole
      .ok (.integer (if negative then -size else size), rest)
  else
    .ok (.real (.ofDecimal negative (decimalValue (whole ++ fraction))
      (exponent.getD 0 - fraction.length)), rest)

/-! ## Values -/

/-- Read a value that is no text, list or record. -/
def readPlain : List Char → Reading Datum
  | 'n' :: 'u' :: 'l' :: 'l' :: rest => .ok (.null, rest)
  | 't' :: 'r' :: 'u' :: 'e' :: rest => .ok (.boolean true, rest)
  | 'f' :: 'a' :: 'l' :: 's' :: 'e' :: rest => .ok (.boolean false, rest)
  | 'N' :: 'a' :: 'N' :: rest => .ok (.real .nan, rest)
  | 'I' :: 'n' :: 'f' :: 'i' :: 'n' :: 'i' :: 't' :: 'y' :: rest =>
      .ok (.real (.infinity false), rest)
  | '-' :: 'I' :: 'n' :: 'f' :: 'i' :: 'n' :: 'i' :: 't' :: 'y' :: rest =>
      .ok (.real (.infinity true), rest)
  | '-' :: rest => readNumber true rest
  | text => readNumber false text

/-- Read the name of an entry and the colon after it. -/
def readName : List Char → Reading Text
  | [] => .error .malformed
  | character :: rest =>
      if character = Text.doubleQuote then
        match readText rest with
        | some (name, after) =>
            match skipBlanks after with
            | ':' :: value => .ok (name, skipBlanks value)
            | _ => .error .malformed
        | none => .error .malformed
      else
        .error .malformed

mutual

/-- Read a value.  `levels` is the number of lists and records that may still
be opened around a value, and the first argument bounds the whole reading. -/
def readValue : Nat → Nat → List Char → Reading Datum
  | 0, _, _ => .error .malformed
  | _ + 1, _, [] => .error .malformed
  | fuel + 1, levels, character :: rest =>
      if character = Text.doubleQuote then
        match readText rest with
        | some (text, after) => .ok (.string text, after)
        | none => .error .malformed
      else if character = '[' then
        match levels, skipBlanks rest with
        | 0, _ => .error .tooDeep
        | _ + 1, ']' :: after => .ok (.list [], after)
        | inner + 1, first =>
            match readItems fuel inner first with
            | .ok (items, after) => .ok (.list items, after)
            | .error reason => .error reason
      else if character = '{' then
        match levels, skipBlanks rest with
        | 0, _ => .error .tooDeep
        | _ + 1, '}' :: after => .ok (.record [], after)
        | inner + 1, first =>
            match readMembers fuel inner first with
            | .ok (members, after) =>
                .ok (.record (Entries.ofPairs members), after)
            | .error reason => .error reason
      else
        readPlain (character :: rest)

/-- Read the items of a list up to its closing bracket. -/
def readItems : Nat → Nat → List Char → Reading (List Datum)
  | 0, _, _ => .error .malformed
  | fuel + 1, levels, text =>
      match readValue fuel levels text with
      | .error reason => .error reason
      | .ok (item, after) =>
          match skipBlanks after with
          | ']' :: rest => .ok ([item], rest)
          | ',' :: next =>
              match readItems fuel levels (skipBlanks next) with
              | .ok (items, rest) => .ok (item :: items, rest)
              | .error reason => .error reason
          | _ => .error .malformed

/-- Read the members of a record up to its closing brace. -/
def readMembers : Nat → Nat → List Char → Reading (List (Text × Datum))
  | 0, _, _ => .error .malformed
  | fuel + 1, levels, text =>
      match readName text with
      | .error reason => .error reason
      | .ok (name, valueText) =>
          match readValue fuel levels valueText with
          | .error reason => .error reason
          | .ok (value, after) =>
              match skipBlanks after with
              | '}' :: rest => .ok ([(name, value)], rest)
              | ',' :: next =>
                  match readMembers fuel levels (skipBlanks next) with
                  | .ok (members, rest) => .ok ((name, value) :: members, rest)
                  | .error reason => .error reason
              | _ => .error .malformed

end

end Datum.Reader

namespace Datum

/-- Read a document in which at most `nesting` lists and records lie one in the
other. -/
def read (nesting : Nat) (text : List Char) : Except DocumentError Datum :=
  match Reader.readValue (2 * text.length + 2) nesting
      (Reader.skipBlanks text) with
  | .error reason => .error reason
  | .ok (value, after) =>
      if Reader.skipBlanks after = [] then .ok value else .error .malformed

/-- Read a document from its bytes, a text in UTF-8. -/
def ofBytes (nesting : Nat) (bytes : List UInt8) :
    Except DocumentError Datum :=
  match String.fromUTF8? ⟨bytes.toArray⟩ with
  | some text => read nesting text.toList
  | none => .error .notText

end Datum

end Chip8

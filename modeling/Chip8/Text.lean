/-!
# Texts

A text is a list of symbols.  A symbol is a character, or half of a surrogate
pair that stands alone, which a document can spell and a string cannot hold.

* Every string is a text.
* `replaced` is the text as a string, with every lone half replaced.
* `join` and `joined` put texts one after the other.
-/

namespace Chip8

/-- A character, or half of a surrogate pair that stands alone.  Halves are
counted from the first one. -/
inductive Symbol where
  | character (value : Char)
  | half (offset : Fin 0x800)
  deriving DecidableEq, Repr

namespace Symbol

/-- The number of the first half of a surrogate pair. -/
def firstHalf : Nat := 0xD800

/-- The number of a symbol. -/
def number : Symbol → Nat
  | .character value => value.toNat
  | .half offset => firstHalf + offset.val

/-- The symbol with a number of at most four hexadecimal digits. -/
def ofNumber (number : Nat) : Symbol :=
  if isHalf : firstHalf ≤ number ∧ number - firstHalf < 0x800 then
    .half ⟨number - firstHalf, isHalf.2⟩
  else
    .character (Char.ofNat number)

/-- Whether a symbol is half of a surrogate pair. -/
def isHalf : Symbol → Bool
  | .character _ => false
  | .half _ => true

/-- A symbol as a character; a half becomes the replacement character. -/
def replaced : Symbol → Char
  | .character value => value
  | .half _ => Char.ofNat 0xFFFD

end Symbol

/-- A list of symbols. -/
structure Text where
  symbols : List Symbol
  deriving DecidableEq, Repr

namespace Text

/-- The text that a string holds. -/
def ofString (string : String) : Text :=
  ⟨string.toList.map .character⟩

instance : Coe String Text := ⟨ofString⟩

/-- Whether a text has no symbols. -/
def isEmpty (text : Text) : Bool :=
  text.symbols.isEmpty

instance : Append Text :=
  ⟨fun left right => ⟨left.symbols ++ right.symbols⟩⟩

/-- Texts one after the other. -/
def join (texts : List Text) : Text :=
  ⟨texts.flatMap symbols⟩

/-- Texts one after the other, with a separator between them. -/
def joined (separator : Text) (texts : List Text) : Text :=
  ⟨separator.symbols.intercalate (texts.map symbols)⟩

/-- A text as a string, with the replacement character for every half. -/
def replaced (text : Text) : String :=
  String.ofList (text.symbols.map Symbol.replaced)

/-- A string comes back from its text. -/
@[simp]
theorem replaced_ofString (string : String) :
    (ofString string).replaced = string := by
  have same : Symbol.replaced ∘ Symbol.character = id := rfl
  simp [ofString, replaced, same]

end Text

end Chip8

import Chip8.KeyCode
import Chip8.Text.Upper

/-!
# Host keys and keypad keys

A keyboard maps the names of host keys to codes of the sixteen keys of the
keypad.

* Names are compared in upper case, and several names may share a code.
* A report for a name without a code reaches nobody.

The usual layout puts the keypad on the left of a keyboard:

    1 2 3 C  on  1 2 3 4
    4 5 6 D  on  Q W E R
    7 8 9 E  on  A S D F
    A 0 B F  on  Z X C V
-/

namespace Chip8

/-- The usual names of the keypad keys. -/
def defaultLayout : Entries Key := [
  ("1", 0x1), ("2", 0x2), ("3", 0x3), ("4", 0xC),
  ("Q", 0x4), ("W", 0x5), ("E", 0x6), ("R", 0xD),
  ("A", 0x7), ("S", 0x8), ("D", 0x9), ("F", 0xE),
  ("Z", 0xA), ("X", 0x0), ("C", 0xB), ("V", 0xF)]

/-- A layout with the codes of its keys. -/
def Entries.codes (layout : Entries Key) : Entries Datum :=
  layout.map fun entry => (entry.1, KeyCode.datum (.key entry.2))

/-- Codes of keypad keys under host key names in upper case. -/
structure Keyboard where
  layout : Entries KeyCode
  deriving DecidableEq, Repr

namespace Keyboard

/-- A keyboard on which no key plays a part. -/
def empty : Keyboard := ⟨[]⟩

/-- Give a host key name a code. -/
def assign (keyboard : Keyboard) (name : Text) (code : Datum) :
    Except KeyCodeError Keyboard :=
  match KeyCode.ofDatum code with
  | .ok code => .ok ⟨keyboard.layout.put (Text.upper name) code⟩
  | .error reason => .error reason

/-- Give each of some names its code, in order. -/
def assignAll :
    Keyboard → List (Text × Datum) → Except KeyCodeError Keyboard
  | keyboard, [] => .ok keyboard
  | keyboard, (name, code) :: rest =>
      match keyboard.assign name code with
      | .ok assigned => assigned.assignAll rest
      | .error reason => .error reason

/-- The keyboard with some names. -/
def ofEntries (entries : Entries Datum) : Except KeyCodeError Keyboard :=
  empty.assignAll entries

/-- The names of a keyboard with their codes as they were given. -/
def entries (keyboard : Keyboard) : Entries Datum :=
  keyboard.layout.map fun entry => (entry.1, entry.2.datum)

/-- The code of a host key name. -/
def codeOf? (keyboard : Keyboard) (name : Text) : Option KeyCode :=
  keyboard.layout.get? (Text.upper name)

/-- The keypad key of a host key name. -/
def keyOf? (keyboard : Keyboard) (name : Text) : Option Key :=
  (keyboard.codeOf? name).bind KeyCode.key?

/-- Whether a host key name has a code. -/
def isMapped (keyboard : Keyboard) (name : Text) : Bool :=
  (keyboard.codeOf? name).isSome

/-- What the machine is told when the host key of this name goes down or up. -/
def report (keyboard : Keyboard) (name : Text) (pressed : Bool) :
    Option (KeyCode × Bool) :=
  (keyboard.codeOf? name).map fun code => (code, pressed)

end Keyboard

end Chip8

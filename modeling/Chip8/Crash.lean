import Chip8.Settings
import Chip8.Speed
import Chip8.SquareWave

/-!
# Crashes

What the program has no exit code for.  These are accidents that no part of it
reports to the user: a setting of a wrong kind, a key map file nested beyond
all bounds, a ROM name that no file can have, a tone without a wave, no speed
for a machine, a layout without a keyboard, and a fraction in the place of a
key.
-/

namespace Chip8

/-- Why a program ended without an exit code of its own. -/
inductive Crash where
  | incomparable (kind : String)
  | notAnInteger (reason : IntegerError)
  | nesting
  | romName (reason : FileError)
  | noWave (reason : WaveError)
  | noSpeed (reason : SpeedError)
  | noKeyboard (reason : KeyCodeError)
  | fractionalKey
  deriving DecidableEq, Repr

namespace Crash

/-- The text that describes the crash. -/
def message : Crash → Text
  | .incomparable kind => (SettingsError.incomparable kind).message
  | .notAnInteger reason => reason.message
  | .nesting => DocumentError.tooDeep.message
  | .romName reason => reason.message
  | .noWave reason => reason.message
  | .noSpeed reason => reason.message
  | .noKeyboard reason => reason.message
  | .fractionalKey => KeyCode.fractionMessage

/-- The crash that a settings error amounts to, if it is no error of usage. -/
def ofSettingsError? : SettingsError → Option Crash
  | .incomparable kind => some (.incomparable kind)
  | .notAnInteger (.unsuitable kind) => some (.notAnInteger (.unsuitable kind))
  | .notAnInteger .infinite => some (.notAnInteger .infinite)
  | .keyFile (.document .tooDeep) => some .nesting
  | _ => none

/-- The crash that a ROM error amounts to, if it is no matter of the file. -/
def ofFileError? (error : FileError) : Option Crash :=
  if error.problem = .nullCharacter ∨ error.problem = .strayHalf then
    some (.romName error)
  else
    none

end Crash

end Chip8

import Chip8.CommandLine
import Chip8.Keyboard.File

/-!
# Settings

The settings of the emulator and where they come from: given one by one, or
from a command line with an optional key map file.

* Settings are kept as they were given, and only their use tells what they are
  good for.  Three of them are checked.
* Speed and frame rate must be numbers and not below one.
* The scale is read as an integer and is at least one, whatever was asked for.
* An option that was given no value at all counts as an empty list.
* A key map file is laid over the usual layout.
-/

namespace Chip8

/-- The settings that are kept as they were given. -/
structure Preferences where
  speed : Datum
  fps : Datum
  tone : Datum
  volume : Datum
  layout : Entries Datum
  verbose : Datum
  deriving DecidableEq, Repr

/-- The settings of the emulator. -/
structure Settings extends Preferences where
  scale : Nat
  deriving DecidableEq, Repr

/-- Why settings are refused. -/
inductive SettingsError where
  | speedTooLow
  | fpsTooLow
  | incomparable (kind : String)
  | notAnInteger (reason : IntegerError)
  | keyFile (reason : KeyFileError)
  deriving DecidableEq, Repr

namespace SettingsError

/-- The text that reports the error. -/
def message : SettingsError → Text
  | .speedTooLow => "speed must be at least 1"
  | .fpsTooLow => "fps must be at least 1"
  | .incomparable kind =>
      ↑(Text.quoted "<" ++ " not supported between instances of " ++
        Text.quoted kind ++ " and " ++ Text.quoted "int")
  | .notAnInteger reason => reason.message
  | .keyFile reason => reason.message

end SettingsError

namespace Settings

/-- One fifth, the usual volume. -/
def defaultVolume : Datum := .real (.ofDecimal false 2 (-1))

/-- The settings that are asked for. -/
structure Request extends Preferences where
  scale : Datum
  deriving DecidableEq, Repr

/-- The value of an option with a number.  No value at all is an empty list. -/
def optionValue (value : Option Int) : Datum :=
  match value with
  | some number => .integer number
  | none => .list []

/-- What a command line asks for, with a layout. -/
def Request.ofArguments (arguments : Arguments) (layout : Entries Key) :
    Request where
  speed := optionValue arguments.speed
  scale := optionValue arguments.scale
  fps := optionValue arguments.fps
  tone := optionValue arguments.tone
  volume := defaultVolume
  layout := layout.codes
  verbose := .boolean arguments.verbose

/-- What is asked for if nobody says otherwise. -/
def Request.usual : Request :=
  .ofArguments CommandLine.defaults defaultLayout

/-- Check that a value is a number and not below one. -/
def checkCount (value : Datum) (tooLow : SettingsError) :
    Except SettingsError Unit :=
  match value.number? with
  | none => .error (.incomparable value.kind)
  | some number => if number.isBelow 1 then .error tooLow else .ok ()

/-- An integer passes the check if it is positive. -/
theorem checkCount_integer (number : Int) (tooLow : SettingsError) :
    checkCount (.integer number) tooLow =
      if number < 1 then .error tooLow else .ok () := by
  simp [checkCount, Datum.number?, Number.isBelow]

/-- The settings that a request leads to. -/
def ofRequest (request : Request) : Except SettingsError Settings :=
  match checkCount request.speed .speedTooLow with
  | .error reason => .error reason
  | .ok () =>
      match checkCount request.fps .fpsTooLow with
      | .error reason => .error reason
      | .ok () =>
          match request.scale.toInteger with
          | .error reason => .error (.notAnInteger reason)
          | .ok scale => .ok ⟨request.toPreferences, (max 1 scale).toNat⟩

/-- The usual layout with a key map file laid over it, if one is named. -/
def layoutOf (nesting : Nat) (files : FileSystem) (keymap : Option Text) :
    Except SettingsError (Entries Key) :=
  match keymap with
  | none => .ok defaultLayout
  | some path =>
      match KeyFile.load nesting files path with
      | .ok layout => .ok (defaultLayout.putAll layout)
      | .error reason => .error (.keyFile reason)

/-- The settings that a command line leads to. -/
def ofArguments (nesting : Nat) (files : FileSystem) (arguments : Arguments) :
    Except SettingsError Settings :=
  match layoutOf nesting files arguments.keymap with
  | .error reason => .error reason
  | .ok layout => ofRequest (.ofArguments arguments layout)

end Settings

end Chip8

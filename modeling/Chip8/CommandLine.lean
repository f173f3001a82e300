import Chip8.Machine
import Chip8.Text.Numeral
import Chip8.Text.Quoted

/-!
# The command line

A command line names a ROM and may hold options anywhere:

* `--name value` and `--name=value` give a value, and the last one counts;
* a name may be shortened as long as it stays unambiguous;
* flags of one letter may be written together after one dash, and an equals
  sign after the first one is passed over;
* `--` ends the options, and as a value after an equals sign it stands for no
  value at all.

An argument is an operand if it is empty, a dash alone, does not start with a
dash, looks like a negative number, or starts with a dash, names no option and
holds a space.

An argument is a text and may hold lone halves of surrogate pairs.  They belong
to no option and to no number.

Every argument before `--` is classified first, so an ambiguous name is
reported before anything else.  Then the arguments are taken from left to
right, and the first one in error, or the first call for help, ends the reading.
-/

namespace Chip8

/-- The options of the command line. -/
inductive Switch where
  | help
  | speed
  | scale
  | fps
  | tone
  | keymap
  | verbose
  deriving DecidableEq, Repr

namespace Switch

/-- Whether an option stands before a value. -/
def takesValue : Switch → Bool
  | .help => false
  | .verbose => false
  | _ => true

/-- The name of an option in messages. -/
def label : Switch → String
  | .help => "-h/--help"
  | .speed => "--speed"
  | .scale => "--scale"
  | .fps => "--fps"
  | .tone => "--tone"
  | .keymap => "--keymap"
  | .verbose => "-v/--verbose"

/-- The long spellings, in the order in which they are listed. -/
def longSpellings : List (Text × Switch) := [
  ("--help", .help), ("--speed", .speed), ("--scale", .scale),
  ("--fps", .fps), ("--tone", .tone), ("--keymap", .keymap),
  ("--verbose", .verbose)]

/-- The option with a letter as its short spelling. -/
def ofLetter? : Symbol → Option Switch
  | .character 'h' => some .help
  | .character 'v' => some .verbose
  | _ => none

end Switch

/-- Why a command line is refused. -/
inductive UsageError where
  | romMissing
  | unrecognized (arguments : List Text)
  | valueMissing (switch : Switch)
  | notAnInteger (switch : Switch) (text : Text)
  | ambiguous (text : Text) (spellings : List Text)
  | valueIgnored (switch : Switch) (text : Text)
  deriving DecidableEq, Repr

namespace UsageError

/-- The text that reports the error. -/
def message : UsageError → Text
  | .romMissing => "the following arguments are required: rom"
  | .unrecognized arguments =>
      "unrecognized arguments: " ++ Text.joined " " arguments
  | .valueMissing switch =>
      "argument " ++ switch.label ++ ": expected one argument"
  | .notAnInteger switch text =>
      "argument " ++ switch.label ++ ": invalid int value: " ++ Text.quoted text
  | .ambiguous text spellings =>
      "ambiguous option: " ++ text ++ " could match " ++
        Text.joined ", " spellings
  | .valueIgnored switch text =>
      "argument " ++ switch.label ++ ": ignored explicit argument " ++
        Text.quoted text

end UsageError

/-- What a command line asks for.  An option that was given no value at all
has none here. -/
structure Arguments where
  rom : Text
  speed : Option Int
  scale : Option Int
  fps : Option Int
  tone : Option Int
  keymap : Option Text
  verbose : Bool
  deriving DecidableEq, Repr

namespace CommandLine

/-- Why no arguments came out of a command line: help was asked for, or the
line is in error. -/
inductive Refusal where
  | help
  | usage (reason : UsageError)
  deriving DecidableEq, Repr

/-! ## Classifying arguments -/

/-- One argument, as its spelling tells. -/
inductive Argument where
  | operand (text : Text)
  | unknown (text : Text)
  | flags (first : Switch) (after : List Symbol)
  | long (switch : Switch) (value : Option Text)
  deriving DecidableEq, Repr

/-- Whether a text is digits of any script, possibly with a line end. -/
def isDigits (text : List Char) : Bool :=
  let isDigit := fun character => (Text.decimalDigit? character).isSome
  match text.dropWhile isDigit with
  | [] => text ≠ []
  | ['\n'] => text ≠ ['\n']
  | _ => false

/-- Whether a text is a minus sign with an integer or a decimal fraction. -/
def isNegativeNumber : List Char → Bool
  | '-' :: text =>
      let isDigit := fun character => (Text.decimalDigit? character).isSome
      isDigits text ||
        match text.dropWhile isDigit with
        | '.' :: fraction => isDigits fraction
        | _ => false
  | _ => false

/-- Split a text at its first equals sign. -/
def splitEquals (text : Text) : Text × Option Text :=
  let isEquals := fun symbol => symbol = Symbol.character '='
  match text.symbols.dropWhile (!isEquals ·) with
  | _ :: value => (⟨text.symbols.takeWhile (!isEquals ·)⟩, some ⟨value⟩)
  | [] => (text, none)

/-- Classify an argument that starts with two dashes. -/
def classifyLong (text : Text) : Except UsageError (Option Argument) :=
  let (name, value) := splitEquals text
  let long := fun switch => Argument.long switch value
  match Switch.longSpellings.lookup name with
  | some switch => .ok (some (long switch))
  | none =>
      match Switch.longSpellings.filter
          (fun spelling => name.symbols.isPrefixOf spelling.1.symbols) with
      | [] => .ok none
      | [spelling] => .ok (some (long spelling.2))
      | several => .error (.ambiguous text (several.map (·.1)))

/-- Classify an argument. -/
def classify (text : Text) : Except UsageError Argument :=
  let unnamed : Argument :=
    if isNegativeNumber text.replaced.toList ∨
        .character ' ' ∈ text.symbols then
      .operand text
    else
      .unknown text
  match text.symbols with
  | .character '-' :: .character '-' :: _ =>
      match classifyLong text with
      | .ok found => .ok (found.getD unnamed)
      | .error reason => .error reason
  | .character '-' :: letter :: after =>
      match Switch.ofLetter? letter with
      | some switch => .ok (.flags switch after)
      | none => .ok unnamed
  | _ => .ok (.operand text)

/-- Classify arguments in order. -/
def classifyAll : List Text → Except UsageError (List Argument)
  | [] => .ok []
  | text :: rest =>
      match classify text with
      | .error reason => .error reason
      | .ok argument =>
          match classifyAll rest with
          | .ok arguments => .ok (argument :: arguments)
          | .error reason => .error reason

/-! ## Taking arguments -/

/-- What was taken from a command line so far.  `romIsLatest` tells that the ROM
name was the latest argument. -/
structure Progress where
  rom : Option Text
  romIsLatest : Bool
  settings : Arguments
  extras : List Text
  deriving DecidableEq, Repr

/-- The values of options that are not given. -/
def defaults : Arguments where
  rom := ""
  speed := some defaultSpeed
  scale := some 15
  fps := some 60
  tone := some 440
  keymap := none
  verbose := false

/-- Nothing taken yet. -/
def Progress.start : Progress := ⟨none, false, defaults, []⟩

/-- Take an operand: the first one is the ROM name. -/
def Progress.operand (progress : Progress) (text : Text) : Progress :=
  match progress.rom with
  | none => { progress with rom := some text, romIsLatest := true }
  | some _ =>
      { progress with
        extras := progress.extras ++ [text]
        romIsLatest := false }

/-- Take an argument that nothing knows. -/
def Progress.extra (progress : Progress) (text : Text) : Progress :=
  { progress with
    extras := progress.extras ++ [text]
    romIsLatest := false }

/-- The argument that ends the options. -/
def twoDashes : Text := "--"

/-- The value after an equals sign.  Two dashes stand for no value. -/
def givenValue (text : Text) : Option Text :=
  if text = twoDashes then none else some text

/-- Read the value of an integer option, if it was given one. -/
def integerValue (switch : Switch) :
    Option Text → Except Refusal (Option Int)
  | none => .ok none
  | some text =>
      match Text.Numeral.read .plain text.replaced with
      | .ok value => .ok (some value)
      | .error _ => .error (.usage (.notAnInteger switch text))

/-- Note an option, with its value if it was given one. -/
def Progress.note (progress : Progress) (switch : Switch)
    (text : Option Text) : Except Refusal Progress :=
  let settings := progress.settings
  let noted := fun changed : Arguments =>
    { progress with settings := changed, romIsLatest := false }
  match switch with
  | .help => .error .help
  | .verbose => .ok (noted { settings with verbose := true })
  | .speed => (integerValue switch text).map fun value =>
      noted { settings with speed := value }
  | .scale => (integerValue switch text).map fun value =>
      noted { settings with scale := value }
  | .fps => (integerValue switch text).map fun value =>
      noted { settings with fps := value }
  | .tone => (integerValue switch text).map fun value =>
      noted { settings with tone := value }
  | .keymap =>
      .ok (noted { settings with
        keymap := text.filter fun path => !path.isEmpty })

/-- The flags that are written together.  What follows a flag is in error as a
whole if its first letter names no flag. -/
def flagsTogether (flag : Switch) :
    List Symbol → Except UsageError (List Switch)
  | [] => .ok [flag]
  | letter :: rest =>
      match Switch.ofLetter? letter with
      | none => .error (.valueIgnored flag ⟨letter :: rest⟩)
      | some next =>
          match flagsTogether next rest with
          | .ok flags => .ok (flag :: flags)
          | .error reason => .error reason

/-- The flags of an argument whose first letter names one.  An equals sign
after it is passed over, but may not be the last character. -/
def flagsFrom (first : Switch) :
    List Symbol → Except UsageError (List Switch)
  | [.character '='] => .error (.valueIgnored first "")
  | .character '=' :: letters => flagsTogether first letters
  | letters => flagsTogether first letters

/-- Note flags in order. -/
def Progress.noteAll : Progress → List Switch → Except Refusal Progress
  | progress, [] => .ok progress
  | progress, flag :: rest =>
      match progress.note flag none with
      | .ok noted => noted.noteAll rest
      | .error reason => .error reason

/-- Take classified arguments from left to right. -/
def take : Progress → List Argument → Except Refusal Progress
  | progress, [] => .ok progress
  | progress, .operand text :: rest => take (progress.operand text) rest
  | progress, .unknown text :: rest => take (progress.extra text) rest
  | progress, .flags first after :: rest =>
      match flagsFrom first after with
      | .error reason => .error (.usage reason)
      | .ok flags =>
          match progress.noteAll flags with
          | .ok noted => take noted rest
          | .error reason => .error reason
  | progress, .long switch (some value) :: rest =>
      if switch.takesValue then
        match progress.note switch (givenValue value) with
        | .ok noted => take noted rest
        | .error reason => .error reason
      else
        .error (.usage (.valueIgnored switch value))
  | progress, .long switch none :: rest =>
      if switch.takesValue then
        match rest with
        | .operand value :: others =>
            match progress.note switch (some value) with
            | .ok noted => take noted others
            | .error reason => .error reason
        | _ => .error (.usage (.valueMissing switch))
      else
        match progress.note switch none with
        | .ok noted => take noted rest
        | .error reason => .error reason

/-- Take the arguments after `--`.  The dashes themselves are dropped beside
the ROM name, and are an extra argument anywhere else. -/
def takeOperands (progress : Progress) (operands : List Text) : Progress :=
  match progress.rom, operands with
  | none, rom :: rest =>
      { progress with rom := some rom, extras := progress.extras ++ rest }
  | none, [] => progress
  | some _, rest =>
      if progress.romIsLatest then
        { progress with extras := progress.extras ++ rest }
      else
        { progress with extras := progress.extras ++ twoDashes :: rest }

/-- What was asked for, if the ROM is named and nothing is left over. -/
def finish (progress : Progress) : Except Refusal Arguments :=
  match progress.rom, progress.extras with
  | none, _ => .error (.usage .romMissing)
  | some rom, [] => .ok { progress.settings with rom := rom }
  | some _, extras => .error (.usage (.unrecognized extras))

/-- The arguments before `--`, and those after it if it is there. -/
def splitDashes (arguments : List Text) :
    List Text × Option (List Text) :=
  match arguments.dropWhile (· ≠ twoDashes) with
  | _ :: operands => (arguments.takeWhile (· ≠ twoDashes), some operands)
  | [] => (arguments, none)

/-- Read a command line. -/
def parse (arguments : List Text) : Except Refusal Arguments :=
  let (before, after) := splitDashes arguments
  match classifyAll before with
  | .error reason => .error (.usage reason)
  | .ok classified =>
      match take .start classified with
      | .error reason => .error reason
      | .ok progress =>
          match after with
          | some operands => finish (takeOperands progress operands)
          | none => finish progress

/-! ## Texts -/

/-- The synopsis. -/
def usage : String :=
  "usage: chipemu [-h] [--speed SPEED] [--scale SCALE] [--fps FPS] [--tone TONE]\n" ++
  "               [--keymap JSON] [-v]\n" ++
  "               rom\n"

/-- The synopsis with a description of every argument. -/
def help : String :=
  usage ++
  "\nCHIP-8 emulator\n" ++
  "\npositional arguments:\n" ++
  "  rom            Path to CHIP-8 ROM\n" ++
  "\noptions:\n" ++
  "  -h, --help     show this help message and exit\n" ++
  "  --speed SPEED  Instructions executed per frame (default 10)\n" ++
  "  --scale SCALE  Pixel scale factor (default 15)\n" ++
  "  --fps FPS      Frame rate driving timers and execution (default 60)\n" ++
  "  --tone TONE    Beep tone frequency in Hz\n" ++
  "  --keymap JSON  JSON file overriding the keyboard mapping\n" ++
  "  -v, --verbose  Enable debug logging (traces every instruction)\n"

/-- The synopsis with an error after it. -/
def complaint (message : Text) : Text :=
  usage ++ "chipemu: error: " ++ message ++ "\n"

end CommandLine

end Chip8

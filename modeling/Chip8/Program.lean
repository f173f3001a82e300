import Chip8.Crash
import Chip8.Observers
import Chip8.Window

/-!
# The program

The whole program, from a command line to an exit code.

* A command line in error, refused settings and a call for help end the program
  before the host is touched, and so does a ROM that cannot be read.
* Otherwise the host is started, the beeper built, the ROM loaded, the window
  opened and its main loop run; and on every path the host is left at the end.

The exit code is 2 for errors of usage, 1 for a ROM that cannot be read or does
not fit and for a program that breaks off, and 0 otherwise.  An interruption
has no exit code, and neither has a crash.
-/

namespace Chip8

/-- What a program finds around it: files and how deeply a document in them may
be nested, the condition of the mixer, the batches of host events to come, and
random bytes. -/
structure Surroundings where
  files : FileSystem
  nesting : Nat
  mixer : Mixer
  batches : List Batch
  random : RandomSource

/-- How a program ended. -/
inductive Ending where
  | exited (code : Nat)
  | interrupted
  | crashed (reason : Crash)
  deriving DecidableEq, Repr

/-- What a program leaves behind: its ending, what it wrote, and its calls to
the host in order. -/
structure Transcript where
  ending : Ending
  out : String
  err : Text
  calls : List HostCall
  deriving DecidableEq, Repr

namespace Program

/-- The sound settings that the mixer is prepared with. -/
def preparation : HostCall := .prepareMixer 44100 (-16) 1 256

/-- The notices and the ending of the main loop. -/
def runWindow (window : Window) (batches : List Batch) :
    List Notice × Ending :=
  let outcome := window.run batches
  match outcome.result with
  | .ok () => (outcome.notices, .exited 0)
  | .error .interrupted => (outcome.notices, .interrupted)
  | .error .fractionalKey => (outcome.notices, .crashed .fractionalKey)
  | .error (.fault fault) =>
      (outcome.notices ++ [.stopped outcome.window.machine.processor.pc fault],
        .exited 1)

/-- The notices and the ending from the building of the machine on. -/
def runMachine (surroundings : Surroundings) (settings : Settings)
    (rom : List UInt8) : List Notice × Ending :=
  match speedOf settings.speed with
  | .error reason => ([], .crashed (.noSpeed reason))
  | .ok speed =>
      let machine := Machine.fresh (.blank screenWidth screenHeight)
        surroundings.random speed
      let loaded := machine.load rom
      let notices := loaded.events.map Notice.machine
      match loaded.result with
      | .error fault => (notices ++ [.complaint fault.message], .exited 1)
      | .ok () =>
          match Window.create loaded.machine settings rom with
          | .error reason => (notices, .crashed (.noKeyboard reason))
          | .ok (window, opening) =>
              let (played, ending) := runWindow window surroundings.batches
              (notices ++ opening ++ played, ending)

/-- The beeper that the machine sounds on, and all notices and the ending from
the start of the host to its end. -/
def runHost (surroundings : Surroundings) (settings : Settings)
    (rom : List UInt8) : Beeper × List Notice × Ending :=
  let (built, installed) := Beeper.install surroundings.mixer.opened
    settings.tone settings.volume
  let opening := [.host preparation, .host .start] ++ installed
  match built with
  | .error reason =>
      (.silent, opening ++ [.host .quit], .crashed (.noWave reason))
  | .ok beeper =>
      let (played, ending) := runMachine surroundings settings rom
      (beeper, opening ++ played ++ [.host .quit], ending)

/-- What is written to the error stream for an effect. -/
def errorText : Effect → Text
  | .logged line => line.render ++ "\n"
  | .complained text => ↑("chipemu: " ++ text ++ "\n")
  | _ => ""

/-- The least level of the lines that are logged. -/
def logLevel (settings : Settings) : LogLevel :=
  if settings.verbose.truth then .debug else .info

/-- What the program leaves behind once its ROM is read. -/
def play (surroundings : Surroundings) (settings : Settings)
    (rom : List UInt8) : Transcript :=
  let (beeper, notices, ending) := runHost surroundings settings rom
  let observers : Observers :=
    ⟨false, some (logLevel settings), .beeper beeper⟩
  let effects := (observers.observeAll notices).2
  { ending := ending
    out := if ending = .interrupted then "\nExiting.\n" else ""
    err := Text.join (effects.map errorText)
    calls := Effect.calls effects }

/-- A program that ends before the host is touched. -/
def refused (code : Nat) (out : String) (err : Text) : Transcript :=
  ⟨.exited code, out, err, []⟩

/-- A program that crashes before the host is touched. -/
def crashed (reason : Crash) : Transcript :=
  ⟨.crashed reason, "", "", []⟩

/-- The end of a program without settings. -/
def withoutSettings (reason : SettingsError) : Transcript :=
  match Crash.ofSettingsError? reason with
  | some crash => crashed crash
  | none => refused 2 "" (CommandLine.complaint reason.message)

/-- The end of a program without a ROM. -/
def withoutRom (reason : FileError) : Transcript :=
  match Crash.ofFileError? reason with
  | some crash => crashed crash
  | none =>
      refused 1 "" ↑("chipemu: cannot read ROM: " ++ reason.message ++ "\n")

/-- Run the program on a command line. -/
def run (surroundings : Surroundings) (arguments : List Text) : Transcript :=
  match CommandLine.parse arguments with
  | .error .help => refused 0 CommandLine.help ""
  | .error (.usage reason) =>
      refused 2 "" (CommandLine.complaint reason.message)
  | .ok asked =>
      match Settings.ofArguments surroundings.nesting surroundings.files
          asked with
      | .error reason => withoutSettings reason
      | .ok settings =>
          match surroundings.files.read (normalizedPath asked.rom) with
          | .error reason => withoutRom reason
          | .ok rom => play surroundings settings rom

end Program

end Chip8

import Chip8.Event
import Chip8.Fault
import Chip8.Host
import Chip8.KeyCode
import Chip8.Text.Hexadecimal

/-!
# Notices and log lines

Everything the emulator tells the outside is a notice: an event of the machine,
a call to the host, the code that answered a key wait, or a message of the
program.  Some notices have a log line,
which has a level and the name of the part that writes it.
-/

namespace Chip8

/-- Something the emulator tells the outside. -/
inductive Notice where
  | machine (event : Event)
  | host (call : HostCall)
  | answered (register : Register) (code : KeyCode)
  | reloading
  | audioDisabled (reason : Text)
  | stopped (pc : Int) (fault : Fault)
  | complaint (text : String)
  deriving DecidableEq, Repr

/-! ## Log lines -/

/-- How much a log line matters. -/
inductive LogLevel where
  | debug
  | info
  | warning
  | error
  deriving DecidableEq, Repr

namespace LogLevel

/-- The levels in rising order. -/
def rank : LogLevel → Nat
  | .debug => 0
  | .info => 1
  | .warning => 2
  | .error => 3

/-- The name of a level in log lines. -/
def name : LogLevel → String
  | .debug => "DEBUG"
  | .info => "INFO"
  | .warning => "WARNING"
  | .error => "ERROR"

end LogLevel

/-- A line of the log. -/
structure LogLine where
  level : LogLevel
  source : String
  text : Text
  deriving DecidableEq, Repr

/-- A log line as it is written. -/
def LogLine.render (line : LogLine) : Text :=
  line.level.name ++ " " ++ line.source ++ ": " ++ line.text

/-- The log line of a machine event, if it has one. -/
def Event.logLine? : Event → Option LogLine
  | .executing pc word =>
      some ⟨.debug, "chipemu.cpu",
        ↑(Text.upperHex 3 pc ++ ": " ++ Text.upperHex 4 word)⟩
  | .waiting register =>
      some ⟨.debug, "chipemu.cpu",
        "waiting for key press into V" ++ Text.upperHex 1 register.val⟩
  | .resumed write =>
      some ⟨.debug, "chipemu.keypad",
        "key " ++ Text.upperHex 1 write.value.val ++
          " pressed, resuming with V" ++ Text.upperHex 1 write.register.val ++
          " set"⟩
  | .wasReset => some ⟨.debug, "chipemu.machine", "machine reset"⟩
  | .stored size =>
      some ⟨.debug, "chipemu.bank",
        s!"loaded {size} bytes at 0x" ++ Text.upperHex 3 programStart ++
          "-0x" ++ Text.upperHex 3 ((programStart : Int) + size - 1)⟩
  | .loaded size =>
      some ⟨.info, "chipemu.machine", s!"loaded program ({size} bytes)"⟩
  | .countedDown => none
  | .tone _ => none
  | .pixel _ => none

/-- The log line of a notice, if it has one. -/
def Notice.logLine? : Notice → Option LogLine
  | .machine event => event.logLine?
  | .reloading => some ⟨.info, "chipemu.frontend", "reloading ROM"⟩
  | .audioDisabled reason =>
      some ⟨.warning, "chipemu.frontend", "audio disabled: " ++ reason⟩
  | .stopped pc fault =>
      some ⟨.error, "chipemu.cli",
        "execution stopped at PC " ++ Text.upperHex 3 pc ++ ": " ++
          fault.message⟩
  | .host _ => none
  | .answered _ _ => none
  | .complaint _ => none

end Chip8

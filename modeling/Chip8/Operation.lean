import Chip8.Files
import Chip8.KeyCode
import Chip8.Machine
import Chip8.Speed

/-!
# Operations on a machine

Everything that can be asked of a machine from outside, as data: one operation
changes the machine, publishes events and gives an answer or a refusal.  A
refused operation is not an accident: the machine it leaves behind is defined,
and further operations may follow.
-/

namespace Chip8

/-- Something that can be asked of a machine. -/
inductive Operation where
  | step
  | frame
  | execute (opcode : Int)
  | nextWord
  | reset
  | load (program : List UInt8)
  | loadFile (files : FileSystem) (path : Text)
  | reportKey (code : Datum) (pressed : Bool)
  | isWaiting
  | setSpeed (value : Datum)
  | resetProcessor
  | loadMemory (program : List UInt8)
  | read (address : Int)
  | write (address value : Int)
  | readRange (address length : Int)
  | push (address : Int)
  | pop
  | draw (sprite : List Int) (x y : Int)
  | clearScreen
  | isLit (x y : Int)
  | clean

/-- What an operation answers. -/
inductive Answer where
  | nothing
  | number (value : Int)
  | flag (value : Bool)
  | bytes (values : List Nat)
  | write (register : Register) (code : KeyCode)
  deriving DecidableEq, Repr

/-- Why an operation is refused. -/
inductive OperationError where
  | fault (reason : Fault)
  | file (reason : FileError)
  | keyCode (reason : KeyCodeError)
  | fractionalKey
  | speed (reason : SpeedError)
  deriving Repr

namespace OperationError

/-- The text that reports the refusal. -/
def message : OperationError → String
  | .fault reason => reason.message
  | .file reason => reason.message
  | .keyCode (.outOfRange value) => "keycode out of range: " ++ value.shown
  | .keyCode reason => reason.message
  | .fractionalKey => KeyCode.fractionMessage
  | .speed reason => reason.message

end OperationError

namespace Machine

/-- An answer that leaves the machine as it is. -/
def answer (machine : Machine) (answer : Answer) :
    Outcome OperationError Answer :=
  ⟨machine, [], .ok answer⟩

/-- An answer after which the machine has another processor. -/
def become (machine : Machine) (processor : Processor) (answer : Answer) :
    Outcome OperationError Answer :=
  ⟨{ machine with processor := processor }, [], .ok answer⟩

/-- A refusal that leaves the machine as it is. -/
def refuse (machine : Machine) (reason : OperationError) :
    Outcome OperationError Answer :=
  ⟨machine, [], .error reason⟩

/-- The outcome of an operation on the processor alone, which answers with its
value. -/
def settle {α : Type}
    (machine : Machine) (attempt : Attempt α) (answer : α → Answer) :
    Outcome OperationError Answer :=
  ⟨{ machine with processor := attempt.processor }, [],
    match attempt.result with
    | .ok value => .ok (answer value)
    | .error fault => .error (.fault fault)⟩

/-- The outcome of an operation that answers nothing. -/
def silent (outcome : Outcome Fault Unit) : Outcome OperationError Answer :=
  ⟨outcome.machine, outcome.events,
    match outcome.result with
    | .ok () => .ok .nothing
    | .error fault => .error (.fault fault)⟩

/-- Record that the key with a code went down or up, if there is one. -/
def reportCode (machine : Machine) (code : KeyCode) (pressed : Bool) :
    Outcome OperationError Answer :=
  match code.key? with
  | none => machine.refuse .fractionalKey
  | some key =>
      let outcome : Outcome OperationError (Option RegisterWrite) :=
        machine.reportKey key pressed
      ⟨outcome.machine, outcome.events,
        outcome.result.map fun
          | some write => .write write.register code
          | none => .nothing⟩

/-- Put a program into memory and publish its size. -/
def loadMemory (machine : Machine) (program : List UInt8) :
    Outcome OperationError Answer :=
  let attempt := machine.processor.load program
  { machine.settle attempt fun _ => .nothing with
    events := attempt.publish [.stored program.length] }

/-- Carry out an operation. -/
def apply (machine : Machine) (operation : Operation) :
    Outcome OperationError Answer :=
  match operation with
  | .step => silent machine.step
  | .frame => silent machine.frame
  | .execute opcode => silent (machine.executeWord opcode)
  | .nextWord => machine.answer (.number machine.processor.nextWord)
  | .reset => silent machine.reset
  | .load program => silent (machine.load program)
  | .loadFile files path =>
      match files.read path with
      | .ok program => silent (machine.load program)
      | .error reason => machine.refuse (.file reason)
  | .reportKey code pressed =>
      match KeyCode.ofDatum code with
      | .ok code => machine.reportCode code pressed
      | .error reason => machine.refuse (.keyCode reason)
  | .isWaiting => machine.answer (.flag machine.isWaiting)
  | .setSpeed value =>
      match speedOf value with
      | .ok speed => answer { machine with speed := speed } .nothing
      | .error reason => machine.refuse (.speed reason)
  | .resetProcessor => machine.become machine.processor.reset .nothing
  | .loadMemory program => machine.loadMemory program
  | .read address => machine.answer (.number (machine.processor.read address))
  | .write address value =>
      machine.become (machine.processor.write address value) .nothing
  | .readRange address length =>
      machine.answer (.bytes (machine.processor.readRange address length))
  | .push address =>
      machine.settle (machine.processor.push address) fun _ => .nothing
  | .pop => machine.settle machine.processor.pop .number
  | .draw sprite x y =>
      let drawing := machine.screen.draw sprite x y
      ⟨{ machine with screen := drawing.screen },
        drawing.changes.map .pixel, .ok (.flag drawing.erased)⟩
  | .clearScreen => silent machine.clearScreen
  | .isLit x y =>
      machine.answer (.number (if machine.screen.isLit x y then 1 else 0))
  | .clean =>
      answer { machine with screen := { machine.screen with dirty := false } }
        .nothing

end Machine

end Chip8

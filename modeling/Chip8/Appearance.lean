import Chip8.Notice
import Chip8.Operation

/-!
# How registers and timers are shown

A register that takes the code of a key takes it as it was given, so one and
zero may be shown as truth values.  The machine does not tell the two apart;
an appearance does, and is kept up to date beside the machine:

* copies of a truth value, also into and out of timers, are truth values;
* so are the results of `or`, `and` and `xor` on two of them;
* whatever else is put into a register or timer is a plain number;
* a timer that counts down from true is a plain zero.
-/

namespace Chip8

/-- The truth values among the contents of registers and timers. -/
structure Appearance where
  registers : Vector (Option Bool) 16
  delayTimer : Option Bool
  soundTimer : Option Bool
  deriving DecidableEq, Repr

namespace Appearance

/-- Nothing but plain numbers. -/
def plain : Appearance := ⟨Vector.replicate 16 none, none, none⟩

/-- The truth value in a register, if there is one. -/
def register (appearance : Appearance) (number : Register) : Option Bool :=
  appearance.registers.get number

/-- Put a truth value or a plain number into a register. -/
def setRegister (appearance : Appearance) (number : Register)
    (truth : Option Bool) : Appearance :=
  { appearance with
    registers := appearance.registers.setIfInBounds number.val truth }

/-- The result of an operation on truth values: a plain number unless both are
truth values. -/
def combine (operation : Bool → Bool → Bool) :
    Option Bool → Option Bool → Option Bool
  | some left, some right => some (operation left right)
  | _, _ => none

/-! ## Instructions -/

/-- After a register-to-register operation. -/
def afterArithmetic (appearance : Appearance) (operation : Alu)
    (x y : Register) : Appearance :=
  let left := appearance.register x
  let right := appearance.register y
  match operation with
  | .copy => appearance.setRegister x right
  | .or => appearance.setRegister x (combine or left right)
  | .and => appearance.setRegister x (combine and left right)
  | .xor => appearance.setRegister x (combine xor left right)
  | _ =>
      (appearance.setRegister Processor.flagRegister none).setRegister x none

/-- After an instruction. -/
def afterInstruction (appearance : Appearance) (instruction : Instruction) :
    Appearance :=
  match instruction with
  | .set x _ => appearance.setRegister x none
  | .increase x _ => appearance.setRegister x none
  | .arithmetic operation x y => appearance.afterArithmetic operation x y
  | .random x _ => appearance.setRegister x none
  | .draw _ _ _ => appearance.setRegister Processor.flagRegister none
  | .readDelay x => appearance.setRegister x appearance.delayTimer
  | .setDelay x => { appearance with delayTimer := appearance.register x }
  | .setSound x => { appearance with soundTimer := appearance.register x }
  | .restore x =>
      (Processor.registersThrough x).foldl
        (fun current register => current.setRegister register none) appearance
  | _ => appearance

/-! ## Events and notices -/

/-- A truth value in a timer after it counted down: false stays. -/
def countedDown : Option Bool → Option Bool
  | some false => some false
  | _ => none

/-- After an event of the machine. -/
def afterEvent (appearance : Appearance) (event : Event) : Appearance :=
  match event with
  | .executing _ word => appearance.afterInstruction (.decode word)
  | .countedDown =>
      { appearance with
        delayTimer := countedDown appearance.delayTimer
        soundTimer := countedDown appearance.soundTimer }
  | .resumed write => appearance.setRegister write.register none
  | .wasReset => plain
  | _ => appearance

/-- After a code answered a key wait. -/
def afterAnswer (appearance : Appearance) (register : Register)
    (code : KeyCode) : Appearance :=
  match code with
  | .truth value => appearance.setRegister register (some value)
  | _ => appearance.setRegister register none

/-- After a notice. -/
def afterNotice (appearance : Appearance) (notice : Notice) : Appearance :=
  match notice with
  | .machine event => appearance.afterEvent event
  | .answered register code => appearance.afterAnswer register code
  | _ => appearance

/-- After an operation on the machine. -/
def afterOperation (appearance : Appearance) (operation : Operation)
    (outcome : Outcome OperationError Answer) : Appearance :=
  let told := outcome.events.foldl afterEvent appearance
  match operation, outcome.result with
  | .execute opcode, _ => told.afterInstruction (.decode opcode)
  | .resetProcessor, _ => plain
  | .reportKey _ _, .ok (.write register code) => told.afterAnswer register code
  | _, _ => told

/-! ## What is shown -/

/-- A number, or the truth value that stands for it. -/
def shown (number : Nat) (truth : Option Bool) : Datum :=
  match truth with
  | some value => .boolean value
  | none => .integer number

/-- The registers of a processor as they are shown. -/
def shownRegisters (appearance : Appearance) (processor : Processor) :
    List Datum :=
  (List.finRange 16).map fun number =>
    shown (processor.register number) (appearance.register number)

/-- The delay timer of a processor as it is shown. -/
def shownDelay (appearance : Appearance) (processor : Processor) : Datum :=
  shown processor.delayTimer appearance.delayTimer

/-- The sound timer of a processor as it is shown. -/
def shownSound (appearance : Appearance) (processor : Processor) : Datum :=
  shown processor.soundTimer appearance.soundTimer

end Appearance

end Chip8

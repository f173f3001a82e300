import Chip8.Instruction

/-!
# What instructions do to the processor

`Processor.execute` gives the processor after an instruction, completed or not:

* a call and a return move an address to and from the return stack, and are the
  only instructions that can fail;
* skips move the program counter past one more word;
* a register-to-register operation writes its flag before its result;
* transfers between registers and memory leave the index where it is.

Drawing, clearing and drawing random bytes need more than the processor and
leave it as it is here.
-/

namespace Chip8

/-- The result of an operation on the contents of two registers, and the flag
it leaves, if it leaves one. -/
def Alu.evaluate (operation : Alu) (a b : Nat) : Nat × Option Nat :=
  match operation with
  | .copy => (b, none)
  | .or => (a ||| b, none)
  | .and => (a &&& b, none)
  | .xor => (a ^^^ b, none)
  | .add => ((a + b) % 256, some (if a + b > 255 then 1 else 0))
  | .subtract =>
      ((((a : Int) - b) % 256).toNat, some (if a ≥ b then 1 else 0))
  | .shiftRight => (a / 2, some (a % 2))
  | .subtractFrom =>
      ((((b : Int) - a) % 256).toNat, some (if b ≥ a then 1 else 0))
  | .shiftLeft => (a * 2 % 256, some (a / 128 % 2))

namespace Processor

/-! ## The program counter -/

/-- Move the program counter past one word. -/
def advance (processor : Processor) : Processor :=
  { processor with pc := (processor.pc + 2) % 0x10000 }

/-- Skip one word if a condition holds. -/
def skipIf (processor : Processor) (condition : Bool) : Processor :=
  if condition then processor.advance else processor

/-- Continue at an address. -/
def jump (processor : Processor) (target : Int) : Processor :=
  { processor with pc := target }

/-- Remember where to return to, and continue at an address. -/
def call (processor : Processor) (target : Int) : Attempt Unit :=
  (processor.push processor.pc).andThen fun pushed _ =>
    (pushed.jump target).done

/-- Continue at the latest address on the return stack. -/
def ret (processor : Processor) : Attempt Unit :=
  processor.pop.andThen fun popped address => (popped.jump address).done

/-! ## Registers -/

/-- The register that receives flags. -/
def flagRegister : Register := 15

/-- Carry out a register-to-register operation.  The flag is written first, so
a result in the flag register replaces it. -/
def operate (processor : Processor) (operation : Alu) (x y : Register) :
    Processor :=
  match operation.evaluate (processor.register x) (processor.register y) with
  | (result, none) => processor.setRegister x result
  | (result, some flag) =>
      (processor.setRegister flagRegister flag).setRegister x result

/-- The registers from `V0` up to and including one. -/
def registersThrough (last : Register) : List Register :=
  (List.finRange 16).filter fun register => register ≤ last

/-- Store the registers up to `last` at the index and the addresses after
it. -/
def storeThrough (processor : Processor) (last : Register) : Processor :=
  (registersThrough last).foldl
    (fun current register =>
      current.write (current.index + register.val) (current.register register))
    processor

/-- Fill the registers up to `last` from the index and the addresses after
it. -/
def restoreThrough (processor : Processor) (last : Register) : Processor :=
  (registersThrough last).foldl
    (fun current register =>
      current.setRegister register
        (current.read (current.index + register.val)))
    processor

/-- Store the three decimal digits of a number at the index and the two
addresses after it. -/
def storeDecimal (processor : Processor) (value : Nat) : Processor :=
  ((processor.write processor.index ↑(value / 100)).write
    (processor.index + 1) ↑(value / 10 % 10)).write
      (processor.index + 2) ↑(value % 10)

/-! ## Instructions -/

/-- Carry out an instruction.  Those that concern the picture or random bytes
leave the processor alone. -/
def execute (processor : Processor) (instruction : Instruction) :
    Attempt Unit :=
  let v := processor.register
  match instruction with
  | .ignored => processor.done
  | .clearScreen => processor.done
  | .ret => processor.ret
  | .jump target => (processor.jump target).done
  | .call target => processor.call target
  | .skipEqual x byte => (processor.skipIf (v x = byte)).done
  | .skipUnequal x byte => (processor.skipIf (v x ≠ byte)).done
  | .skipSame x y => (processor.skipIf (v x = v y)).done
  | .set x byte => (processor.setRegister x byte).done
  | .increase x byte => (processor.setRegister x ((v x + byte) % 256)).done
  | .arithmetic operation x y => (processor.operate operation x y).done
  | .skipDifferent x y => (processor.skipIf (v x ≠ v y)).done
  | .setIndex target => { processor with index := target }.done
  | .jumpFrom base => (processor.jump ↑(base + v 0)).done
  | .random _ _ => processor.done
  | .draw _ _ _ => processor.done
  | .skipPressed x => (processor.skipIf (processor.isPressed (v x))).done
  | .skipReleased x => (processor.skipIf (!processor.isPressed (v x))).done
  | .readDelay x => (processor.setRegister x processor.delayTimer).done
  | .awaitKey x => { processor with waiting := some x }.done
  | .setDelay x => { processor with delayTimer := v x }.done
  | .setSound x => { processor with soundTimer := v x }.done
  | .increaseIndex x =>
      { processor with index := (processor.index + v x) % 0x10000 }.done
  | .glyph x => { processor with index := ↑(v x * glyphHeight) }.done
  | .decimal x => (processor.storeDecimal (v x)).done
  | .store x => (processor.storeThrough x).done
  | .restore x => (processor.restoreThrough x).done

end Processor

end Chip8

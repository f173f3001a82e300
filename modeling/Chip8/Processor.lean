import Chip8.Fault

/-!
# Registers, memory, return stack and keys

The processor holds everything a program can change except the picture:

* 4096 memory cells, with the font glyphs at address 0 and programs at 0x200;
* sixteen registers, an index register and a program counter;
* a return stack of sixteen addresses and two timers;
* the pressed status of sixteen keys, and the register a key wait will fill.

Addresses are integers and name memory cells modulo 4096, so no address is
out of range.  Positions in the fixed tables carry their bounds in their
types; the numbers held there are plain, and the operations keep them small.
-/

namespace Chip8

/-- The number of one of the registers `V0` to `VF`. -/
abbrev Register := Fin 16

/-- The number of one of the sixteen keypad keys. -/
abbrev Key := Fin 16

/-- Numerals name registers and keys. -/
instance sixteen_neZero : @NeZero Nat Zero.ofOfNat0 16 :=
  ⟨Nat.succ_ne_zero 15⟩

/-- Numerals name depths of the return stack. -/
instance seventeen_neZero : @NeZero Nat Zero.ofOfNat0 17 :=
  ⟨Nat.succ_ne_zero 16⟩

/-- The keypad key with an integer as its number. -/
def keyOfInt? (code : Int) : Option Key :=
  if known : 0 ≤ code ∧ code < 16 then
    some ⟨code.toNat, by omega⟩
  else
    none

/-- The number of memory cells. -/
def memorySize : Nat := 4096

/-- The address that programs are loaded at and start from. -/
def programStart : Nat := 0x200

/-- The longest program that fits between its start and the end of memory. -/
def programCapacity : Nat := memorySize - programStart

/-- The number of bytes of one font glyph. -/
def glyphHeight : Nat := 5

/-- The glyphs of the sixteen hexadecimal digits, five rows each. -/
def font : List UInt8 := [
  0xF0, 0x90, 0x90, 0x90, 0xF0,
  0x20, 0x60, 0x20, 0x20, 0x70,
  0xF0, 0x10, 0xF0, 0x80, 0xF0,
  0xF0, 0x10, 0xF0, 0x10, 0xF0,
  0x90, 0x90, 0xF0, 0x10, 0x10,
  0xF0, 0x80, 0xF0, 0x10, 0xF0,
  0xF0, 0x80, 0xF0, 0x90, 0xF0,
  0xF0, 0x10, 0x20, 0x40, 0x40,
  0xF0, 0x90, 0xF0, 0x90, 0xF0,
  0xF0, 0x90, 0xF0, 0x10, 0xF0,
  0xF0, 0x90, 0xF0, 0x90, 0x90,
  0xE0, 0x90, 0xE0, 0x90, 0xE0,
  0xF0, 0x80, 0x80, 0x80, 0xF0,
  0xE0, 0x90, 0x90, 0x90, 0xE0,
  0xF0, 0x80, 0xF0, 0x80, 0xF0,
  0xF0, 0x80, 0xF0, 0x80, 0x80]

/-! ## Memory -/

/-- The contents of memory, one number for each cell. -/
abbrev Memory := Vector Nat memorySize

/-- The cell that an address names: addresses count modulo the memory size. -/
def cell (address : Int) : Fin memorySize :=
  ⟨(address % memorySize).toNat, by unfold memorySize; omega⟩

/-- Two addresses name one cell exactly if they are congruent. -/
theorem cell_eq_cell_iff (left right : Int) :
    cell left = cell right ↔ left % memorySize = right % memorySize := by
  simp only [cell, Fin.mk.injEq, memorySize]
  omega

namespace Memory

/-- The first of some bytes that fit lies within memory. -/
theorem lt_of_fits
    {start : Nat} {byte : UInt8} {rest : List UInt8}
    (fits : (byte :: rest).length ≤ memorySize - start) :
    start < memorySize := by
  rw [List.length_cons] at fits
  omega

/-- Behind the first of some bytes that fit there is room for the others. -/
theorem fits_rest
    {start : Nat} {byte : UInt8} {rest : List UInt8}
    (fits : (byte :: rest).length ≤ memorySize - start) :
    rest.length ≤ memorySize - (start + 1) := by
  rw [List.length_cons] at fits
  omega

/-- Memory with bytes, which have to fit, laid over the cells from `start`
on. -/
def overlay (memory : Memory) (start : Nat) :
    (bytes : List UInt8) → bytes.length ≤ memorySize - start → Memory
  | [], _ => memory
  | byte :: rest, fits =>
      overlay (memory.set start byte.toNat (lt_of_fits fits)) (start + 1) rest
        (fits_rest fits)

/-- A cell holds the byte that was laid over it, or what it held before. -/
theorem getElem_overlay
    (memory : Memory) (start : Nat) (bytes : List UInt8)
    (fits : bytes.length ≤ memorySize - start)
    (place : Nat) (bound : place < memorySize) :
    (memory.overlay start bytes fits)[place] =
      if place < start then memory[place]
      else (bytes[place - start]?.map UInt8.toNat).getD memory[place] := by
  induction bytes generalizing memory start with
  | nil =>
      simp [overlay]
  | cons byte rest inductionHypothesis =>
      rw [overlay, inductionHypothesis]
      rcases Nat.lt_trichotomy place start with before | same | after
      · have notSame : start ≠ place := by omega
        simp [before, Nat.lt_succ_of_lt before, notSame]
      · simp [same]
      · have notBefore : ¬ place < start := by omega
        have notNext : ¬ place < start + 1 := by omega
        have notSame : start ≠ place := by omega
        obtain ⟨distance, equality⟩ :
            ∃ distance, place = start + 1 + distance :=
          ⟨place - (start + 1), by omega⟩
        have shift : place - start = distance + 1 := by omega
        have shiftNext : place - (start + 1) = distance := by omega
        simp [notBefore, notNext, notSame, shift, shiftNext]

/-- Memory before any program is loaded: the font and zeros. -/
def fresh : Memory :=
  overlay (Vector.replicate memorySize 0) 0 font (by decide)

end Memory

/-! ## The processor -/

/-- Registers, memory, return stack, timers and keys. -/
structure Processor where
  memory : Memory
  registers : Vector Nat 16
  index : Int
  pc : Int
  sp : Fin 17
  stack : Vector Int 16
  delayTimer : Nat
  soundTimer : Nat
  keys : Vector Bool 16
  waiting : Option Register
  deriving DecidableEq, Repr

/-- A register filled with the number of the key that answered a key wait. -/
structure RegisterWrite where
  register : Register
  value : Key
  deriving DecidableEq, Repr

/-- What an operation that may fail leaves behind: its result, and the processor
as it is by then, also after a fault. -/
structure Attempt (α : Type) where
  processor : Processor
  result : Except Fault α

/-- Go on from the processor left behind, unless there was a fault. -/
def Attempt.andThen
    {α β : Type} (attempt : Attempt α) (next : Processor → α → Attempt β) :
    Attempt β :=
  match attempt.result with
  | .ok value => next attempt.processor value
  | .error fault => ⟨attempt.processor, .error fault⟩

namespace Processor

/-- The processor left behind without a fault. -/
def done (processor : Processor) : Attempt Unit :=
  ⟨processor, .ok ()⟩

/-- A processor about to run a program from the beginning: all but its memory
is zero, and the program counter is at the program start. -/
def starting (memory : Memory) : Processor where
  memory := memory
  registers := Vector.replicate 16 0
  index := 0
  pc := programStart
  sp := 0
  stack := Vector.replicate 16 0
  delayTimer := 0
  soundTimer := 0
  keys := Vector.replicate 16 false
  waiting := none

/-- The processor of a machine that was just switched on. -/
def fresh : Processor :=
  starting Memory.fresh

/-- The processor as switched on, but with its memory kept. -/
def reset (processor : Processor) : Processor :=
  starting processor.memory

/-- Whether execution is held until a key is pressed. -/
def isWaiting (processor : Processor) : Bool :=
  processor.waiting.isSome

/-- The number held in a register. -/
def register (processor : Processor) (number : Register) : Nat :=
  processor.registers[number]

/-- The processor with a number put into a register. -/
def setRegister (processor : Processor) (number : Register) (value : Nat) :
    Processor :=
  { processor with
    registers := processor.registers.set number.val value number.isLt }

/-- Only the register that is written changes. -/
theorem register_setRegister
    (processor : Processor) (written tested : Register) (value : Nat) :
    (processor.setRegister written value).register tested =
      if written = tested then value else processor.register tested := by
  simp only [register, setRegister, Fin.getElem_fin, Vector.getElem_set,
    Fin.ext_iff]

/-! ## Memory access -/

/-- The byte at an address. -/
def read (processor : Processor) (address : Int) : Nat :=
  processor.memory[cell address]

/-- The processor with the low eight bits of `value` stored at an address. -/
def write (processor : Processor) (address value : Int) : Processor :=
  { processor with
    memory := processor.memory.set (cell address).val (value % 256).toNat
      (cell address).isLt }

/-- Only the cell that is written changes. -/
theorem read_write
    (processor : Processor) (written tested value : Int) :
    (processor.write written value).read tested =
      if cell written = cell tested then (value % 256).toNat
      else processor.read tested := by
  simp only [read, write, Fin.getElem_fin, Vector.getElem_set, Fin.ext_iff]

/-- The bytes at `length` consecutive addresses, none if `length` is not
positive. -/
def readRange (processor : Processor) (address length : Int) : List Nat :=
  (List.range length.toNat).map fun offset : Nat =>
    processor.read (address + offset)

@[simp]
theorem length_readRange (processor : Processor) (address length : Int) :
    (processor.readRange address length).length = length.toNat := by
  simp only [readRange, List.length_map, List.length_range]

/-- The two-byte word at the program counter, high byte first. -/
def nextWord (processor : Processor) : Nat :=
  processor.read processor.pc * 256 + processor.read (processor.pc + 1)

/-- The processor with a program put at the program start, if it fits. -/
def load (processor : Processor) (program : List UInt8) : Attempt Unit :=
  if fits : program.length ≤ programCapacity then
    { processor with
      memory := processor.memory.overlay programStart program fits }.done
  else
    ⟨processor, .error (.programTooLarge program.length programCapacity)⟩

/-! ## The return stack -/

/-- Put an address on the return stack. -/
def push (processor : Processor) (address : Int) : Attempt Unit :=
  if room : processor.sp.val < 16 then
    { processor with
      stack := processor.stack.set processor.sp.val address room
      sp := ⟨processor.sp.val + 1, by omega⟩ }.done
  else
    ⟨processor, .error .stackOverflow⟩

/-- Take the latest address from the return stack.  Its entry keeps the
number. -/
def pop (processor : Processor) : Attempt Int :=
  if processor.sp.val = 0 then
    ⟨processor, .error .stackUnderflow⟩
  else
    ⟨{ processor with sp := ⟨processor.sp.val - 1, by omega⟩ },
      .ok processor.stack[processor.sp.val - 1]⟩

/-! ## Keys -/

/-- Whether the key with this number is down; numbers beyond the keypad are
never down. -/
def isPressed (processor : Processor) (number : Nat) : Bool :=
  if known : number < 16 then processor.keys[number] else false

/-- Record that a key went down or up.  A report that repeats the recorded
status changes nothing.  A press that arrives during a key wait fills the
waiting register with the number of the key and ends the wait. -/
def reportKey (processor : Processor) (key : Key) (pressed : Bool) :
    Processor × Option RegisterWrite :=
  if processor.keys[key] = pressed then
    (processor, none)
  else
    let keys := processor.keys.set key.val pressed key.isLt
    let noted := { processor with keys := keys }
    match noted.waiting, pressed with
    | some register, true =>
        ({ noted.setRegister register key.val with waiting := none },
          some ⟨register, key⟩)
    | _, _ => (noted, none)

end Processor

end Chip8

import Chip8.Proofs.Footprint

/-!
# Numbers in range

Registers, timers and memory hold bytes; the index, the program counter and the
return stack hold words of sixteen bits.  The numbers of registers, keys and
cells, and the depth of the return stack, are in range by their types.

* `Instruction.Bounded` bounds the operands of an instruction, and every decoded
  instruction is bounded (`bounded_decode`);
* `Processor.WellFormed` says that all numbers are in range;
* `WellFormed.execute` says that bounded instructions keep them there.
-/

namespace Chip8

/-! ## Operands -/

/-- Targets have twelve bits and bytes eight. -/
def Instruction.Bounded : Instruction → Prop
  | .jump target | .call target | .setIndex target | .jumpFrom target =>
      target < 0x1000
  | .set _ byte => byte < 0x100
  | _ => True

namespace Instruction

theorem bounded_decodeMiscellaneous (x : Register) (byte : Nat) :
    (decodeMiscellaneous x byte).Bounded := by
  unfold decodeMiscellaneous
  split <;> trivial

theorem bounded_decodeWord (word : Nat) : (decodeWord word).Bounded := by
  have target : word % 0x1000 < 0x1000 := Nat.mod_lt word (by decide)
  have byte : word % 0x100 < 0x100 := Nat.mod_lt word (by decide)
  simp only [decodeWord]
  split
  case h_2 | h_3 | h_11 | h_12 => exact target
  case h_7 => exact byte
  case h_16 => exact bounded_decodeMiscellaneous _ _
  case h_1 | h_9 | h_15 => repeat' (first | trivial | split)
  all_goals trivial

/-- The operands of a decoded instruction are in range, whatever number it was
decoded from. -/
theorem bounded_decode (opcode : Int) : (decode opcode).Bounded := by
  cases opcode with
  | ofNat word => exact bounded_decodeWord word
  | negSucc _ => trivial

end Instruction

/-! ## Results of operations -/

/-- A number of sixteen bits. -/
def IsWord (number : Int) : Prop :=
  0 ≤ number ∧ number < 0x10000

theorem isWord_natCast {number : Nat} (small : number < 0x10000) :
    IsWord number := by
  unfold IsWord
  omega

theorem isWord_emod (number : Int) : IsWord (number % 0x10000) := by
  unfold IsWord
  omega

/-- An operation on bytes gives a byte, and a flag of zero or one. -/
theorem Alu.evaluate_lt
    (operation : Alu) {a b : Nat} (left : a < 256) (right : b < 256) :
    (operation.evaluate a b).1 < 256 ∧
      ∀ flag ∈ (operation.evaluate a b).2, flag ≤ 1 := by
  have bits : (256 : Nat) = 2 ^ 8 := by decide
  cases operation with
  | copy => exact ⟨right, by simp [evaluate]⟩
  | or =>
      rw [bits] at left right ⊢
      exact ⟨Nat.or_lt_two_pow left right, by simp [evaluate]⟩
  | and =>
      exact ⟨Nat.lt_of_le_of_lt Nat.and_le_left left, by simp [evaluate]⟩
  | xor =>
      rw [bits] at left right ⊢
      exact ⟨Nat.xor_lt_two_pow left right, by simp [evaluate]⟩
  | add | subtract | subtractFrom =>
      simp only [evaluate, Option.mem_some_iff, forall_eq']
      constructor
      · omega
      · split <;> decide
  | shiftRight | shiftLeft =>
      simp only [evaluate, Option.mem_some_iff, forall_eq']
      omega

/-! ## Memory -/

/-- Every cell holds a byte. -/
def Memory.HoldsBytes (memory : Memory) : Prop :=
  ∀ place : Fin memorySize, memory[place] < 256

namespace Memory.HoldsBytes

theorem overlay
    {memory : Memory} (bytes : memory.HoldsBytes)
    {start : Nat} {program : List UInt8}
    (fits : program.length ≤ memorySize - start) :
    (memory.overlay start program fits).HoldsBytes := by
  intro place
  rw [Fin.getElem_fin, getElem_overlay]
  split
  · exact bytes place
  · cases program[place.val - start]? with
    | none => exact bytes place
    | some byte => exact byte.toNat_lt

theorem fresh : Memory.fresh.HoldsBytes := by
  apply overlay
  intro place
  simp

end Memory.HoldsBytes

/-! ## The processor -/

/-- All numbers of a processor are in range. -/
structure Processor.WellFormed (processor : Processor) : Prop where
  memory : processor.memory.HoldsBytes
  registers : ∀ number : Register, processor.register number < 256
  index : IsWord processor.index
  pc : IsWord processor.pc
  stack : ∀ place : Fin 16, IsWord (processor.stack.get place)
  delayTimer : processor.delayTimer < 256
  soundTimer : processor.soundTimer < 256

namespace Processor.WellFormed

variable {processor after : Processor}

theorem starting
    {memory : Memory} (bytes : memory.HoldsBytes) :
    (Processor.starting memory).WellFormed where
  memory := bytes
  registers := by simp [Processor.starting, Processor.register]
  index := isWord_natCast (Nat.zero_lt_succ _)
  pc := isWord_natCast (by decide)
  stack := by
    intro place
    change IsWord (Vector.replicate 16 0)[place.val]
    simp [IsWord]
  delayTimer := Nat.zero_lt_succ _
  soundTimer := Nat.zero_lt_succ _

theorem read_lt (wellFormed : processor.WellFormed) (address : Int) :
    processor.read address < 256 :=
  wellFormed.memory (cell address)

theorem setRegister
    (wellFormed : processor.WellFormed) (number : Register) {value : Nat}
    (byte : value < 256) :
    (processor.setRegister number value).WellFormed := by
  refine { wellFormed with registers := ?_ }
  intro tested
  rw [register_setRegister]
  split
  · exact byte
  · exact wellFormed.registers tested

theorem write
    (wellFormed : processor.WellFormed) (address value : Int) :
    (processor.write address value).WellFormed := by
  refine { wellFormed with memory := ?_ }
  intro place
  simp only [Processor.write, Fin.getElem_fin, Vector.getElem_set]
  split
  · omega
  · exact wellFormed.memory place

theorem jump
    (wellFormed : processor.WellFormed) {target : Int} (word : IsWord target) :
    (processor.jump target).WellFormed :=
  { wellFormed with pc := word }

theorem advance (wellFormed : processor.WellFormed) :
    processor.advance.WellFormed :=
  { wellFormed with pc := isWord_emod _ }

theorem skipIf (wellFormed : processor.WellFormed) (condition : Bool) :
    (processor.skipIf condition).WellFormed := by
  cases condition with
  | false => exact wellFormed
  | true => exact wellFormed.advance

theorem setIndex
    (wellFormed : processor.WellFormed) {index : Int} (word : IsWord index) :
    { processor with index := index }.WellFormed :=
  { wellFormed with index := word }

theorem push
    (wellFormed : processor.WellFormed) {address : Int}
    (word : IsWord address) :
    (processor.push address).processor.WellFormed := by
  rcases processor.push_cases address with ⟨top, -, pushes⟩ | ⟨-, fails⟩
  · rw [pushes]
    refine { wellFormed with stack := ?_ }
    intro place
    change IsWord ((processor.stack.setIfInBounds top.val address).get place)
    rw [get_setIfInBounds]
    split
    · exact word
    · exact wellFormed.stack place
  · rw [fails]
    exact wellFormed

theorem pop (wellFormed : processor.WellFormed) :
    processor.pop.processor.WellFormed := by
  rcases processor.pop_cases with ⟨top, -, pops⟩ | ⟨-, fails⟩
  · rw [pops]
    exact { wellFormed with }
  · rw [fails]
    exact wellFormed

theorem call
    (wellFormed : processor.WellFormed) {target : Int} (word : IsWord target) :
    (processor.call target).processor.WellFormed := by
  have pushed := wellFormed.push wellFormed.pc
  unfold Processor.call Attempt.andThen
  split
  · exact pushed.jump word
  · exact pushed

theorem ret (wellFormed : processor.WellFormed) :
    processor.ret.processor.WellFormed := by
  rcases processor.ret_cases with ⟨top, -, returns⟩ | ⟨-, fails⟩
  · rw [returns]
    exact { wellFormed with pc := wellFormed.stack top }
  · rw [fails]
    exact wellFormed

theorem operate
    (wellFormed : processor.WellFormed) (operation : Alu) (x y : Register) :
    (processor.operate operation x y).WellFormed := by
  obtain ⟨result, flags⟩ :=
    operation.evaluate_lt (wellFormed.registers x) (wellFormed.registers y)
  unfold Processor.operate
  split
  · next value equality =>
      rw [equality] at result
      exact wellFormed.setRegister x result
  · next value flag equality =>
      rw [equality] at result flags
      have small : flag ≤ 1 := flags flag rfl
      exact (wellFormed.setRegister _ (by omega)).setRegister x result

theorem storeDecimal (wellFormed : processor.WellFormed) (value : Nat) :
    (processor.storeDecimal value).WellFormed :=
  ((wellFormed.write _ _).write _ _).write _ _

theorem storeThrough (wellFormed : processor.WellFormed) (last : Register) :
    (processor.storeThrough last).WellFormed := by
  unfold Processor.storeThrough
  refine List.foldlRecOn (motive := Processor.WellFormed) _ _ wellFormed ?_
  exact fun current kept register _ => kept.write _ _

theorem restoreThrough (wellFormed : processor.WellFormed) (last : Register) :
    (processor.restoreThrough last).WellFormed := by
  unfold Processor.restoreThrough
  refine List.foldlRecOn (motive := Processor.WellFormed) _ _ wellFormed ?_
  exact fun current kept register _ =>
    kept.setRegister register (kept.read_lt _)

/-- Bounded instructions keep all numbers in range.  The unreduced results, such
as the target of a jump from a base, are in range because their summands are
small. -/
theorem execute
    (wellFormed : processor.WellFormed)
    {instruction : Instruction} (bounded : instruction.Bounded) :
    (processor.execute instruction).processor.WellFormed := by
  have byte := wellFormed.registers
  have short {target : Nat} (bound : target < 0x1000) : target < 0x10000 :=
    Nat.lt_trans bound (by decide)
  cases instruction with
  | call target =>
      exact wellFormed.call (isWord_natCast (short bounded))
  | ret => exact wellFormed.ret
  | ignored | clearScreen | random _ _ | draw _ _ _ | awaitKey _ =>
      exact { wellFormed with }
  | jump target =>
      exact wellFormed.jump (isWord_natCast (short bounded))
  | jumpFrom base =>
      have near : base < 0x1000 := bounded
      have small := byte 0
      exact wellFormed.jump (isWord_natCast (by omega))
  | skipEqual _ _ | skipUnequal _ _ | skipSame _ _ | skipDifferent _ _
  | skipPressed _ | skipReleased _ =>
      exact wellFormed.skipIf _
  | set x value =>
      exact wellFormed.setRegister x bounded
  | increase x value =>
      exact wellFormed.setRegister x (Nat.mod_lt _ (by decide))
  | readDelay x =>
      exact wellFormed.setRegister x wellFormed.delayTimer
  | arithmetic operation x y =>
      exact wellFormed.operate operation x y
  | setIndex target =>
      exact wellFormed.setIndex (isWord_natCast (short bounded))
  | increaseIndex x =>
      exact wellFormed.setIndex (isWord_emod _)
  | glyph x =>
      have small := byte x
      exact wellFormed.setIndex
        (isWord_natCast (by unfold glyphHeight; omega))
  | setDelay x =>
      exact { wellFormed with delayTimer := byte x }
  | setSound x =>
      exact { wellFormed with soundTimer := byte x }
  | decimal x =>
      exact wellFormed.storeDecimal _
  | store last =>
      exact wellFormed.storeThrough last
  | restore last =>
      exact wellFormed.restoreThrough last

/-- A key that answers a wait puts a small number into a register. -/
theorem reportKey
    (wellFormed : processor.WellFormed) (key : Key) (pressed : Bool) :
    (processor.reportKey key pressed).1.WellFormed := by
  unfold Processor.reportKey
  split
  · exact wellFormed
  · simp only
    split
    · have noted :
          { processor with
            keys := processor.keys.set key.val true key.isLt }.WellFormed :=
        { wellFormed with }
      have small : key.val < 256 := by omega
      exact { noted.setRegister _ small with }
    · exact { wellFormed with }

theorem load (wellFormed : processor.WellFormed) (program : List UInt8) :
    (processor.load program).processor.WellFormed := by
  unfold Processor.load
  split
  · next fits =>
      exact { wellFormed with memory := wellFormed.memory.overlay fits }
  · exact wellFormed

end Processor.WellFormed

end Chip8

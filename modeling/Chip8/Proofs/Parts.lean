import Chip8.Proofs.Footprint
import Chip8.Proofs.Opcode

/-!
# The parts of a machine that an instruction changes

A machine consists of parts, and every instruction changes a few of them.

* `Instruction.parts` lists the parts that an instruction may change, with
  `Writes` for the registers and `Stores` for the memory cells among them;
* `Footprint` says that an instruction changes nothing else, moves the program
  counter as a skip does if it does not jump, and takes one random byte if it
  takes any;
* `footprint_executeWord` says this of all numbers, with the opcode table.
-/

namespace Chip8

/-! ## Parts -/

/-- The parts of a machine. -/
inductive Part where
  | memory
  | registers
  | index
  | pc
  | returnStack
  | delayTimer
  | soundTimer
  | keys
  | waiting
  | screen
  | random
  | speed
  deriving DecidableEq, Repr

namespace Part

/-- What a part of a machine holds. -/
def Content : Part → Type
  | .memory => Memory
  | .registers => Vector Nat 16
  | .index | .pc => Int
  | .returnStack => Fin 17 × Vector Int 16
  | .delayTimer | .soundTimer | .speed => Nat
  | .keys => Vector Bool 16
  | .waiting => Option Register
  | .screen => Screen
  | .random => RandomSource

/-- The content of a part of a machine. -/
def content (machine : Machine) : (part : Part) → part.Content
  | .memory => machine.processor.memory
  | .registers => machine.processor.registers
  | .index => machine.processor.index
  | .pc => machine.processor.pc
  | .returnStack => (machine.processor.sp, machine.processor.stack)
  | .delayTimer => machine.processor.delayTimer
  | .soundTimer => machine.processor.soundTimer
  | .keys => machine.processor.keys
  | .waiting => machine.processor.waiting
  | .screen => machine.screen
  | .random => machine.random
  | .speed => machine.speed

end Part

/-- Two machines agree in all parts but some. -/
def Machine.AgreeOff (hidden : List Part) (left right : Machine) : Prop :=
  ∀ part : Part, part ∉ hidden → part.content left = part.content right

/-! ## Tables -/

namespace Instruction

/-- The parts that an instruction may change. -/
def parts : Instruction → List Part
  | .ignored => []
  | .clearScreen => [.screen]
  | .ret | .call _ => [.returnStack, .pc]
  | .jump _ | .jumpFrom _ => [.pc]
  | .skipEqual _ _ | .skipUnequal _ _ | .skipSame _ _ | .skipDifferent _ _ =>
      [.pc]
  | .skipPressed _ | .skipReleased _ => [.pc]
  | .set _ _ | .increase _ _ | .arithmetic _ _ _ => [.registers]
  | .readDelay _ | .restore _ => [.registers]
  | .setIndex _ | .increaseIndex _ | .glyph _ => [.index]
  | .random _ _ => [.registers, .random]
  | .draw _ _ _ => [.registers, .screen]
  | .awaitKey _ => [.waiting]
  | .setDelay _ => [.delayTimer]
  | .setSound _ => [.soundTimer]
  | .decimal _ | .store _ => [.memory]

end Instruction

namespace Processor

variable (processor : Processor)

theorem mem_registersThrough {register last : Register} :
    register ∈ registersThrough last ↔ register ≤ last := by
  simp [registersThrough]

theorem register_setRegister_of_ne
    {written number : Register} (different : number ≠ written) (value : Nat) :
    (processor.setRegister written value).register number =
      processor.register number := by
  rw [register_setRegister, if_neg (Ne.symm different)]

theorem get_write_of_ne
    {address : Int} {place : Fin memorySize} (different : place ≠ cell address)
    (value : Int) :
    (processor.write address value).memory.get place =
      processor.memory.get place := by
  have elsewhere : (cell address).val ≠ place.val := by
    intro same
    exact different (Fin.ext same.symm)
  exact Vector.getElem_set_ne (cell address).isLt place.isLt elsewhere

theorem get_storeThrough_of_ne
    {last : Register} {place : Fin memorySize}
    (different : ∀ offset : Nat, offset ≤ last.val →
      place ≠ cell (processor.index + offset)) :
    (processor.storeThrough last).memory.get place =
      processor.memory.get place := by
  have kept :
      (processor.storeThrough last).index = processor.index ∧
        (processor.storeThrough last).memory.get place =
          processor.memory.get place := by
    unfold storeThrough
    refine List.foldlRecOn
      (motive := fun current : Processor =>
        current.index = processor.index ∧
          current.memory.get place = processor.memory.get place)
      _ _ ⟨rfl, rfl⟩ ?_
    intro current ⟨index, same⟩ register member
    have inside : register.val ≤ last.val := mem_registersThrough.mp member
    refine ⟨index, ?_⟩
    rw [index, get_write_of_ne _ (different register.val inside), same]
  exact kept.2

/-! ## Skips -/

end Processor

namespace Machine

variable (machine : Machine)

/-! ## Instructions -/

/-- An instruction changes the listed parts only. -/
theorem agreeOff_execute (instruction : Instruction) :
    machine.AgreeOff instruction.parts
      (machine.execute instruction).machine := by
  intro part untouched
  cases instruction with
  | call target =>
      simp only [execute, Processor.execute]
      rcases machine.processor.call_cases target with
        ⟨top, -, calls⟩ | ⟨-, fails⟩
      · rw [calls]
        cases part <;> first | rfl | simp [Instruction.parts] at untouched
      · rw [fails]
  | ret =>
      simp only [execute, Processor.execute]
      rcases machine.processor.ret_cases with ⟨top, -, returns⟩ | ⟨-, fails⟩
      · rw [returns]
        cases part <;> first | rfl | simp [Instruction.parts] at untouched
      · rw [fails]
  | arithmetic operation x y =>
      obtain ⟨registers, equality⟩ :=
        machine.processor.exists_operate operation x y
      simp only [execute, Processor.execute, equality]
      cases part <;> first | rfl | simp [Instruction.parts] at untouched
  | restore last =>
      obtain ⟨registers, equality⟩ := machine.processor.exists_restoreThrough last
      simp only [execute, Processor.execute, equality]
      cases part <;> first | rfl | simp [Instruction.parts] at untouched
  | store last =>
      obtain ⟨memory, equality⟩ := machine.processor.exists_storeThrough last
      simp only [execute, Processor.execute, equality]
      cases part <;> first | rfl | simp [Instruction.parts] at untouched
  | skipEqual _ _ | skipUnequal _ _ | skipSame _ _ | skipDifferent _ _
  | skipPressed _ | skipReleased _ =>
      simp only [execute, Processor.execute, Processor.skipIf]
      split
      · cases part <;> first | rfl | simp [Instruction.parts] at untouched
      · rfl
  | _ => cases part <;> first | rfl | simp [Instruction.parts] at untouched

theorem executeWord_of_spells
    {word : Nat} {instruction : Instruction} (spells : Spells word instruction) :
    machine.executeWord word = machine.execute instruction := by
  have decoded : Instruction.decode word = instruction := spells.decodeWord_eq
  rw [executeWord, decoded]

end Machine

end Chip8

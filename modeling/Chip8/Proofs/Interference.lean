import Chip8.Proofs.Parts

/-!
# What a machine cannot see

Two machines that differ in hidden parts stay alike in the others, as long as
they carry out no instruction that reads a hidden part.

* `Instruction.reads` lists the parts that an instruction reads in order to
  change others, or to find out whether it fails;
* `content_execute_congr` and `result_execute_congr` say that nothing else
  matters to what it does;
* `AgreeOff.execute` and `AgreeOff.step` carry it over to machines that agree
  off hidden parts.
-/

namespace Chip8

/-- The parts that an instruction reads in order to change other parts, or to
find out whether it fails.  A random byte of which no bit is kept is not read. -/
def Instruction.reads : Instruction → List Part
  | .ret => [.returnStack]
  | .call _ => [.returnStack, .pc]
  | .jumpFrom _ => [.registers]
  | .skipEqual _ _ | .skipUnequal _ _ | .skipSame _ _ | .skipDifferent _ _ =>
      [.registers]
  | .skipPressed _ | .skipReleased _ => [.registers, .keys]
  | .random _ mask => if mask = 0 then [] else [.random]
  | .draw _ _ _ => [.registers, .memory, .index, .screen]
  | .readDelay _ => [.delayTimer]
  | .setDelay _ | .setSound _ | .increaseIndex _ | .glyph _ => [.registers]
  | .decimal _ | .store _ => [.registers, .index]
  | .restore _ => [.memory, .index]
  | _ => []

/-! ## Processors -/

namespace Processor

variable {left right : Processor}

theorem read_congr (memory : left.memory = right.memory) :
    left.read = right.read := by
  funext address
  simp only [read, memory]

theorem register_congr (registers : left.registers = right.registers) :
    left.register = right.register := by
  funext number
  simp only [register, registers]

theorem registers_setRegister_congr
    (registers : left.registers = right.registers)
    (number : Register) {first second : Nat} (value : first = second) :
    (left.setRegister number first).registers =
      (right.setRegister number second).registers := by
  simp only [setRegister, registers, value]

theorem registers_operate_congr
    (registers : left.registers = right.registers)
    (operation : Alu) (x y : Register) :
    (left.operate operation x y).registers =
      (right.operate operation x y).registers := by
  have contents := register_congr registers
  simp only [operate, contents]
  split
  · exact registers_setRegister_congr registers x rfl
  · apply registers_setRegister_congr _ x rfl
    exact registers_setRegister_congr registers _ rfl

theorem registers_restoreThrough_congr
    (registers : left.registers = right.registers)
    (memory : left.memory = right.memory) (index : left.index = right.index)
    (last : Register) :
    (left.restoreThrough last).registers =
      (right.restoreThrough last).registers := by
  have same := List.foldl_rel
    (r := fun first second : Processor =>
      first.registers = second.registers ∧ first.memory = second.memory ∧
        first.index = second.index)
    (l := registersThrough last) ⟨registers, memory, index⟩
    fun number _ first second ⟨registers, memory, index⟩ => by
      have byte :
          first.read (first.index + number.val) =
            second.read (second.index + number.val) := by
        rw [read_congr memory, index]
      exact ⟨registers_setRegister_congr registers number byte, memory, index⟩
  exact same.1

theorem memory_write_congr
    (memory : left.memory = right.memory)
    {address target value other : Int}
    (addresses : address = target) (values : value = other) :
    (left.write address value).memory =
      (right.write target other).memory := by
  simp only [write, memory, addresses, values]

theorem memory_storeDecimal_congr
    (memory : left.memory = right.memory) (index : left.index = right.index)
    {first second : Nat} (value : first = second) :
    (left.storeDecimal first).memory = (right.storeDecimal second).memory := by
  subst value
  unfold storeDecimal
  rw [index]
  refine memory_write_congr ?_ rfl rfl
  refine memory_write_congr ?_ rfl rfl
  exact memory_write_congr memory rfl rfl

theorem memory_storeThrough_congr
    (memory : left.memory = right.memory)
    (registers : left.registers = right.registers)
    (index : left.index = right.index)
    (last : Register) :
    (left.storeThrough last).memory = (right.storeThrough last).memory := by
  have same := List.foldl_rel
    (r := fun first second : Processor =>
      first.memory = second.memory ∧ first.registers = second.registers ∧
        first.index = second.index)
    (l := registersThrough last) ⟨memory, registers, index⟩
    fun number _ first second ⟨memory, registers, index⟩ => by
      have address : first.index + number.val = second.index + number.val := by
        rw [index]
      have value :
          (first.register number : Int) = second.register number := by
        rw [register_congr registers]
      exact ⟨memory_write_congr memory address value, registers, index⟩
  exact same.1

theorem pc_skipIf_congr
    (pc : left.pc = right.pc) (condition : Bool) :
    (left.skipIf condition).pc = (right.skipIf condition).pc := by
  cases condition with
  | false => exact pc
  | true => exact congrArg (fun pc : Int => (pc + 2) % 0x10000) pc

theorem isPressed_congr (keys : left.keys = right.keys) :
    left.isPressed = right.isPressed := by
  funext number
  simp only [isPressed, keys]

end Processor

/-! ## Calls and returns -/

namespace Machine

theorem execute_call_of_room
    {machine : Machine} {top : Fin 16}
    (room : machine.processor.sp = top.castSucc) (target : Nat) :
    machine.execute (.call target) =
      ⟨{ machine with
          processor := { machine.processor with
            stack :=
              machine.processor.stack.setIfInBounds top.val machine.processor.pc
            sp := top.succ
            pc := target } },
        [], .ok ()⟩ := by
  have depth : machine.processor.sp.val = top.val := congrArg Fin.val room
  simp only [execute, Processor.execute, Processor.call, Processor.push,
    set_eq_setIfInBounds, depth, dif_pos top.isLt]
  rfl

theorem execute_call_of_full
    {machine : Machine} (full : ¬ machine.processor.sp.val < 16)
    (target : Nat) :
    machine.execute (.call target) = ⟨machine, [], .error .stackOverflow⟩ := by
  simp only [execute, Processor.execute, Processor.call, Processor.push,
    dif_neg full]
  rfl

theorem execute_ret_of_used
    {machine : Machine} {top : Fin 16}
    (used : machine.processor.sp = top.succ) :
    machine.execute .ret =
      ⟨{ machine with
          processor := { machine.processor with
            sp := top.castSucc
            pc := machine.processor.stack.get top } },
        [], .ok ()⟩ := by
  have depth : machine.processor.sp.val = top.val + 1 := congrArg Fin.val used
  simp only [execute, Processor.execute, Processor.ret, Processor.pop, depth,
    Nat.succ_ne_zero, if_false]
  rfl

theorem execute_ret_of_empty
    {machine : Machine} (empty : machine.processor.sp.val = 0) :
    machine.execute .ret = ⟨machine, [], .error .stackUnderflow⟩ := by
  simp only [execute, Processor.execute, Processor.ret, Processor.pop, empty,
    if_true]
  rfl

end Machine

/-! ## Instructions -/

namespace Machine

variable {left right : Machine} {instruction : Instruction}

/-- A call depends on the return stack and on the program counter only. -/
theorem execute_call_congr
    (returnStack :
      Part.returnStack.content left = Part.returnStack.content right)
    (pc : Part.pc.content left = Part.pc.content right) (target : Nat) :
    (left.execute (.call target)).result =
        (right.execute (.call target)).result ∧
      Part.returnStack.content (left.execute (.call target)).machine =
        Part.returnStack.content (right.execute (.call target)).machine ∧
      Part.pc.content (left.execute (.call target)).machine =
        Part.pc.content (right.execute (.call target)).machine := by
  obtain ⟨sp, stack⟩ := Prod.mk.inj returnStack
  have counter : left.processor.pc = right.processor.pc := pc
  by_cases room : left.processor.sp.val < 16
  · let top : Fin 16 := ⟨left.processor.sp.val, room⟩
    have here : left.processor.sp = top.castSucc := rfl
    rw [execute_call_of_room here, execute_call_of_room (sp.symm.trans here)]
    simp only [Part.content, stack, counter]
    exact ⟨trivial, rfl, rfl⟩
  · have full : ¬ right.processor.sp.val < 16 := sp ▸ room
    rw [execute_call_of_full room, execute_call_of_full full]
    exact ⟨rfl, returnStack, pc⟩

/-- A return depends on the return stack only, but leaves the program counter
alone if it fails. -/
theorem execute_ret_congr
    (returnStack :
      Part.returnStack.content left = Part.returnStack.content right) :
    (left.execute .ret).result = (right.execute .ret).result ∧
      Part.returnStack.content (left.execute .ret).machine =
        Part.returnStack.content (right.execute .ret).machine ∧
      (Part.pc.content left = Part.pc.content right →
        Part.pc.content (left.execute .ret).machine =
          Part.pc.content (right.execute .ret).machine) := by
  obtain ⟨sp, stack⟩ := Prod.mk.inj returnStack
  by_cases empty : left.processor.sp.val = 0
  · have alsoEmpty : right.processor.sp.val = 0 := sp ▸ empty
    rw [execute_ret_of_empty empty, execute_ret_of_empty alsoEmpty]
    exact ⟨rfl, returnStack, id⟩
  · let top : Fin 16 := ⟨left.processor.sp.val - 1, by omega⟩
    have here : left.processor.sp = top.succ :=
      Fin.ext (Nat.succ_pred_eq_of_ne_zero empty).symm
    rw [execute_ret_of_used here, execute_ret_of_used (sp.symm.trans here)]
    simp only [Part.content, stack]
    exact ⟨trivial, rfl, fun _ => rfl⟩

/-- Whether an instruction fails, and with which fault, depends on the parts that
it reads only. -/
theorem result_execute_congr
    (reads : ∀ part ∈ instruction.reads,
      part.content left = part.content right) :
    (left.execute instruction).result = (right.execute instruction).result := by
  cases instruction with
  | call target =>
      have returnStack := reads .returnStack (by simp [Instruction.reads])
      have pc := reads .pc (by simp [Instruction.reads])
      exact (execute_call_congr returnStack pc target).1
  | ret =>
      have returnStack := reads .returnStack (by simp [Instruction.reads])
      exact (execute_ret_congr returnStack).1
  | _ => rfl

theorem drawSprite_congr
    (reads : ∀ part ∈ [Part.registers, .memory, .index, .screen],
      part.content left = part.content right)
    (x y : Register) (height : Nat) :
    Part.registers.content (left.drawSprite x y height : Outcome Fault Unit).machine =
        Part.registers.content
          (right.drawSprite x y height : Outcome Fault Unit).machine ∧
      (left.drawSprite x y height : Outcome Fault Unit).machine.screen =
        (right.drawSprite x y height : Outcome Fault Unit).machine.screen ∧
      (left.drawSprite x y height : Outcome Fault Unit).events =
        (right.drawSprite x y height : Outcome Fault Unit).events := by
  have registers : left.processor.registers = right.processor.registers :=
    reads .registers (by simp)
  have memory : left.processor.memory = right.processor.memory :=
    reads .memory (by simp)
  have index : left.processor.index = right.processor.index :=
    reads .index (by simp)
  have screen : left.screen = right.screen := reads .screen (by simp)
  have contents := Processor.register_congr registers
  have rows (length : Int) :
      left.processor.readRange left.processor.index length =
        right.processor.readRange right.processor.index length := by
    simp only [Processor.readRange, Processor.read_congr memory, index]
  simp only [drawSprite, rows, contents, screen, Part.content]
  refine ⟨?_, trivial, trivial⟩
  exact Processor.registers_setRegister_congr registers _ rfl

/-- What an instruction publishes depends on the picture and on the parts that it
reads. -/
theorem events_execute_congr
    (screen : left.screen = right.screen)
    (reads : ∀ part ∈ instruction.reads,
      part.content left = part.content right) :
    (left.execute instruction).events =
      (right.execute instruction).events := by
  cases instruction with
  | clearScreen =>
      simp only [execute, clearScreen, screen]
  | draw x y height =>
      exact (drawSprite_congr reads x y height).2.2
  | _ => rfl

/-- What an instruction leaves in a part depends on what was there and on the
parts that it reads. -/
theorem content_execute_congr
    {part : Part}
    (reads : ∀ part ∈ instruction.reads,
      part.content left = part.content right)
    (same : part.content left = part.content right) :
    part.content (left.execute instruction).machine =
      part.content (right.execute instruction).machine := by
  -- Only the parts that the instruction may change need a look at what it does.
  by_cases changed : part ∈ instruction.parts
  case neg =>
    rw [← left.agreeOff_execute instruction part changed, same]
    exact right.agreeOff_execute instruction part changed
  cases instruction with
  | ignored => exact same
  | clearScreen =>
      obtain rfl := List.mem_singleton.mp changed
      exact congrArg Screen.clear same
  | jump _ | setIndex _ | awaitKey _ =>
      obtain rfl := List.mem_singleton.mp changed
      rfl
  | jumpFrom _ | setDelay _ | setSound _ | glyph _ =>
      obtain rfl := List.mem_singleton.mp changed
      have registers := reads .registers (by simp [Instruction.reads])
      have contents := Processor.register_congr registers
      simp only [Part.content, execute, Processor.execute, contents,
        Processor.jump]
      rfl
  | increaseIndex x =>
      obtain rfl := List.mem_singleton.mp changed
      have registers := reads .registers (by simp [Instruction.reads])
      have contents := Processor.register_congr registers
      have index : left.processor.index = right.processor.index := same
      simp only [Part.content, execute, Processor.execute, contents, index]
      rfl
  | call target =>
      have returnStack := reads .returnStack (by simp [Instruction.reads])
      have pc := reads .pc (by simp [Instruction.reads])
      obtain ⟨-, stack, counter⟩ := execute_call_congr returnStack pc target
      simp only [Instruction.parts, List.mem_cons, List.not_mem_nil,
        or_false] at changed
      rcases changed with rfl | rfl
      · exact stack
      · exact counter
  | ret =>
      have returnStack := reads .returnStack (by simp [Instruction.reads])
      obtain ⟨-, stack, counter⟩ := execute_ret_congr returnStack
      simp only [Instruction.parts, List.mem_cons, List.not_mem_nil,
        or_false] at changed
      rcases changed with rfl | rfl
      · exact stack
      · exact counter same
  | set x byte =>
      obtain rfl := List.mem_singleton.mp changed
      exact Processor.registers_setRegister_congr same x rfl
  | increase x byte =>
      obtain rfl := List.mem_singleton.mp changed
      have contents := Processor.register_congr same
      refine Processor.registers_setRegister_congr same x ?_
      rw [contents]
  | arithmetic operation x y =>
      obtain rfl := List.mem_singleton.mp changed
      exact Processor.registers_operate_congr same operation x y
  | readDelay x =>
      obtain rfl := List.mem_singleton.mp changed
      have delay := reads .delayTimer (by simp [Instruction.reads])
      exact Processor.registers_setRegister_congr same x delay
  | restore last =>
      obtain rfl := List.mem_singleton.mp changed
      have memory := reads .memory (by simp [Instruction.reads])
      have index := reads .index (by simp [Instruction.reads])
      exact Processor.registers_restoreThrough_congr same memory index last
  | decimal x =>
      obtain rfl := List.mem_singleton.mp changed
      have registers := reads .registers (by simp [Instruction.reads])
      have index := reads .index (by simp [Instruction.reads])
      refine Processor.memory_storeDecimal_congr same index ?_
      rw [Processor.register_congr registers]
  | store last =>
      obtain rfl := List.mem_singleton.mp changed
      have registers := reads .registers (by simp [Instruction.reads])
      have index := reads .index (by simp [Instruction.reads])
      exact Processor.memory_storeThrough_congr same registers index last
  | draw x y height =>
      obtain ⟨registers, screen, -⟩ := drawSprite_congr reads x y height
      simp only [Instruction.parts, List.mem_cons, List.not_mem_nil,
        or_false] at changed
      rcases changed with rfl | rfl
      · exact registers
      · exact screen
  | random x mask =>
      simp only [Instruction.parts, List.mem_cons, List.not_mem_nil,
        or_false] at changed
      rcases changed with rfl | rfl
      · apply Processor.registers_setRegister_congr same x
        -- A mask without bits hides the number that was drawn.
        by_cases noBit : mask = 0
        · rw [noBit, Nat.and_zero, Nat.and_zero]
        · have random : left.random = right.random :=
            reads .random (by simp [Instruction.reads, noBit])
          rw [random]
      · exact congrArg RandomSource.advance same
  | skipEqual _ _ | skipUnequal _ _ | skipSame _ _ | skipDifferent _ _ =>
      obtain rfl := List.mem_singleton.mp changed
      have registers := reads .registers (by simp [Instruction.reads])
      have contents := Processor.register_congr registers
      simp only [Part.content, execute, Processor.execute, contents]
      exact Processor.pc_skipIf_congr same _
  | skipPressed _ | skipReleased _ =>
      obtain rfl := List.mem_singleton.mp changed
      have registers := reads .registers (by simp [Instruction.reads])
      have keys := reads .keys (by simp [Instruction.reads])
      have contents := Processor.register_congr registers
      have pressed := Processor.isPressed_congr keys
      simp only [Part.content, execute, Processor.execute, contents, pressed]
      exact Processor.pc_skipIf_congr same _

/-! ## Machines with hidden parts -/

theorem AgreeOff.symm
    {hidden : List Part} (agree : left.AgreeOff hidden right) :
    right.AgreeOff hidden left :=
  fun part visible => (agree part visible).symm

theorem AgreeOff.trans
    {hidden : List Part} {middle : Machine}
    (first : left.AgreeOff hidden middle)
    (second : middle.AgreeOff hidden right) :
    left.AgreeOff hidden right :=
  fun part visible => (first part visible).trans (second part visible)

theorem AgreeOff.isWaiting
    {hidden : List Part} (agree : left.AgreeOff hidden right)
    (visible : .waiting ∉ hidden) :
    left.isWaiting = right.isWaiting := by
  have waiting : left.processor.waiting = right.processor.waiting :=
    agree .waiting visible
  simp only [Machine.isWaiting, Processor.isWaiting, waiting]

theorem AgreeOff.countDown
    {hidden : List Part} (agree : left.AgreeOff hidden right) :
    left.countDown.AgreeOff hidden right.countDown := by
  intro part visible
  have same := agree part visible
  cases part with
  | delayTimer | soundTimer => exact congrArg (fun timer : Nat => timer - 1) same
  | _ => exact same

/-- An instruction that reads nothing hidden leaves machines alike that are
alike, and fails in both of them or in none. -/
theorem AgreeOff.execute
    {hidden : List Part} (agree : left.AgreeOff hidden right)
    (blind : ∀ part ∈ instruction.reads, part ∉ hidden) :
    (left.execute instruction).machine.AgreeOff hidden
        (right.execute instruction).machine ∧
      (left.execute instruction).result =
        (right.execute instruction).result := by
  have reads : ∀ part ∈ instruction.reads,
      part.content left = part.content right :=
    fun part member => agree part (blind part member)
  refine ⟨?_, result_execute_congr reads⟩
  intro part visible
  exact content_execute_congr reads (agree part visible)

theorem AgreeOff.advance
    {hidden : List Part} (agree : left.AgreeOff hidden right) :
    left.advance.AgreeOff hidden right.advance := by
  intro part visible
  have same := agree part visible
  cases part with
  | pc => exact congrArg (fun pc : Int => (pc + 2) % 0x10000) same
  | _ => exact same

theorem AgreeOff.nextWord
    {hidden : List Part} (agree : left.AgreeOff hidden right)
    (memory : .memory ∉ hidden) (pc : .pc ∉ hidden) :
    left.processor.nextWord = right.processor.nextWord := by
  have cells : left.processor.memory = right.processor.memory :=
    agree .memory memory
  have counter : left.processor.pc = right.processor.pc := agree .pc pc
  simp only [Processor.nextWord, Processor.read_congr cells, counter]

theorem AgreeOff.nextInstruction
    {hidden : List Part} (agree : left.AgreeOff hidden right)
    (memory : .memory ∉ hidden) (pc : .pc ∉ hidden) :
    left.nextInstruction = right.nextInstruction := by
  simp only [Machine.nextInstruction, agree.nextWord memory pc]

/-- Steps of machines that are alike leave alike machines, if the instruction
reads nothing hidden. -/
theorem AgreeOff.step
    {hidden : List Part} (agree : left.AgreeOff hidden right)
    (memory : .memory ∉ hidden) (pc : .pc ∉ hidden)
    (blind : ∀ part ∈ left.nextInstruction.reads, part ∉ hidden) :
    left.step.machine.AgreeOff hidden right.step.machine ∧
      left.step.result = right.step.result := by
  have instruction := agree.nextInstruction memory pc
  rw [machine_step, machine_step, result_step, result_step, ← instruction]
  exact agree.advance.execute blind

/-- If the picture is not hidden, such steps publish the same. -/
theorem AgreeOff.events_step
    {hidden : List Part} (agree : left.AgreeOff hidden right)
    (memory : .memory ∉ hidden) (pc : .pc ∉ hidden) (screen : .screen ∉ hidden)
    (blind : ∀ part ∈ left.nextInstruction.reads, part ∉ hidden) :
    left.step.events = right.step.events := by
  have counter : left.processor.pc = right.processor.pc := agree .pc pc
  have word := agree.nextWord memory pc
  have published :
      (left.advance.execute left.nextInstruction).events =
        (right.advance.execute left.nextInstruction).events :=
    events_execute_congr (agree.advance .screen screen)
      fun part member => agree.advance part (blind part member)
  rw [Machine.events_step, Machine.events_step, counter, word, published,
    agree.nextInstruction memory pc]

end Machine

end Chip8

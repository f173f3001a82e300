import Chip8.Machine

/-!
# What an instruction changes

An instruction changes one part of the processor, and a call or a return also
the program counter.

* `push_cases`, `pop_cases`, `call_cases` and `ret_cases` say all that can
  become of the return stack;
* `Processor.Change` lists the changes that an instruction may make;
* `change_execute` says that an instruction, completed or not, makes one of
  them;
* `result_execute_eq_error_iff` says which instructions fail: a call on a full
  return stack and a return on an empty one;
* `execute_of_error` says that an instruction that fails changes nothing.
-/

namespace Chip8

/-! ## Tables -/

theorem set_eq_setIfInBounds
    {α : Type} {size place : Nat} (entries : Vector α size)
    (bound : place < size) (value : α) :
    entries.set place value bound = entries.setIfInBounds place value := by
  apply Vector.ext
  intro other inside
  rw [Vector.getElem_set, Vector.getElem_setIfInBounds]

/-- Only the entry that is written changes. -/
theorem get_setIfInBounds
    {α : Type} {size : Nat} (entries : Vector α size)
    (written tested : Fin size) (value : α) :
    (entries.setIfInBounds written.val value).get tested =
      if written = tested then value else entries.get tested := by
  have changed :
      (entries.setIfInBounds written.val value)[tested.val] =
        if written.val = tested.val then value else entries[tested.val] :=
    Vector.getElem_setIfInBounds tested.isLt
  simp only [Fin.ext_iff]
  exact changed

/-! ## Words of calls and returns -/

namespace Instruction

theorem decodeWord_eq_ret {word : Nat} (isReturn : decodeWord word = .ret) :
    word = 0x00EE := by
  simp only [decodeWord] at isReturn
  split at isReturn
  case h_1 =>
    split at isReturn
    · contradiction
    · split at isReturn
      · assumption
      · contradiction
  case h_9 => split at isReturn <;> contradiction
  case h_15 =>
    split at isReturn
    · contradiction
    · split at isReturn <;> contradiction
  case h_16 =>
    unfold decodeMiscellaneous at isReturn
    split at isReturn <;> contradiction
  all_goals contradiction

theorem decodeWord_of_call {word : Nat} (family : word / 0x1000 = 0x2) :
    decodeWord word = .call (word % 0x1000) := by
  simp only [decodeWord, family]

end Instruction

namespace Processor

/-! ## Frames of the operations of the processor -/

theorem exists_operate
    (processor : Processor) (operation : Alu) (x y : Register) :
    ∃ registers,
      processor.operate operation x y =
        { processor with registers := registers } := by
  unfold operate
  split
  · exact ⟨_, rfl⟩
  · exact ⟨_, rfl⟩

theorem exists_storeThrough (processor : Processor) (last : Register) :
    ∃ memory,
      processor.storeThrough last = { processor with memory := memory } := by
  refine List.foldlRecOn
    (motive := fun current =>
      ∃ memory, current = { processor with memory := memory })
    _ _ ?_ ?_
  · exact ⟨processor.memory, rfl⟩
  · intro current form register _
    obtain ⟨memory, equality⟩ := form
    rw [equality]
    exact ⟨_, rfl⟩

theorem exists_restoreThrough (processor : Processor) (last : Register) :
    ∃ registers,
      processor.restoreThrough last =
        { processor with registers := registers } := by
  refine List.foldlRecOn
    (motive := fun current =>
      ∃ registers, current = { processor with registers := registers })
    _ _ ?_ ?_
  · exact ⟨processor.registers, rfl⟩
  · intro current form register _
    obtain ⟨registers, equality⟩ := form
    rw [equality]
    exact ⟨_, rfl⟩

theorem exists_load (processor : Processor) (program : List UInt8) :
    ∃ memory,
      (processor.load program).processor =
        { processor with memory := memory } := by
  unfold load
  split
  · exact ⟨_, rfl⟩
  · exact ⟨processor.memory, rfl⟩

/-! ## The return stack -/

/-- A push puts the address above the last entry, or finds the return stack full
and changes nothing. -/
theorem push_cases (processor : Processor) (address : Int) :
    (∃ top : Fin 16, processor.sp = top.castSucc ∧
      processor.push address =
        { processor with
          stack := processor.stack.setIfInBounds top.val address
          sp := top.succ }.done) ∨
      (processor.sp = 16 ∧
        processor.push address = ⟨processor, .error .stackOverflow⟩) := by
  unfold push
  by_cases room : processor.sp.val < 16
  · rw [dif_pos room, set_eq_setIfInBounds]
    exact .inl ⟨⟨processor.sp.val, room⟩, rfl, rfl⟩
  · have bound := processor.sp.isLt
    have full : processor.sp.val = 16 := by omega
    rw [dif_neg room]
    exact .inr ⟨Fin.ext full, rfl⟩

/-- A pop takes the last entry, which stays there, or finds the return stack
empty and changes nothing. -/
theorem pop_cases (processor : Processor) :
    (∃ top : Fin 16, processor.sp = top.succ ∧
      processor.pop =
        ⟨{ processor with sp := top.castSucc },
          .ok (processor.stack.get top)⟩) ∨
      (processor.sp = 0 ∧
        processor.pop = ⟨processor, .error .stackUnderflow⟩) := by
  unfold pop
  by_cases empty : processor.sp.val = 0
  · rw [if_pos empty]
    exact .inr ⟨Fin.ext empty, rfl⟩
  · have bound := processor.sp.isLt
    have within : processor.sp.val - 1 < 16 := by omega
    rw [if_neg empty]
    refine .inl ⟨⟨processor.sp.val - 1, within⟩, ?_, rfl⟩
    exact Fin.ext (Nat.succ_pred_eq_of_ne_zero empty).symm

/-- A call jumps after its push, and does not jump if that fails. -/
theorem call_cases (processor : Processor) (target : Int) :
    (∃ top : Fin 16, processor.sp = top.castSucc ∧
      processor.call target =
        { processor with
          stack := processor.stack.setIfInBounds top.val processor.pc
          sp := top.succ
          pc := target }.done) ∨
      (processor.sp = 16 ∧
        processor.call target = ⟨processor, .error .stackOverflow⟩) := by
  unfold call
  rcases processor.push_cases processor.pc with
    ⟨top, free, pushes⟩ | ⟨full, fails⟩
  · rw [pushes]
    exact .inl ⟨top, free, rfl⟩
  · rw [fails]
    exact .inr ⟨full, rfl⟩

/-- A return jumps after its pop, and does not jump if that fails. -/
theorem ret_cases (processor : Processor) :
    (∃ top : Fin 16, processor.sp = top.succ ∧
      processor.ret =
        { processor with
          sp := top.castSucc
          pc := processor.stack.get top }.done) ∨
      (processor.sp = 0 ∧
        processor.ret = ⟨processor, .error .stackUnderflow⟩) := by
  unfold ret
  rcases processor.pop_cases with ⟨top, used, pops⟩ | ⟨empty, fails⟩
  · rw [pops]
    exact .inl ⟨top, used, rfl⟩
  · rw [fails]
    exact .inr ⟨empty, rfl⟩

/-! ## Changes -/

/-- What an instruction may change.  Only calls and returns touch the return
stack, and timers and key waits are set by one instruction each. -/
inductive Change (before : Processor) : Instruction → Processor → Prop where
  | nothing (instruction : Instruction) : Change before instruction before
  | counter (instruction : Instruction) (target : Int) :
      Change before instruction { before with pc := target }
  | registers (instruction : Instruction) (registers : Vector Nat 16) :
      Change before instruction { before with registers := registers }
  | memory (instruction : Instruction) (memory : Memory) :
      Change before instruction { before with memory := memory }
  | index (instruction : Instruction) (index : Int) :
      Change before instruction { before with index := index }
  | delayed (x : Register) :
      Change before (.setDelay x)
        { before with delayTimer := before.register x }
  | sounded (x : Register) :
      Change before (.setSound x)
        { before with soundTimer := before.register x }
  | awaited (x : Register) :
      Change before (.awaitKey x) { before with waiting := some x }
  | called (target : Nat) (top : Fin 16) (free : before.sp = top.castSucc) :
      Change before (.call target)
        { before with
          stack := before.stack.setIfInBounds top.val before.pc
          sp := top.succ
          pc := target }
  | returned (top : Fin 16) (used : before.sp = top.succ) :
      Change before .ret
        { before with sp := top.castSucc, pc := before.stack.get top }

theorem change_skipIf
    (processor : Processor) (instruction : Instruction) (condition : Bool) :
    Change processor instruction (processor.skipIf condition) := by
  cases condition with
  | false => exact .nothing instruction
  | true => exact .counter instruction _

/-- An instruction, completed or not, makes one of the changes. -/
theorem change_execute (processor : Processor) (instruction : Instruction) :
    Change processor instruction (processor.execute instruction).processor := by
  cases instruction with
  | call target =>
      simp only [execute]
      rcases processor.call_cases target with ⟨top, free, calls⟩ | ⟨-, fails⟩
      · rw [calls]
        exact .called target top free
      · rw [fails]
        exact .nothing _
  | ret =>
      simp only [execute]
      rcases processor.ret_cases with ⟨top, used, returns⟩ | ⟨-, fails⟩
      · rw [returns]
        exact .returned top used
      · rw [fails]
        exact .nothing _
  | ignored | clearScreen | random _ _ | draw _ _ _ => exact .nothing _
  | jump _ | jumpFrom _ => exact .counter _ _
  | skipEqual _ _ | skipUnequal _ _ | skipSame _ _ | skipDifferent _ _
  | skipPressed _ | skipReleased _ => exact change_skipIf _ _ _
  | set _ _ | increase _ _ | readDelay _ => exact .registers _ _
  | arithmetic operation x y =>
      obtain ⟨registers, equality⟩ := processor.exists_operate operation x y
      simp only [execute, equality]
      exact .registers _ _
  | restore last =>
      obtain ⟨registers, equality⟩ := processor.exists_restoreThrough last
      simp only [execute, equality]
      exact .registers _ _
  | setIndex _ | increaseIndex _ | glyph _ => exact .index _ _
  | decimal _ => exact .memory _ _
  | store last =>
      obtain ⟨memory, equality⟩ := processor.exists_storeThrough last
      simp only [execute, equality]
      exact .memory _ _
  | awaitKey x => exact .awaited x
  | setDelay x => exact .delayed x
  | setSound x => exact .sounded x

/-! ## Failures -/

/-- An instruction fails exactly if it is a call and the return stack is full,
or a return and the return stack is empty. -/
theorem result_execute_eq_error_iff
    (processor : Processor) (instruction : Instruction) (fault : Fault) :
    (processor.execute instruction).result = .error fault ↔
      ((∃ target, instruction = .call target) ∧
          processor.sp = 16 ∧ fault = .stackOverflow) ∨
        (instruction = .ret ∧
          processor.sp = 0 ∧ fault = .stackUnderflow) := by
  cases instruction with
  | call target =>
      simp only [execute]
      rcases processor.call_cases target with ⟨top, free, calls⟩ | ⟨full, fails⟩
      · have notFull : processor.sp ≠ 16 := by
          rw [free]
          exact Fin.ne_of_lt (Fin.castSucc_lt_last top)
        simp [calls, notFull, done]
      · simp [fails, full, eq_comm]
  | ret =>
      simp only [execute]
      rcases processor.ret_cases with ⟨top, used, returns⟩ | ⟨empty, fails⟩
      · have notEmpty : processor.sp ≠ 0 := by
          rw [used]
          exact Fin.succ_ne_zero top
        simp [returns, notEmpty, done]
      · simp [fails, empty, eq_comm]
  | _ => simp [execute, done]

/-- An instruction that fails leaves the processor as it was. -/
theorem processor_execute_of_error
    {processor : Processor} {instruction : Instruction} {fault : Fault}
    (failed : (processor.execute instruction).result = .error fault) :
    (processor.execute instruction).processor = processor := by
  cases instruction with
  | call target =>
      simp only [execute] at failed ⊢
      rcases processor.call_cases target with ⟨top, -, calls⟩ | ⟨-, fails⟩
      · rw [calls] at failed
        contradiction
      · rw [fails]
  | ret =>
      simp only [execute] at failed ⊢
      rcases processor.ret_cases with ⟨top, -, returns⟩ | ⟨-, fails⟩
      · rw [returns] at failed
        contradiction
      · rw [fails]
  | _ => contradiction

end Processor

namespace Machine

/-- The instruction that the word at the program counter names. -/
def nextInstruction (machine : Machine) : Instruction :=
  .decode machine.processor.nextWord

def advance (machine : Machine) : Machine :=
  { machine with processor := machine.processor.advance }

theorem machine_step (machine : Machine) :
    machine.step.machine =
      (machine.advance.execute machine.nextInstruction).machine := rfl

theorem result_step (machine : Machine) :
    machine.step.result =
      (machine.advance.execute machine.nextInstruction).result := rfl

theorem events_step (machine : Machine) :
    machine.step.events =
      .executing machine.processor.pc machine.processor.nextWord ::
        (machine.advance.execute machine.nextInstruction).events := rfl

/-- An instruction of a machine, completed or not, changes its processor as
instructions do. -/
theorem change_execute (machine : Machine) (instruction : Instruction) :
    Processor.Change machine.processor instruction
      (machine.execute instruction).machine.processor := by
  unfold execute
  split
  · exact .nothing _
  · exact .registers _ _
  · exact .registers _ _
  · exact machine.processor.change_execute instruction

/-- An instruction of a machine fails if it fails for the processor. -/
theorem result_execute_eq_error_iff
    (machine : Machine) (instruction : Instruction) (fault : Fault) :
    (machine.execute instruction).result = .error fault ↔
      (machine.processor.execute instruction).result = .error fault := by
  unfold execute
  split
  · exact iff_of_false nofun nofun
  · exact iff_of_false nofun nofun
  · exact iff_of_false nofun nofun
  · exact Iff.rfl

/-- An instruction that fails changes nothing and publishes nothing. -/
theorem execute_of_error
    {machine : Machine} {instruction : Instruction} {fault : Fault}
    (failed : (machine.execute instruction).result = .error fault) :
    machine.execute instruction = ⟨machine, [], .error fault⟩ := by
  rw [result_execute_eq_error_iff] at failed
  have kept := Processor.processor_execute_of_error failed
  rcases (Processor.result_execute_eq_error_iff _ _ _).mp failed with
    ⟨⟨target, rfl⟩, -, -⟩ | ⟨rfl, -, -⟩
  · simp only [execute, processorEvents, kept, failed]
  · simp only [execute, processorEvents, kept, failed]

theorem change_step (machine : Machine) :
    Processor.Change machine.processor.advance machine.nextInstruction
      machine.step.machine.processor :=
  machine.advance.change_execute machine.nextInstruction

end Machine

end Chip8

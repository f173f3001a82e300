import Chip8.Proofs.Footprint
import Chip8.Proofs.Run

/-!
# Addresses modulo the memory size

Program counter, index and return addresses matter modulo the memory size only.
Folding replaces each of them by its remainder; two machines are congruent if
they agree once they are folded.

* `folded_execute` says that instructions cannot tell a processor from the
  folded one;
* `apply_congr` says the same of every operation but `pop`, which answers with
  an address;
* `indistinguishable_of_congruent` carries it over to runs.
-/

namespace Chip8

/-! ## Processors -/

namespace Processor

/-- Two processors that agree, up to multiples of the memory size in the program
counter, the index and the return stack. -/
structure Congruent (left right : Processor) : Prop where
  memory : left.memory = right.memory
  registers : left.registers = right.registers
  index : left.index % memorySize = right.index % memorySize
  pc : left.pc % memorySize = right.pc % memorySize
  sp : left.sp = right.sp
  stack : ∀ place : Fin 16,
    left.stack.get place % memorySize = right.stack.get place % memorySize
  delayTimer : left.delayTimer = right.delayTimer
  soundTimer : left.soundTimer = right.soundTimer
  keys : left.keys = right.keys
  waiting : left.waiting = right.waiting

/-- The processor with all addresses reduced to those of memory cells. -/
def folded (processor : Processor) : Processor :=
  { processor with
    index := processor.index % memorySize
    pc := processor.pc % memorySize
    stack := processor.stack.map (· % memorySize) }

/-- Processors are congruent exactly if folding makes them equal. -/
theorem congruent_iff_folded {left right : Processor} :
    left.Congruent right ↔ left.folded = right.folded := by
  constructor
  · intro congruent
    have stack : left.stack.map (· % (memorySize : Int)) =
        right.stack.map (· % (memorySize : Int)) := by
      apply Vector.ext
      intro place bound
      have entry := congruent.stack ⟨place, bound⟩
      change left.stack[place] % _ = right.stack[place] % _ at entry
      simpa using entry
    simp only [folded, congruent.memory, congruent.registers, congruent.index,
      congruent.pc, congruent.sp, stack, congruent.delayTimer,
      congruent.soundTimer, congruent.keys, congruent.waiting]
  · intro same
    simp only [folded, mk.injEq] at same
    obtain ⟨memory, registers, index, pc, sp, stack, delay, sound, keys,
      waiting⟩ := same
    refine ⟨memory, registers, index, pc, sp, ?_, delay, sound, keys, waiting⟩
    intro place
    have entry := congrArg (fun entries => entries[place.val]) stack
    simp only [Vector.getElem_map] at entry
    exact entry

variable (processor : Processor)

/-! ### Memory access -/

theorem cell_add_emod (address : Int) (offset : Int) :
    cell (address % memorySize + offset) = cell (address + offset) := by
  rw [cell_eq_cell_iff, Int.emod_add_emod]

theorem read_folded (address offset : Int) :
    processor.folded.read (address % memorySize + offset) =
      processor.read (address + offset) := by
  simp only [read, cell_add_emod]
  rfl

theorem write_folded (address offset value : Int) :
    processor.folded.write (address % memorySize + offset) value =
      (processor.write (address + offset) value).folded := by
  simp only [write, cell_add_emod]
  rfl

theorem readRange_folded (address length : Int) :
    processor.folded.readRange (address % memorySize) length =
      processor.readRange address length := by
  simp only [readRange, read_folded]

theorem nextWord_folded : processor.folded.nextWord = processor.nextWord := by
  have first := processor.read_folded processor.pc 0
  simp only [Int.add_zero] at first
  have second := processor.read_folded processor.pc 1
  simp only [nextWord]
  rw [← first, ← second]
  rfl

theorem storeThrough_folded (last : Register) :
    processor.folded.storeThrough last =
      (processor.storeThrough last).folded := by
  apply List.foldl_hom
  intro current register
  exact current.write_folded current.index register.val _

theorem restoreThrough_folded (last : Register) :
    processor.folded.restoreThrough last =
      (processor.restoreThrough last).folded := by
  apply List.foldl_hom
  intro current register
  exact congrArg (current.folded.setRegister register)
    (current.read_folded current.index register.val)

theorem storeDecimal_folded (value : Nat) :
    processor.folded.storeDecimal value =
      (processor.storeDecimal value).folded := by
  have first := processor.write_folded processor.index 0
  simp only [Int.add_zero] at first
  unfold storeDecimal
  rw [← write_folded, ← write_folded, ← first]
  rfl

theorem operate_folded (operation : Alu) (x y : Register) :
    processor.folded.operate operation x y =
      (processor.operate operation x y).folded := by
  cases operation <;> rfl

/-! ### Instructions -/

theorem congruent_folded : processor.folded.Congruent processor where
  memory := rfl
  registers := rfl
  index := Int.emod_emod _ _
  pc := Int.emod_emod _ _
  sp := rfl
  stack := by
    intro place
    change (processor.stack.map (· % (memorySize : Int)))[place.val] % _ =
      processor.stack[place.val] % _
    simp
  delayTimer := rfl
  soundTimer := rfl
  keys := rfl
  waiting := rfl

theorem folded_folded : processor.folded.folded = processor.folded :=
  congruent_iff_folded.mp processor.congruent_folded

end Processor

/-- What was left behind, with all addresses reduced. -/
def Attempt.folded {α : Type} (attempt : Attempt α) : Attempt α :=
  ⟨attempt.processor.folded, attempt.result⟩

namespace Processor

variable (processor : Processor)

/-- An instruction that commutes with folding leaves congruent processors. -/
theorem folded_done_of_commutes
    {first second : Processor} (commutes : first = second.folded) :
    first.done.folded = second.done.folded := by
  simp only [commutes, Attempt.folded, done, folded_folded]

/-- Processors that agree once they are folded may be left behind. -/
theorem folded_done
    {first second : Processor} (same : first.folded = second.folded) :
    first.done.folded = second.done.folded := by
  simp only [Attempt.folded, done, same]

theorem folded_advance :
    processor.folded.advance.folded = processor.advance.folded := by
  -- The program counter wraps around at a multiple of the memory size.
  have same :
      (processor.pc % memorySize + 2) % 0x10000 % memorySize =
        (processor.pc + 2) % 0x10000 % memorySize := by
    unfold memorySize
    omega
  exact congruent_iff_folded.mp
    { processor.congruent_folded with pc := same }

theorem folded_skipIf (condition : Bool) :
    (processor.folded.skipIf condition).folded =
      (processor.skipIf condition).folded := by
  cases condition with
  | false => exact processor.folded_folded
  | true => exact processor.folded_advance

theorem folded_push
    {first second : Int}
    (same : first % memorySize = second % memorySize) :
    (processor.folded.push first).folded = (processor.push second).folded := by
  by_cases room : processor.sp.val < 16
  · have roomFolded : processor.folded.sp.val < 16 := room
    rw [push, push, dif_pos room, dif_pos roomFolded]
    apply folded_done
    apply congruent_iff_folded.mp
    refine { processor.congruent_folded with sp := rfl, stack := ?_ }
    intro place
    have entry := processor.congruent_folded.stack place
    let top : Fin 16 := ⟨processor.sp.val, room⟩
    rw [set_eq_setIfInBounds, set_eq_setIfInBounds]
    change (processor.folded.stack.setIfInBounds top.val first).get place % _ =
      (processor.stack.setIfInBounds top.val second).get place % _
    rw [get_setIfInBounds, get_setIfInBounds]
    by_cases atTop : top = place
    · rw [if_pos atTop, if_pos atTop]
      exact same
    · rw [if_neg atTop, if_neg atTop]
      exact entry
  · have fullFolded : ¬ processor.folded.sp.val < 16 := room
    rw [push, push, dif_neg room, dif_neg fullFolded]
    simp only [Attempt.folded, folded_folded]

theorem folded_jump (target : Int) :
    (processor.folded.jump target).folded =
      (processor.jump target).folded :=
  congruent_iff_folded.mp { processor.congruent_folded with pc := rfl }

/-- Jumping after a push looks at the folded processor only. -/
theorem folded_andThen_jump (attempt : Attempt Unit) (target : Int) :
    (attempt.andThen fun pushed _ => (pushed.jump target).done).folded =
      (attempt.folded.andThen fun pushed _ =>
        (pushed.jump target).done).folded := by
  obtain ⟨left, result⟩ := attempt
  cases result with
  | ok _ => exact folded_done (left.folded_jump target).symm
  | error fault => simp only [Attempt.andThen, Attempt.folded, folded_folded]

theorem folded_call (target : Int) :
    (processor.folded.call target).folded =
      (processor.call target).folded := by
  have same : processor.folded.pc % memorySize = processor.pc % memorySize :=
    processor.congruent_folded.pc
  unfold call
  rw [folded_andThen_jump, processor.folded_push same, ← folded_andThen_jump]

theorem folded_ret :
    processor.folded.ret.folded = processor.ret.folded := by
  unfold ret pop
  by_cases empty : processor.sp.val = 0
  · have emptyFolded : processor.folded.sp.val = 0 := empty
    rw [if_pos empty, if_pos emptyFolded]
    simp only [Attempt.andThen, Attempt.folded, folded_folded]
  · have usedFolded : ¬ processor.folded.sp.val = 0 := empty
    rw [if_neg empty, if_neg usedFolded]
    apply folded_done
    apply congruent_iff_folded.mp
    exact { processor.congruent_folded with
      pc := processor.congruent_folded.stack ⟨processor.sp.val - 1, by omega⟩
      sp := rfl }

/-- Instructions cannot tell a processor from the folded one. -/
theorem folded_execute (instruction : Instruction) :
    (processor.folded.execute instruction).folded =
      (processor.execute instruction).folded := by
  cases instruction with
  | call target => exact processor.folded_call target
  | ret => exact processor.folded_ret
  | jump _ | jumpFrom _ => exact folded_done (processor.folded_jump _)
  | skipEqual _ _ | skipUnequal _ _ | skipSame _ _ | skipDifferent _ _
  | skipPressed _ | skipReleased _ =>
      exact folded_done (processor.folded_skipIf _)
  | setIndex _ | glyph _ =>
      exact folded_done (congruent_iff_folded.mp
        { processor.congruent_folded with index := rfl })
  | increaseIndex x =>
      have same :
          (processor.index % memorySize + processor.register x) % 0x10000 %
              memorySize =
            (processor.index + processor.register x) % 0x10000 %
              memorySize := by
        unfold memorySize
        omega
      exact folded_done (congruent_iff_folded.mp
        { processor.congruent_folded with index := same })
  | arithmetic operation x y =>
      exact folded_done_of_commutes (processor.operate_folded operation x y)
  | decimal x =>
      exact folded_done_of_commutes (processor.storeDecimal_folded _)
  | store last =>
      exact folded_done_of_commutes (processor.storeThrough_folded last)
  | restore last =>
      exact folded_done_of_commutes (processor.restoreThrough_folded last)
  | ignored | clearScreen | random _ _ | draw _ _ _ | set _ _ | increase _ _
  | readDelay _ | awaitKey _ | setDelay _ | setSound _ =>
      exact folded_done_of_commutes rfl

theorem load_folded (program : List UInt8) :
    processor.folded.load program = (processor.load program).folded := by
  unfold load
  split <;> rfl

theorem reportKey_folded (key : Key) (pressed : Bool) :
    processor.folded.reportKey key pressed =
      ((processor.reportKey key pressed).1.folded,
        (processor.reportKey key pressed).2) := by
  by_cases repeated : processor.keys[key] = pressed
  · have repeatedFolded : processor.folded.keys[key] = pressed := repeated
    simp only [reportKey, repeated, repeatedFolded, if_true]
  · have changedFolded : ¬ processor.folded.keys[key] = pressed := repeated
    have waiting : processor.folded.waiting = processor.waiting := rfl
    simp only [reportKey, repeated, changedFolded, if_false, waiting]
    cases processor.waiting <;> cases pressed <;> rfl

end Processor

/-! ## Machines -/

/-- Two machines that agree, up to multiples of the memory size in the addresses
that their processors hold. -/
structure Machine.Congruent (left right : Machine) : Prop where
  processor : left.processor.Congruent right.processor
  screen : left.screen = right.screen
  random : left.random = right.random
  speed : left.speed = right.speed

def Machine.folded (machine : Machine) : Machine :=
  { machine with processor := machine.processor.folded }

theorem Machine.folded_folded (machine : Machine) :
    machine.folded.folded = machine.folded := by
  simp only [folded, Processor.folded_folded]

theorem Machine.congruent_iff_folded {left right : Machine} :
    left.Congruent right ↔ left.folded = right.folded := by
  simp only [folded, mk.injEq]
  constructor
  · intro congruent
    exact ⟨Processor.congruent_iff_folded.mp congruent.processor,
      congruent.screen, congruent.random, congruent.speed⟩
  · rintro ⟨processor, screen, random, speed⟩
    exact ⟨Processor.congruent_iff_folded.mpr processor, screen, random, speed⟩

def Event.folded : Event → Event
  | .executing pc word => .executing (pc % memorySize) word
  | other => other

/-- The outcome with all addresses in the machine and the events reduced. -/
def Outcome.folded {ε α : Type} (outcome : Outcome ε α) : Outcome ε α :=
  ⟨outcome.machine.folded, outcome.events.map Event.folded, outcome.result⟩

/-- An operation that commutes with folding has congruent outcomes. -/
theorem Outcome.folded_of_commutes
    {ε α : Type} {first second : Outcome ε α}
    (commutes :
      first = { second with machine := second.machine.folded }) :
    first.folded = second.folded := by
  simp only [commutes, folded, Machine.folded_folded]

namespace Machine

variable (machine : Machine)

theorem folded_drawSprite (x y : Register) (height : Nat) :
    (machine.folded.drawSprite x y height : Outcome Fault Unit).folded =
      (machine.drawSprite x y height).folded := by
  have sprite :
      machine.folded.processor.readRange machine.folded.processor.index height =
        machine.processor.readRange machine.processor.index height :=
    machine.processor.readRange_folded machine.processor.index height
  apply Outcome.folded_of_commutes
  simp only [drawSprite, sprite]
  rfl

/-- Instructions cannot tell a machine from the folded one. -/
theorem folded_execute (instruction : Instruction) :
    (machine.folded.execute instruction).folded =
      (machine.execute instruction).folded := by
  obtain ⟨left, result⟩ :=
    Attempt.mk.inj (machine.processor.folded_execute instruction)
  unfold execute
  split
  · exact Outcome.folded_of_commutes rfl
  · exact machine.folded_drawSprite _ _ _
  · exact Outcome.folded_of_commutes rfl
  · simp only [Outcome.folded, folded, left, result]

theorem folded_advance :
    machine.folded.advance.folded = machine.advance.folded := by
  simp only [folded, advance, Processor.folded_advance]

theorem execute_congr
    {left right : Machine} (same : left.folded = right.folded)
    (instruction : Instruction) :
    (left.execute instruction).folded = (right.execute instruction).folded := by
  rw [← left.folded_execute, same, right.folded_execute]

theorem isWaiting_congr
    {left right : Machine} (same : left.folded = right.folded) :
    left.isWaiting = right.isWaiting := by
  have waits := congrArg isWaiting same
  exact waits

theorem nextWord_congr
    {left right : Machine} (same : left.folded = right.folded) :
    left.processor.nextWord = right.processor.nextWord := by
  have words := congrArg (fun machine => machine.processor.nextWord) same
  simpa only [folded, Processor.nextWord_folded] using words

theorem step_eq :
    machine.step =
      { machine.advance.execute machine.nextInstruction with
        events :=
          .executing machine.processor.pc machine.processor.nextWord ::
            (machine.advance.execute machine.nextInstruction).events } := rfl

theorem step_congr
    {left right : Machine} (same : left.folded = right.folded) :
    left.step.folded = right.step.folded := by
  have word := nextWord_congr same
  have counter :
      left.processor.pc % memorySize = right.processor.pc % memorySize :=
    (congruent_iff_folded.mpr same).processor.pc
  have instruction : left.nextInstruction = right.nextInstruction := by
    simp only [nextInstruction, word]
  have moved : left.advance.folded = right.advance.folded := by
    rw [← left.folded_advance, same, right.folded_advance]
  obtain ⟨machine, events, result⟩ :=
    Outcome.mk.inj (execute_congr moved right.nextInstruction)
  rw [step_eq, step_eq, instruction]
  simp only [Outcome.folded, List.map_cons, Event.folded, machine, events,
    result, word, counter]

/-- Congruent machines go through the same cycles. -/
theorem cycles_congr
    {left right : Machine} {before after : List Event} (count : Nat)
    (same : left.folded = right.folded)
    (published : before.map Event.folded = after.map Event.folded) :
    (cycles count left before).folded = (cycles count right after).folded := by
  induction count generalizing left right before after with
  | zero =>
      simp only [cycles, Outcome.folded, List.map_reverse, same, published]
  | succ count inductionHypothesis =>
      have steps := step_congr same
      simp only [cycles]
      generalize left.step = first at steps ⊢
      generalize right.step = second at steps ⊢
      obtain ⟨machine, events, result⟩ := Outcome.mk.inj steps
      have all :
          (first.events.reverseAux before).map Event.folded =
            (second.events.reverseAux after).map Event.folded := by
        simp only [List.reverseAux_eq, List.map_append, List.map_reverse,
          events, published]
      -- Faults and waits are not folded, so both stop after the same cycle.
      rw [result, isWaiting_congr machine]
      cases second.result with
      | error fault =>
          simp only [Outcome.folded, List.map_reverse, machine, all]
      | ok _ =>
          by_cases isWaiting : second.machine.isWaiting = true
          · simp only [isWaiting, if_true, Outcome.folded, List.map_reverse,
              machine, all]
          · simp only [isWaiting, if_false, Bool.false_eq_true]
            exact inductionHypothesis machine all

theorem frame_congr
    {left right : Machine} (same : left.folded = right.folded) :
    left.frame.folded = right.frame.folded := by
  have tone := congrArg frameTone same
  change left.frameTone = right.frameTone at tone
  have counted := congrArg countDown same
  change left.countDown.folded = right.countDown.folded at counted
  unfold frame
  rw [isWaiting_congr same, tone, (congruent_iff_folded.mpr same).speed]
  split
  · simp only [Outcome.folded, same]
  · exact cycles_congr _ counted rfl

theorem silent_congr
    {first second : Outcome Fault Unit} (same : first.folded = second.folded) :
    (silent first).folded = (silent second).folded := by
  obtain ⟨machine, events, result⟩ := Outcome.mk.inj same
  simp only [silent, Outcome.folded, machine, events, result]

/-- No operation but `pop` can tell a machine from the folded one. -/
theorem folded_apply
    {operation : Operation} (noPop : operation ≠ .pop) :
    (machine.folded.apply operation).folded =
      (machine.apply operation).folded := by
  cases operation with
  | step => exact silent_congr (step_congr machine.folded_folded)
  | frame => exact silent_congr (frame_congr machine.folded_folded)
  | execute opcode => exact silent_congr (machine.folded_execute _)
  | nextWord =>
      simp only [apply, nextWord_congr machine.folded_folded]
      exact Outcome.folded_of_commutes rfl
  | reset => rfl
  | load program => rfl
  | loadFile files path =>
      simp only [apply]
      split
      · rfl
      · exact Outcome.folded_of_commutes rfl
  | reportKey code pressed =>
      have reported (key : Key) :
          machine.folded.processor.reportKey key pressed = _ :=
        machine.processor.reportKey_folded key pressed
      apply Outcome.folded_of_commutes
      simp only [apply, reportCode, Machine.reportKey, reported]
      split
      · split <;> rfl
      · rfl
  | setSpeed value =>
      simp only [apply]
      split <;> exact Outcome.folded_of_commutes rfl
  | resetProcessor => rfl
  | loadMemory program =>
      have loaded : machine.folded.processor.load program = _ :=
        machine.processor.load_folded program
      apply Outcome.folded_of_commutes
      simp only [apply, loadMemory, loaded]
      rfl
  | push address =>
      obtain ⟨left, result⟩ :=
        Attempt.mk.inj (machine.processor.folded_push (Eq.refl (address % _)))
      simp only [apply, settle, Outcome.folded, folded, left, result]
  | pop => exact absurd rfl noPop
  | isWaiting | read _ | write _ _ | readRange _ _ | draw _ _ _
  | clearScreen | isLit _ _ | clean => exact Outcome.folded_of_commutes rfl

theorem apply_congr
    {left right : Machine} (same : left.folded = right.folded)
    {operation : Operation} (noPop : operation ≠ .pop) :
    (left.apply operation).folded = (right.apply operation).folded := by
  rw [← left.folded_apply noPop, same, right.folded_apply noPop]

end Machine

/-! ## Observations -/

/-- Folding hides neither calls to the tone nor pixels. -/
theorem toneCalls_folded (events : List Event) :
    toneCalls (events.map Event.folded) = toneCalls events := by
  rw [toneCalls, List.filterMap_map]
  apply congrArg (fun view => events.filterMap view)
  funext event
  cases event <;> rfl

theorem pixelChanges_folded (events : List Event) :
    pixelChanges (events.map Event.folded) = pixelChanges events := by
  rw [pixelChanges, List.filterMap_map]
  apply congrArg (fun view => events.filterMap view)
  funext event
  cases event <;> rfl

/-- Two turns that nobody can tell apart who does not see addresses: the same
operation on congruent machines, with the same answer or refusal, the same calls
to the tone and the same pixel changes, which leaves congruent machines
behind. -/
structure Turn.Indistinguishable (left right : Turn) : Prop where
  operation : left.operation = right.operation
  before : left.before.Congruent right.before
  after : left.after.Congruent right.after
  result : left.outcome.result = right.outcome.result
  tone : toneCalls left.outcome.events = toneCalls right.outcome.events
  pixels : pixelChanges left.outcome.events = pixelChanges right.outcome.events
  events : left.outcome.events.map Event.folded =
    right.outcome.events.map Event.folded

theorem Turn.indistinguishable
    {left right : Machine} (congruent : left.Congruent right)
    {operation : Operation} (noPop : operation ≠ .pop) :
    Turn.Indistinguishable ⟨left, operation⟩ ⟨right, operation⟩ := by
  obtain ⟨after, events, result⟩ := Outcome.mk.inj
    (Machine.apply_congr (Machine.congruent_iff_folded.mp congruent) noPop)
  have tone := congrArg toneCalls events
  have pixels := congrArg pixelChanges events
  rw [toneCalls_folded, toneCalls_folded] at tone
  rw [pixelChanges_folded, pixelChanges_folded] at pixels
  exact ⟨rfl, congruent, Machine.congruent_iff_folded.mpr after, result, tone,
    pixels, events⟩

theorem Machine.congruent_after
    {left right : Machine} (congruent : left.Congruent right)
    {operations : List Operation} (noPop : .pop ∉ operations) :
    (left.after operations).Congruent (right.after operations) := by
  induction operations generalizing left right with
  | nil =>
      exact congruent
  | cons operation rest inductionHypothesis =>
      have notFirst : operation ≠ .pop := by
        rintro rfl
        exact noPop List.mem_cons_self
      have turn := Turn.indistinguishable congruent notFirst
      exact inductionHypothesis turn.after
        fun later => noPop (List.mem_cons_of_mem operation later)

/-- Addresses matter modulo the memory size only: no run without `pop` can tell
congruent machines apart, at none of its operations. -/
theorem Machine.indistinguishable_of_congruent
    {left right : Machine} (congruent : left.Congruent right)
    {operations : List Operation} (noPop : .pop ∉ operations) :
    (∀ (earlier later : List Operation) (operation : Operation),
        operations = earlier ++ operation :: later →
        Turn.Indistinguishable
          ⟨left.after earlier, operation⟩ ⟨right.after earlier, operation⟩) ∧
      (left.after operations).Congruent (right.after operations) := by
  refine ⟨?_, congruent_after congruent noPop⟩
  intro earlier later operation split
  rw [split] at noPop
  have notEarlier : .pop ∉ earlier := fun member =>
    noPop (List.mem_append_left _ member)
  have notNow : operation ≠ .pop := by
    rintro rfl
    exact noPop (List.mem_append_right _ List.mem_cons_self)
  exact Turn.indistinguishable (congruent_after congruent notEarlier) notNow

/-- A machine in a subroutine, with an index at the end of memory. -/
def Machine.lowAddresses : Machine where
  processor :=
    { Processor.starting (Vector.replicate memorySize 0) with
      index := 0xFFF
      sp := 2
      stack := Vector.replicate 16 0x204 }
  screen := .blank 8 4
  random := .ofSeed 3
  speed := 3

/-- The same machine with multiples of the memory size added to its
addresses. -/
def Machine.highAddresses : Machine :=
  { lowAddresses with
    processor := { lowAddresses.processor with
      index := 0xFFFF
      pc := 0x5200
      stack := Vector.replicate 16 0xA204 } }

/-- Storing, drawing, filling registers and returning, with the index beyond the
end of memory and up to the last return that fails. -/
theorem Machine.indistinguishable_of_congruent_highAddresses :
    let earlier : List Operation :=
      [.loadMemory [0xF2, 0x55, 0xD0, 0x15, 0xF1, 0x65, 0x00, 0xEE], .frame,
        .step, .key 3 true, .execute 0xF31E, .frame]
    let operations := earlier ++ [.execute 0x00EE]
    highAddresses.processor.pc ≠ lowAddresses.processor.pc ∧
      Turn.Indistinguishable
        ⟨lowAddresses.after earlier, .execute 0x00EE⟩
        ⟨highAddresses.after earlier, .execute 0x00EE⟩ ∧
      (lowAddresses.after operations).Congruent
        (highAddresses.after operations) := by
  intro earlier operations
  have congruent : lowAddresses.Congruent highAddresses := by
    refine ⟨⟨rfl, rfl, rfl, rfl, rfl, ?_, rfl, rfl, rfl, rfl⟩, rfl, rfl, rfl⟩
    decide +kernel
  have noPop : .pop ∉ operations := by
    simp [operations, earlier, Operation.key]
  obtain ⟨during, inTheEnd⟩ := indistinguishable_of_congruent congruent noPop
  exact ⟨by decide, during earlier [] (.execute 0x00EE) rfl, inTheEnd⟩

end Chip8

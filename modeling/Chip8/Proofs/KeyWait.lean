import Chip8.Proofs.Frame

/-!
# Waiting for a key

A machine that waits for a key is frozen until a key goes down that was up.

* `reportKey_unanswered` and `reportKey_answered` say what a report does to a
  processor, and `reportKey_cases` that there is nothing else;
* `waiting_apply` says that nothing but an instruction that waits for a key
  begins a wait;
* `keyWait_protocol` says what any interleaving of frames and reports does to a
  machine that waits.
-/

namespace Chip8

/-! ## Reports of keys -/

namespace Processor

/-- A report that does not answer a wait is noted, and changes nothing if it
repeats what is recorded. -/
theorem reportKey_unanswered
    {processor : Processor} {key : Key} {pressed : Bool}
    (quiet :
      processor.waiting = none ∨ pressed = false ∨
        processor.keys.get key = true) :
    processor.reportKey key pressed =
      ({ processor with
          keys := processor.keys.setIfInBounds key.val pressed }, none) := by
  unfold reportKey
  by_cases repeated : processor.keys[key] = pressed
  · have same :
        processor.keys.setIfInBounds key.val pressed = processor.keys := by
      rw [← repeated, ← set_eq_setIfInBounds _ key.isLt]
      exact Vector.set_getElem_self key.isLt
    simp only [repeated, if_true, same]
  · simp only [repeated, if_false, set_eq_setIfInBounds]
    rcases quiet with idle | released | down
    · simp only [idle]
    · subst released
      cases processor.waiting <;> rfl
    · have released : pressed = false := by
        change ¬ processor.keys.get key = pressed at repeated
        rw [down] at repeated
        simpa using Ne.symm repeated
      subst released
      cases processor.waiting <;> rfl

/-- A fresh press during a wait is noted, fills the register that waits with the
number of the key, and ends the wait. -/
theorem reportKey_answered
    {processor : Processor} {register : Register} {key : Key}
    (waits : processor.waiting = some register)
    (up : processor.keys.get key = false) :
    processor.reportKey key true =
      ({ processor.setRegister register key.val with
          keys := processor.keys.setIfInBounds key.val true
          waiting := none },
        some ⟨register, key⟩) := by
  have up : processor.keys[key] = false := up
  simp only [reportKey, up, waits, Bool.false_eq_true, if_false,
    set_eq_setIfInBounds]
  rfl

/-- A report is noted, or it is a press that answers the wait of a register. -/
theorem reportKey_cases (processor : Processor) (key : Key) (pressed : Bool) :
    processor.reportKey key pressed =
        ({ processor with
            keys := processor.keys.setIfInBounds key.val pressed }, none) ∨
      ∃ register, processor.waiting = some register ∧ pressed = true ∧
        processor.reportKey key pressed =
          ({ processor.setRegister register key.val with
              keys := processor.keys.setIfInBounds key.val true
              waiting := none },
            some ⟨register, key⟩) := by
  by_cases quiet :
      processor.waiting = none ∨ pressed = false ∨
        processor.keys.get key = true
  · exact .inl (reportKey_unanswered quiet)
  · rw [not_or, not_or, Bool.not_eq_false, Bool.not_eq_true] at quiet
    obtain ⟨waits, rfl, up⟩ := quiet
    obtain ⟨register, waits⟩ := Option.ne_none_iff_exists'.mp waits
    exact .inr ⟨register, waits, rfl, reportKey_answered waits up⟩

end Processor

/-! ## Operations of a host that plays -/

/-- A host that plays lets frames pass and reports keys. -/
inductive Operation.Playing : Operation → Prop where
  | frame : Playing .frame
  | key (key : Key) (pressed : Bool) : Playing (.key key pressed)

/-- The turn is the press of a key that is recorded as up. -/
def Turn.FreshPress (turn : Turn) : Prop :=
  ∃ key : Key,
    turn.operation = .key key true ∧ turn.before.processor.keys.get key = false

theorem Turn.freshPress_key
    {machine : Machine} {key : Key} {pressed : Bool} :
    Turn.FreshPress ⟨machine, .key key pressed⟩ ↔
      pressed = true ∧ machine.processor.keys.get key = false := by
  constructor
  · rintro ⟨other, isReport, up⟩
    obtain ⟨rfl, rfl⟩ := Operation.key_inj.mp isReport
    exact ⟨rfl, up⟩
  · rintro ⟨rfl, up⟩
    exact ⟨key, rfl, up⟩

namespace Machine

def withKeys (machine : Machine) (keys : Vector Bool 16) : Machine :=
  { machine with processor := { machine.processor with keys := keys } }

/-- The machine after a fresh press has answered its wait: the key is recorded
and the register filled. -/
def answered (machine : Machine) (register : Register) (key : Key) : Machine :=
  { machine with
    processor :=
      { machine.processor.setRegister register key.val with
        keys := machine.processor.keys.setIfInBounds key.val true
        waiting := none } }

variable {machine : Machine} {register : Register} {key : Key}

theorem isWaiting_of_waiting (waits : machine.processor.waiting = some register) :
    machine.isWaiting = true := by
  simp only [isWaiting, Processor.isWaiting, waits, Option.isSome_some]

theorem isWaiting_eq_false_iff :
    machine.isWaiting = false ↔ machine.processor.waiting = none := by
  simp only [isWaiting, Processor.isWaiting, Option.isSome_eq_false_iff,
    Option.isNone_iff_eq_none]

theorem apply_frame_of_waiting
    (waits : machine.processor.waiting = some register) :
    machine.apply .frame = ⟨machine, [.tone .stop], .ok .nothing⟩ := by
  simp only [apply, frame, isWaiting_of_waiting waits, if_true, silent]

theorem apply_key_unanswered
    {pressed : Bool}
    (quiet :
      machine.processor.waiting = none ∨ pressed = false ∨
        machine.processor.keys.get key = true) :
    machine.apply (.key key pressed) =
      ⟨machine.withKeys
          (machine.processor.keys.setIfInBounds key.val pressed),
        [], .ok .nothing⟩ := by
  rw [apply_key, Processor.reportKey_unanswered quiet]
  rfl

theorem apply_key_answered
    (waits : machine.processor.waiting = some register)
    (up : machine.processor.keys.get key = false) :
    machine.apply (.key key true) =
      ⟨machine.answered register key, [.resumed ⟨register, key⟩],
        .ok (.write register (.key key))⟩ := by
  rw [apply_key, Processor.reportKey_answered waits up]
  rfl

/-- An answer writes to the register that waits only. -/
theorem register_answered
    (machine : Machine) (register : Register) (key : Key) (number : Register) :
    (machine.answered register key).processor.register number =
      if register = number then key.val
      else machine.processor.register number :=
  machine.processor.register_setRegister register number key.val

/-- An answer records the key only. -/
theorem keys_answered
    (machine : Machine) (register : Register) (key other : Key) :
    (machine.answered register key).processor.keys.get other =
      if key = other then true else machine.processor.keys.get other :=
  get_setIfInBounds machine.processor.keys key other true

/-! ## Frozen machines -/

/-- A turn of a host that plays, and presses no key afresh, changes the record
of the keys of a machine that waits, answers nothing, and silences the tone if
it is a frame. -/
theorem frozen_turn
    {turn : Turn} (playing : turn.operation.Playing)
    (noPress : ¬ turn.FreshPress)
    (waits : turn.before.processor.waiting = some register) :
    turn.after = turn.before.withKeys turn.after.processor.keys ∧
      turn.outcome.result = .ok .nothing ∧
      (turn.operation = .frame →
        toneCalls turn.outcome.events = [.stop]) := by
  obtain ⟨machine, operation⟩ := turn
  cases playing with
  | frame =>
      have outcome :
          Turn.outcome ⟨machine, .frame⟩ =
            ⟨machine, [.tone .stop], .ok .nothing⟩ :=
        apply_frame_of_waiting waits
      rw [Turn.after, outcome]
      exact ⟨rfl, rfl, fun _ => rfl⟩
  | key key pressed =>
      have quiet : pressed = false ∨ machine.processor.keys.get key = true := by
        cases pressed with
        | false => exact .inl rfl
        | true =>
            have repeated := mt Turn.freshPress_key.mpr noPress
            simpa using repeated
      have outcome :
          Turn.outcome ⟨machine, .reportKey (.integer key.val) pressed⟩ = _ :=
        apply_key_unanswered (.inr quiet)
      rw [Turn.after, outcome]
      refine ⟨rfl, rfl, ?_⟩
      intro isFrame
      contradiction

/-- Turns of a host that plays, and presses no key afresh, change nothing but
the record of the keys of a machine that waits. -/
theorem frozen_turns
    {inputs : List Operation}
    (waits : machine.processor.waiting = some register)
    (playing : ∀ operation ∈ inputs, operation.Playing)
    (noPress : ∀ turn ∈ machine.turns inputs, ¬ turn.FreshPress) :
    (∀ turn ∈ machine.turns inputs,
        turn.before = machine.withKeys turn.before.processor.keys ∧
          turn.after = machine.withKeys turn.after.processor.keys) ∧
      machine.after inputs =
        machine.withKeys (machine.after inputs).processor.keys := by
  have kept : ∀ turn : Turn,
      turn.operation.Playing ∧ ¬ turn.FreshPress →
      turn.before = machine.withKeys turn.before.processor.keys →
      turn.after = machine.withKeys turn.after.processor.keys := by
    intro turn ⟨plays, noFresh⟩ same
    have stillWaits : turn.before.processor.waiting = some register := by
      rw [same]
      exact waits
    have changed := (frozen_turn plays noFresh stillWaits).1
    rw [same] at changed
    exact changed
  exact @invariant_turns
    (fun current => current = machine.withKeys current.processor.keys)
    (fun turn => turn.operation.Playing ∧ ¬ turn.FreshPress)
    kept machine inputs rfl fun turn member =>
      ⟨playing turn.operation (operation_mem_of_mem_turns member),
        noPress turn member⟩

/-! ## How waits begin -/

/-- An instruction that waits for no key begins no wait. -/
theorem waiting_execute
    {instruction : Instruction}
    (noWait : ∀ register : Register, instruction ≠ .awaitKey register) :
    (machine.execute instruction).machine.processor.waiting =
      machine.processor.waiting := by
  have change := machine.change_execute instruction
  generalize (machine.execute instruction).machine.processor = after at change
  cases change with
  | awaited register => exact absurd rfl (noWait register)
  | _ => rfl

theorem waiting_step
    (noWait : ∀ register : Register,
      machine.nextInstruction ≠ .awaitKey register) :
    machine.step.machine.processor.waiting = machine.processor.waiting := by
  rw [machine_step, waiting_execute noWait]
  rfl

theorem waiting_cycles
    {count : Nat} (published : List Event)
    (idle : machine.processor.waiting = none)
    (noWait : ∀ fetch ∈ cycleFetches count machine, ∀ register : Register,
      fetch.nextInstruction ≠ .awaitKey register) :
    (cycles count machine published).machine.processor.waiting = none := by
  have kept : ∀ machine : Machine,
      (∀ register : Register, machine.nextInstruction ≠ .awaitKey register) →
      machine.processor.waiting = none →
      machine.step.machine.processor.waiting = none :=
    fun _ noWait idle => (waiting_step noWait).trans idle
  exact (invariant_cycles kept published idle noWait).2

end Machine

/-- The turn carries out no instruction that waits for a key. -/
def Turn.WaitFree (turn : Turn) : Prop :=
  ∀ instruction ∈ turn.instructions, ∀ register : Register,
    instruction ≠ .awaitKey register

namespace Machine

variable {machine : Machine}

/-- Starting over ends the wait, and loading begins none. -/
theorem waiting_loadProgram (machine : Machine) (program : List UInt8) :
    (machine.load program).machine.processor.waiting = none := by
  obtain ⟨memory, loaded⟩ := machine.processor.reset.exists_load program
  exact congrArg Processor.waiting loaded

/-- An operation begins no wait if it carries out no instruction that does. -/
theorem waiting_apply
    {operation : Operation}
    (waitFree : Turn.WaitFree ⟨machine, operation⟩)
    (idle : machine.processor.waiting = none) :
    (machine.apply operation).machine.processor.waiting = none := by
  cases operation with
  | step =>
      have noWait := waitFree machine.nextInstruction List.mem_cons_self
      exact (waiting_step noWait).trans idle
  | execute opcode =>
      have noWait := waitFree (.decode opcode) List.mem_cons_self
      exact (waiting_execute noWait).trans idle
  | frame =>
      have runs := isWaiting_eq_false_iff.mpr idle
      have counted : machine.countDown.processor.waiting = none := idle
      simp only [apply, frame, runs, Bool.false_eq_true, if_false, silent]
      apply waiting_cycles _ counted
      intro fetch member
      apply waitFree
      simp only [Turn.instructions, Turn.fetches_frame runs]
      exact List.mem_map_of_mem member
  | reportKey code pressed =>
      simp only [apply, reportCode]
      split
      · split
        · exact idle
        · next key _ =>
            simp only [reportKey, Processor.reportKey_unanswered (.inl idle)]
            exact idle
      · exact idle
  | load program => exact machine.waiting_loadProgram program
  | loadFile files path =>
      simp only [apply]
      split
      · next program _ => exact machine.waiting_loadProgram program
      · exact idle
  | setSpeed value =>
      simp only [apply]
      split <;> exact idle
  | loadMemory program =>
      obtain ⟨memory, loaded⟩ := machine.processor.exists_load program
      exact (congrArg Processor.waiting loaded).trans idle
  | push address =>
      simp only [apply, settle]
      rcases machine.processor.push_cases address with
        ⟨top, -, pushes⟩ | ⟨-, fails⟩
      · rw [pushes]
        exact idle
      · rw [fails]
        exact idle
  | pop =>
      simp only [apply, settle]
      rcases machine.processor.pop_cases with ⟨top, -, pops⟩ | ⟨-, fails⟩
      · rw [pops]
        exact idle
      · rw [fails]
        exact idle
  | reset | resetProcessor => rfl
  | nextWord | isWaiting | read _ | write _ _ | readRange _ _ | draw _ _ _
  | clearScreen | isLit _ _ | clean => exact idle

/-- Turns that carry out no instruction that waits find no wait if there was
none before them. -/
theorem waiting_turns
    {operations : List Operation}
    (idle : machine.processor.waiting = none)
    (waitFree : ∀ turn ∈ machine.turns operations, turn.WaitFree) :
    ∀ turn ∈ machine.turns operations, turn.before.processor.waiting = none :=
  fun turn member =>
    ((@invariant_turns (fun current => current.processor.waiting = none)
      Turn.WaitFree (fun _ free => waiting_apply free) machine operations idle
      waitFree).1 turn member).1

/-! ## The protocol -/

theorem result_key_of_idle
    (idle : machine.processor.waiting = none) (key : Key) (pressed : Bool) :
    (machine.apply (.key key pressed)).result = .ok .nothing := by
  rw [apply_key_unanswered (.inl idle)]

/-- Any interleaving of frames and reports leaves a machine that waits as it is,
up to the record of the keys, until a key goes down that was up.  That press
puts the number of the key into the register that waits, records the key, ends
the wait and changes nothing else, and no later report fills a register before
another instruction waits. -/
theorem keyWait_protocol
    {register : Register} {inputs : List Operation}
    (waits : machine.processor.waiting = some register)
    (playing : ∀ operation ∈ inputs, operation.Playing)
    (noPress : ∀ turn ∈ machine.turns inputs, ¬ turn.FreshPress) :
    (∀ turn ∈ machine.turns inputs,
        turn.after = machine.withKeys turn.after.processor.keys ∧
          turn.outcome.result = .ok .nothing ∧
          (turn.operation = .frame →
            toneCalls turn.outcome.events = [.stop])) ∧
      machine.after inputs =
        machine.withKeys (machine.after inputs).processor.keys ∧
      ∀ key : Key, (machine.after inputs).processor.keys.get key = false →
        let press := (machine.after inputs).apply (.key key true)
        press =
            ⟨(machine.after inputs).answered register key,
              [.resumed ⟨register, key⟩],
              .ok (.write register (.key key))⟩ ∧
          press.machine =
            { machine with
              processor := { machine.processor with
                registers := press.machine.processor.registers
                keys := press.machine.processor.keys
                waiting := none } } ∧
          (∀ number : Register, press.machine.processor.register number =
            if register = number then key.val
            else machine.processor.register number) ∧
          (∀ other : Key, press.machine.processor.keys.get other =
            if key = other then true
            else (machine.after inputs).processor.keys.get other) ∧
          ∀ later : List Operation,
            (∀ turn ∈
                ((machine.after inputs).answered register key).turns later,
              turn.WaitFree) →
            ∀ turn ∈
                ((machine.after inputs).answered register key).turns later,
              ∀ (other : Key) (pressed : Bool),
                turn.operation = .key other pressed →
                turn.outcome.result = .ok .nothing := by
  obtain ⟨during, inTheEnd⟩ := frozen_turns waits playing noPress
  refine ⟨?_, inTheEnd, ?_⟩
  · intro turn member
    obtain ⟨before, after⟩ := during turn member
    have stillWaits : turn.before.processor.waiting = some register := by
      rw [before]
      exact waits
    obtain ⟨-, answer, tone⟩ :=
      frozen_turn (playing turn.operation (operation_mem_of_mem_turns member))
        (noPress turn member) stillWaits
    exact ⟨after, answer, tone⟩
  · intro key up press
    have stillWaits :
        (machine.after inputs).processor.waiting = some register := by
      rw [inTheEnd]
      exact waits
    have answers : press = _ := apply_key_answered stillWaits up
    refine ⟨answers, ?same, ?registers, ?keys, ?later⟩
    case same =>
      rw [answers, inTheEnd]
      rfl
    case registers =>
      intro number
      rw [answers, register_answered, inTheEnd]
      rfl
    case keys =>
      intro other
      rw [answers, keys_answered]
    case later =>
      intro later waitFree turn member other pressed isReport
      have idle : turn.before.processor.waiting = none :=
        waiting_turns rfl waitFree turn member
      rw [Turn.outcome, isReport]
      exact result_key_of_idle idle other pressed

/-- A machine whose register 5 waits for a key, with key 2 held down and both
timers running. -/
def heldKey : Machine where
  processor :=
    { Processor.starting (Vector.replicate memorySize 0) with
      delayTimer := 30
      soundTimer := 4
      keys := (Vector.replicate 16 false).setIfInBounds 2 true
      waiting := some 5 }
  screen := .blank 8 8
  random := .ofSeed 0
  speed := 2

/-- The held key ends the wait when it is let go and pressed again, with its
number in the register and both timers as they were, and the other key that goes
down after that fills no register. -/
theorem keyWait_protocol_heldKey :
    let inputs : List Operation :=
      [.frame, .key 2 true, .key 7 false, .key 2 false, .frame]
    let press := (heldKey.after inputs).apply (.key 2 true)
    heldKey.after inputs =
        heldKey.withKeys (Vector.replicate 16 false) ∧
      press.result = .ok (.write 5 (.key 2)) ∧
      press.machine.processor.register 5 = 2 ∧
      press.machine.processor.keys.get 2 = true ∧
      press.machine.processor.waiting = none ∧
      press.machine.processor.delayTimer = 30 ∧
      ∀ turn ∈
          ((heldKey.after inputs).answered 5 2).turns [.step, .key 3 true],
        turn.operation = .key 3 true → turn.outcome.result = .ok .nothing := by
  intro inputs press
  have playing : ∀ operation ∈ inputs, operation.Playing := by
    simp only [inputs, List.forall_mem_cons]
    exact ⟨.frame, .key _ _, .key _ _, .key _ _, .frame,
      fun _ member => absurd member List.not_mem_nil⟩
  have noPress : ∀ turn ∈ heldKey.turns inputs, ¬ turn.FreshPress := by
    simp only [inputs, turns_cons, turns_nil, List.forall_mem_cons]
    refine ⟨nofun, ?_, ?_, ?_, nofun,
      fun _ member => absurd member List.not_mem_nil⟩ <;>
      rw [Turn.freshPress_key] <;>
      decide +kernel
  obtain ⟨-, frozen, answers⟩ := keyWait_protocol rfl playing noPress
  have keys :
      (heldKey.after inputs).processor.keys = Vector.replicate 16 false := by
    decide +kernel
  rw [keys] at frozen
  obtain ⟨answer, same, registers, record, later⟩ :=
    answers 2 (by rw [keys]; rfl)
  refine ⟨frozen, congrArg Outcome.result answer, registers 5, record 2,
    congrArg (fun after => after.processor.waiting) same,
    congrArg (fun after => after.processor.delayTimer) same, ?_⟩
  intro turn member isReport
  have idles :
      ((heldKey.after inputs).answered 5 2).nextInstruction = .ignored := by
    decide +kernel
  refine later [.step, .key 3 true] ?_ turn member 3 true isReport
  simp only [turns_cons, turns_nil, List.forall_mem_cons]
  refine ⟨?_, ?_, fun _ member => absurd member List.not_mem_nil⟩
  · intro instruction step
    rw [List.mem_singleton.mp step, idles]
    exact nofun
  · exact nofun

end Machine

end Chip8

import Chip8.Appearance
import Chip8.Proofs.KeyWait
import Chip8.Proofs.Parts
import Chip8.Window

/-!
# What is shown is what is held

An appearance is kept up to date beside a machine that does not know of it.

* `Appearance.Suits` relates an appearance to a processor: a truth value that is
  shown stands for the number that is held;
* an instruction, a step, a frame and any other operation leave an appearance
  behind that suits the processor they leave behind (`suits_execute`,
  `suits_step`, `suits_frame`, `suits_afterOperation`);
* `suits_afterTurns` says the same of a run, and `counts_afterTurns` that what
  is shown after it counts as what is held;
* `Window.suits_run` says it of the notices of a whole main loop.
-/

namespace Chip8

namespace Appearance

/-! ## Truth values for numbers -/

/-- A truth value, if there is one, stands for a number. -/
def Denotes (truth : Option Bool) (number : Nat) : Prop :=
  ∀ value, truth = some value → number = value.toNat

theorem denotes_none (number : Nat) : Denotes none number :=
  nofun

theorem denotes_some (value : Bool) : Denotes (some value) value.toNat :=
  fun _ same => congrArg Bool.toNat (Option.some.inj same)

/-- What is shown in the place of a number counts as this number. -/
theorem number?_shown
    {truth : Option Bool} {number : Nat} (denotes : Denotes truth number) :
    (shown number truth).number? = some (.integer number) := by
  cases truth with
  | none => rfl
  | some value =>
      rw [denotes value rfl]
      cases value <;> rfl

/-- Truth values are combined as the numbers are that they stand for. -/
theorem denotes_combine
    {operation : Bool → Bool → Bool} {bitwise : Nat → Nat → Nat}
    (agree : ∀ left right : Bool,
      bitwise left.toNat right.toNat = (operation left right).toNat)
    {left right : Option Bool} {a b : Nat}
    (denotesLeft : Denotes left a) (denotesRight : Denotes right b) :
    Denotes (combine operation left right) (bitwise a b) := by
  intro value combined
  cases left with
  | none => contradiction
  | some first =>
      cases right with
      | none => contradiction
      | some second =>
          cases combined
          rw [denotesLeft first rfl, denotesRight second rfl, agree]

/-- A timer that counts down is shown as what it counts down to. -/
theorem denotes_countedDown
    {truth : Option Bool} {number : Nat} (denotes : Denotes truth number) :
    Denotes (countedDown truth) (number - 1) := by
  cases truth with
  | none => exact denotes_none _
  | some value =>
      cases value with
      | true => exact denotes_none _
      | false =>
          rw [denotes false rfl]
          exact denotes_some false

/-! ## Processors -/

/-- The truth values of an appearance stand for what a processor holds. -/
structure Suits (appearance : Appearance) (processor : Processor) : Prop where
  registers : ∀ number : Register,
    Denotes (appearance.register number) (processor.register number)
  delayTimer : Denotes appearance.delayTimer processor.delayTimer
  soundTimer : Denotes appearance.soundTimer processor.soundTimer

variable {appearance : Appearance} {processor : Processor}

theorem suits_plain (processor : Processor) : plain.Suits processor where
  registers number := by
    have empty : plain.register number = none :=
      Vector.getElem_replicate number.isLt
    rw [empty]
    exact denotes_none _
  delayTimer := denotes_none _
  soundTimer := denotes_none _

/-- Nothing but the registers and the timers matters. -/
theorem Suits.of_eq
    (suits : appearance.Suits processor) {other : Processor}
    (registers : other.registers = processor.registers)
    (delayTimer : other.delayTimer = processor.delayTimer)
    (soundTimer : other.soundTimer = processor.soundTimer) :
    appearance.Suits other where
  registers number := by
    rw [Processor.register, registers]
    exact suits.registers number
  delayTimer := delayTimer ▸ suits.delayTimer
  soundTimer := soundTimer ▸ suits.soundTimer

theorem Suits.setRegister
    (suits : appearance.Suits processor) (number : Register)
    {truth : Option Bool} {value : Nat} (denotes : Denotes truth value) :
    (appearance.setRegister number truth).Suits
      (processor.setRegister number value) where
  registers tested := by
    have changed :
        (appearance.setRegister number truth).register tested =
          if number = tested then truth else appearance.register tested :=
      get_setIfInBounds appearance.registers number tested truth
    rw [changed, Processor.register_setRegister]
    by_cases same : number = tested
    · rw [if_pos same, if_pos same]
      exact denotes
    · rw [if_neg same, if_neg same]
      exact suits.registers tested
  delayTimer := suits.delayTimer
  soundTimer := suits.soundTimer

/-- A register may be shown by any truth value that stands for its number. -/
theorem Suits.showRegister
    (suits : appearance.Suits processor) (number : Register)
    {truth : Option Bool}
    (denotes : Denotes truth (processor.register number)) :
    (appearance.setRegister number truth).Suits processor :=
  (suits.setRegister number denotes).of_eq
    (Vector.set_getElem_self number.isLt).symm rfl rfl

/-- A register that takes a plain number is shown as one. -/
theorem Suits.setPlain
    (suits : appearance.Suits processor) (number : Register) (value : Nat) :
    (appearance.setRegister number none).Suits
      (processor.setRegister number value) :=
  suits.setRegister number (denotes_none value)

theorem Suits.operate
    (suits : appearance.Suits processor) (operation : Alu) (x y : Register) :
    (appearance.afterArithmetic operation x y).Suits
      (processor.operate operation x y) := by
  have left := suits.registers x
  have right := suits.registers y
  cases operation with
  | copy => exact suits.setRegister x right
  | or => exact suits.setRegister x (denotes_combine (by decide) left right)
  | and => exact suits.setRegister x (denotes_combine (by decide) left right)
  | xor => exact suits.setRegister x (denotes_combine (by decide) left right)
  | add | subtract | shiftRight | subtractFrom | shiftLeft =>
      exact (suits.setPlain _ _).setPlain _ _

theorem Suits.restore
    (suits : appearance.Suits processor) (registers : List Register) :
    (registers.foldl
        (fun current register => current.setRegister register none)
        appearance).Suits
      (registers.foldl
        (fun current register =>
          current.setRegister register
            (current.read (current.index + register.val))) processor) := by
  induction registers generalizing appearance processor with
  | nil =>
      exact suits
  | cons register rest inductionHypothesis =>
      exact inductionHypothesis (suits.setPlain register _)

/-! ## Instructions -/

variable {machine : Machine}

/-- An instruction, completed or not, leaves an appearance behind that suits the
processor. -/
theorem suits_execute
    (suits : appearance.Suits machine.processor) (instruction : Instruction) :
    (appearance.afterInstruction instruction).Suits
      (machine.execute instruction).machine.processor := by
  have untouched
      (kept : ∀ part ∈ [Part.registers, .delayTimer, .soundTimer],
        part ∉ instruction.parts) :
      appearance.Suits (machine.execute instruction).machine.processor := by
    have agree := machine.agreeOff_execute instruction
    exact suits.of_eq (agree .registers (kept _ (by decide))).symm
      (agree .delayTimer (kept _ (by decide))).symm
      (agree .soundTimer (kept _ (by decide))).symm
  cases instruction with
  | set x byte | increase x byte => exact suits.setPlain x _
  | arithmetic operation x y => exact suits.operate operation x y
  | random x mask => exact suits.setPlain x _
  | draw x y height => exact suits.setPlain _ _
  | readDelay x => exact suits.setRegister x suits.delayTimer
  | setDelay x => exact { suits with delayTimer := suits.registers x }
  | setSound x => exact { suits with soundTimer := suits.registers x }
  | restore last => exact suits.restore _
  | _ => exact untouched (by simp [Instruction.parts])

/-! ## Events -/

/-- The event says nothing about registers and timers. -/
def Plain (event : Event) : Prop :=
  ∀ appearance : Appearance, appearance.afterEvent event = appearance

theorem foldl_afterEvent_of_plain
    {events : List Event} (plain : ∀ event ∈ events, Plain event)
    (appearance : Appearance) :
    events.foldl afterEvent appearance = appearance := by
  induction events with
  | nil =>
      rfl
  | cons event rest inductionHypothesis =>
      obtain ⟨first, others⟩ := List.forall_mem_cons.mp plain
      rw [List.foldl_cons, first appearance]
      exact inductionHypothesis others

theorem plain_of_mem_map_pixel
    {changes : List PixelChange} {event : Event}
    (member : event ∈ changes.map .pixel) : Plain event := by
  obtain ⟨change, -, rfl⟩ := List.mem_map.mp member
  exact fun _ => rfl

/-- What is published only without a fault says no more with one. -/
theorem plain_of_mem_publish
    {α : Type} (attempt : Attempt α) {events : List Event}
    (plain : ∀ event ∈ events, Plain event) :
    ∀ event ∈ attempt.publish events, Plain event := by
  unfold Attempt.publish
  split
  · exact plain
  · exact List.forall_mem_nil _

theorem plain_execute (machine : Machine) (instruction : Instruction) :
    ∀ event ∈ (machine.execute instruction).events, Plain event := by
  unfold Machine.execute
  split
  · exact fun _ => plain_of_mem_map_pixel
  · exact fun _ => plain_of_mem_map_pixel
  · exact fun _ member => absurd member List.not_mem_nil
  · unfold Machine.processorEvents
    split
    · exact List.forall_mem_singleton.mpr fun _ => rfl
    · exact fun _ member => absurd member List.not_mem_nil

/-! ## Steps and frames -/

theorem suits_step (suits : appearance.Suits machine.processor) :
    (machine.step.events.foldl afterEvent appearance).Suits
      machine.step.machine.processor := by
  have moved : appearance.Suits machine.advance.processor :=
    suits.of_eq rfl rfl rfl
  rw [Machine.events_step, List.foldl_cons,
    foldl_afterEvent_of_plain (plain_execute _ _)]
  exact suits_execute moved machine.nextInstruction

/-- What the events of some steps in a row make of an appearance suits what the
last step leaves behind. -/
theorem suits_cycleFetches
    (suits : appearance.Suits machine.processor) (count : Nat) :
    (((Machine.cycleFetches count machine).flatMap fun fetch =>
        fetch.step.events).foldl afterEvent appearance).Suits
      (machine.afterFetches
        (Machine.cycleFetches count machine)).processor := by
  induction count generalizing machine appearance with
  | zero =>
      exact suits
  | succ count inductionHypothesis =>
      have next := suits_step suits
      simp only [Machine.cycleFetches, List.flatMap_cons, List.foldl_append,
        Machine.afterFetches_cons]
      split
      · exact next
      · split
        · exact next
        · exact inductionHypothesis next

theorem suits_frame (suits : appearance.Suits machine.processor) :
    (machine.frame.events.foldl afterEvent appearance).Suits
      machine.frame.machine.processor := by
  unfold Machine.frame
  by_cases waits : machine.isWaiting = true
  · rw [if_pos waits]
    exact suits
  · rw [if_neg waits, Machine.events_cycles, Machine.machine_cycles,
      List.foldl_append]
    refine suits_cycleFetches ?_ machine.speed
    exact {
      registers := suits.registers
      delayTimer := denotes_countedDown suits.delayTimer
      soundTimer := denotes_countedDown suits.soundTimer }

/-! ## Operations -/

/-- After the events of a reset everything is a plain number. -/
theorem afterEvents_reset
    {ε : Type} (appearance : Appearance) (machine : Machine) :
    (machine.reset : Outcome ε Unit).events.foldl afterEvent appearance =
      plain := by
  simp only [Machine.reset, List.foldl_append]
  rfl

/-- And so it is after the events of loading a program. -/
theorem afterEvents_load
    (appearance : Appearance) (machine : Machine) (program : List UInt8) :
    (machine.load program).events.foldl afterEvent appearance = plain := by
  have stored : ∀ event ∈ [Event.stored program.length,
      .loaded program.length], Plain event :=
    List.forall_mem_cons.mpr ⟨fun _ => rfl,
      List.forall_mem_singleton.mpr fun _ => rfl⟩
  simp only [Machine.load, List.foldl_append, afterEvents_reset,
    foldl_afterEvent_of_plain (plain_of_mem_publish _ stored)]

/-- A register that holds the key of a code may be shown as the code was
given. -/
theorem Suits.afterAnswer
    (suits : appearance.Suits processor)
    {register : Register} {code : KeyCode} {key : Key}
    (known : code.key? = some key)
    (holds : processor.register register = key.val) :
    (appearance.afterAnswer register code).Suits processor := by
  cases code with
  | key pad => exact suits.showRegister register (denotes_none _)
  | truth value =>
      refine suits.showRegister register ?_
      rw [holds]
      cases value <;> cases known <;> exact denotes_some _
  | fraction value => contradiction

theorem suits_reportCode
    (suits : appearance.Suits machine.processor)
    (code : KeyCode) (value : Datum) (pressed : Bool) :
    (appearance.afterOperation (.reportKey value pressed)
        (machine.reportCode code pressed)).Suits
      (machine.reportCode code pressed).machine.processor := by
  unfold Machine.reportCode
  split
  · exact suits
  · next key known =>
      rcases machine.processor.reportKey_cases key pressed with
        noted | ⟨register, -, -, answered⟩
      · simp only [Machine.reportKey, noted]
        exact suits.of_eq rfl rfl rfl
      · simp only [Machine.reportKey, answered]
        have filled :
            (appearance.setRegister register none).Suits
              { machine.processor.setRegister register key.val with
                keys := machine.processor.keys.setIfInBounds key.val true
                waiting := none } :=
          (suits.setPlain register key.val).of_eq rfl rfl rfl
        refine filled.afterAnswer known ?_
        exact (machine.processor.register_setRegister register register _).trans
          (if_pos rfl)

/-- Whatever is asked of a machine, an appearance that is kept up to date suits
the processor that is left behind. -/
theorem suits_afterOperation
    (suits : appearance.Suits machine.processor) (operation : Operation) :
    (appearance.afterOperation operation (machine.apply operation)).Suits
      (machine.apply operation).machine.processor := by
  cases operation with
  | step => exact suits_step suits
  | frame => exact suits_frame suits
  | execute opcode =>
      simp only [afterOperation, Machine.apply, Machine.silent,
        Machine.executeWord, foldl_afterEvent_of_plain (plain_execute _ _)]
      exact suits_execute suits (.decode opcode)
  | reset =>
      simp only [afterOperation, Machine.apply, Machine.silent,
        afterEvents_reset]
      exact suits_plain _
  | load program =>
      simp only [afterOperation, Machine.apply, Machine.silent,
        afterEvents_load]
      exact suits_plain _
  | loadFile files path =>
      simp only [afterOperation, Machine.apply]
      split
      · simp only [Machine.silent, afterEvents_load]
        exact suits_plain _
      · exact suits
  | reportKey code pressed =>
      simp only [Machine.apply]
      split
      · exact suits_reportCode suits _ _ pressed
      · exact suits
  | resetProcessor => exact suits_plain _
  | setSpeed value =>
      simp only [afterOperation, Machine.apply]
      split <;> exact suits
  | loadMemory program =>
      obtain ⟨memory, loaded⟩ := machine.processor.exists_load program
      have stored : ∀ event ∈ [Event.stored program.length], Plain event :=
        List.forall_mem_singleton.mpr fun _ => rfl
      simp only [afterOperation, Machine.apply, Machine.loadMemory,
        Machine.settle, loaded,
        foldl_afterEvent_of_plain (plain_of_mem_publish _ stored)]
      exact suits.of_eq rfl rfl rfl
  | push address =>
      rcases machine.processor.push_cases address with
        ⟨top, -, pushes⟩ | ⟨-, fails⟩
      · simp only [afterOperation, Machine.apply, Machine.settle, pushes]
        exact suits.of_eq rfl rfl rfl
      · simp only [afterOperation, Machine.apply, Machine.settle, fails]
        exact suits
  | pop =>
      rcases machine.processor.pop_cases with ⟨top, -, pops⟩ | ⟨-, fails⟩
      · simp only [afterOperation, Machine.apply, Machine.settle, pops]
        exact suits.of_eq rfl rfl rfl
      · simp only [afterOperation, Machine.apply, Machine.settle, fails]
        exact suits
  | draw sprite x y =>
      simp only [afterOperation, Machine.apply,
        foldl_afterEvent_of_plain fun _ => plain_of_mem_map_pixel]
      exact suits
  | clearScreen =>
      simp only [afterOperation, Machine.apply, Machine.silent,
        Machine.clearScreen,
        foldl_afterEvent_of_plain fun _ => plain_of_mem_map_pixel]
      exact suits
  | nextWord | isWaiting | read _ | write _ _ | readRange _ _ | isLit _ _
  | clean => exact suits.of_eq rfl rfl rfl

/-! ## Runs -/

/-- An appearance that is kept up to date turn by turn. -/
def afterTurns (appearance : Appearance) (turns : List Turn) : Appearance :=
  turns.foldl
    (fun current turn => current.afterOperation turn.operation turn.outcome)
    appearance

/-- Whatever a run asks of a machine, each truth value that is shown in the end
stands for the number that is held. -/
theorem suits_afterTurns
    (suits : appearance.Suits machine.processor) (operations : List Operation) :
    (appearance.afterTurns (machine.turns operations)).Suits
      (machine.after operations).processor := by
  induction operations generalizing machine appearance with
  | nil =>
      exact suits
  | cons operation rest inductionHypothesis =>
      exact inductionHypothesis (suits_afterOperation suits operation)

/-- What is shown after a run, from plain numbers on, counts as what is held: in
the registers and in both timers. -/
theorem counts_afterTurns (machine : Machine) (operations : List Operation) :
    let appearance := plain.afterTurns (machine.turns operations)
    let processor := (machine.after operations).processor
    (appearance.shownRegisters processor).map Datum.number? =
        (List.finRange 16).map
          (fun number => some (.integer (processor.register number))) ∧
      (appearance.shownDelay processor).number? =
        some (.integer processor.delayTimer) ∧
      (appearance.shownSound processor).number? =
        some (.integer processor.soundTimer) := by
  intro appearance processor
  have suits : appearance.Suits processor :=
    suits_afterTurns (suits_plain machine.processor) operations
  refine ⟨?_, number?_shown suits.delayTimer, number?_shown suits.soundTimer⟩
  rw [shownRegisters, List.map_map]
  exact List.map_congr_left fun number _ =>
    number?_shown (suits.registers number)

end Appearance

/-! ## Windows -/

namespace Window

open Appearance

/-- The notices between two windows keep appearances up to date. -/
def Shown (before after : Window) (notices : List Notice) : Prop :=
  ∀ appearance : Appearance, appearance.Suits before.machine.processor →
    (notices.foldl afterNotice appearance).Suits after.machine.processor

theorem Shown.trans
    {before between after : Window} {earlier later : List Notice}
    (first : before.Shown between earlier)
    (second : between.Shown after later) :
    before.Shown after (earlier ++ later) := by
  intro appearance suits
  rw [List.foldl_append]
  exact second _ (first appearance suits)

/-- Calls to the host say nothing about registers and timers. -/
theorem foldl_afterNotice_host
    (calls : List HostCall) (appearance : Appearance) :
    (calls.map .host).foldl afterNotice appearance = appearance := by
  induction calls with
  | nil => rfl
  | cons call rest inductionHypothesis => exact inductionHypothesis

theorem Shown.calls
    {before after : Window}
    (same : after.machine.processor = before.machine.processor)
    (calls : List HostCall) : before.Shown after (calls.map .host) := by
  intro appearance suits
  rw [foldl_afterNotice_host, same]
  exact suits

theorem Shown.done {before after : Window}
    (same : after.machine.processor = before.machine.processor) :
    before.Shown after [] :=
  .calls same []

theorem Shown.ofMachine
    {window : Window} {machine : Machine} {events : List Event}
    (told : ∀ appearance : Appearance,
      appearance.Suits window.machine.processor →
        (events.foldl afterEvent appearance).Suits machine.processor) :
    window.Shown { window with machine := machine } (events.map .machine) := by
  intro appearance suits
  rw [List.foldl_map]
  exact told appearance suits

/-- Nothing is told that is not done, also if the first part breaks off. -/
theorem Shown.andThen
    {window : Window} {outcome : WindowOutcome} {next : Window → WindowOutcome}
    (first : window.Shown outcome.window outcome.notices)
    (second : ∀ window : Window,
      window.Shown (next window).window (next window).notices) :
    window.Shown (outcome.andThen next).window
      (outcome.andThen next).notices := by
  unfold WindowOutcome.andThen
  split
  · exact first
  · exact first.trans (second outcome.window)

theorem shown_reload (window : Window) :
    window.Shown window.reload.window window.reload.notices := by
  intro appearance suits
  have loaded : window.Shown
      { window with machine := (window.machine.load window.rom).machine }
      ((window.machine.load window.rom).events.map .machine) := by
    refine .ofMachine fun appearance _ => ?_
    rw [afterEvents_load]
    exact suits_plain _
  exact loaded appearance suits

theorem shown_reportCode
    (window : Window) (code : KeyCode) (pressed : Bool) :
    window.Shown (window.reportCode code pressed).window
      (window.reportCode code pressed).notices := by
  unfold reportCode
  split
  · exact .done rfl
  · next key known =>
      intro appearance suits
      have reported := suits_reportCode suits code .null pressed
      simp only [Machine.reportCode, known] at reported
      rcases window.machine.processor.reportKey_cases key pressed with
        noted | ⟨register, -, -, answered⟩
      · simp only [Machine.reportKey, noted] at reported ⊢
        exact reported
      · simp only [Machine.reportKey, answered] at reported ⊢
        exact reported

theorem shown_receive (window : Window) (event : HostEvent) :
    window.Shown (window.receive event).window
      (window.receive event).notices := by
  have reported (name : Text) (pressed : Bool) :
      window.Shown (window.reportKey name pressed).window
        (window.reportKey name pressed).notices := by
    unfold reportKey
    split
    · exact window.shown_reportCode _ _
    · exact .done rfl
  cases event with
  | quit | other => exact .done rfl
  | keyDown name =>
      simp only [receive]
      by_cases escape : name = escapeKey
      · rw [if_pos escape]
        exact .done rfl
      · rw [if_neg escape]
        by_cases again : name = reloadKey
        · rw [if_pos again]
          exact window.shown_reload
        · rw [if_neg again]
          exact reported name true
  | keyUp name =>
      simp only [receive]
      by_cases escape : name = escapeKey
      · rw [if_pos escape]
        exact .done rfl
      · rw [if_neg escape]
        exact reported name false

theorem shown_receiveAll (window : Window) (events : List HostEvent) :
    window.Shown (window.receiveAll events).window
      (window.receiveAll events).notices := by
  induction events generalizing window with
  | nil =>
      exact .done rfl
  | cons event rest inductionHypothesis =>
      exact (window.shown_receive event).andThen inductionHypothesis

theorem shown_receiveBatch (window : Window) (batch : Batch) :
    window.Shown (window.receiveBatch batch).window
      (window.receiveBatch batch).notices := by
  cases batch with
  | events events => exact window.shown_receiveAll events
  | interruption => exact .done rfl

theorem shown_paint (window : Window) :
    window.Shown window.paint.window window.paint.notices := by
  unfold paint
  split
  · exact .calls rfl window.paintCalls
  · exact .done rfl

theorem shown_frame (window : Window) :
    window.Shown window.frame.window window.frame.notices := by
  have ticked : window.Shown
      (WindowOutcome.ofMachine window window.machine.frame).window
      (WindowOutcome.ofMachine window window.machine.frame).notices :=
    .ofMachine fun appearance suits => suits_frame suits
  refine ticked.andThen fun window => ?_
  exact window.shown_paint.andThen fun painted =>
    .calls rfl [.awaitFrame painted.settings.fps]

theorem shown_loop (window : Window) (batches : List Batch) :
    window.Shown (window.loop batches).window
      (window.loop batches).notices := by
  induction batches generalizing window with
  | nil =>
      exact window.shown_receiveBatch _
  | cons batch rest inductionHypothesis =>
      refine (window.shown_receiveBatch batch).andThen fun handled => ?_
      split
      · exact handled.shown_frame.andThen inductionHypothesis
      · exact .done rfl

/-- Whatever happens in a main loop, an appearance that its notices keep up to
date suits the processor that the loop leaves behind. -/
theorem suits_run
    {window : Window} {appearance : Appearance}
    (suits : appearance.Suits window.machine.processor)
    (batches : List Batch) :
    ((window.run batches).notices.foldl afterNotice appearance).Suits
      (window.run batches).window.machine.processor := by
  have looped :=
    shown_loop { window with isOpen := true } batches appearance suits
  simp only [run, List.foldl_append]
  exact looped

end Window

end Chip8

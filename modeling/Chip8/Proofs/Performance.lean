import Chip8.Observers
import Chip8.Operation
import Chip8.Proofs.Frame

/-!
# Work before observers

A machine that is watched tells its observers everything at the moment it does
it: a pixel change in the middle of a drawing, a word before it is carried out, a
call to the tone between the timers and the first instruction.

* `Performance` is a machine with its observers, and its operations are those of
  a machine with the telling in its place;
* `follow` does an operation first and tells its events afterwards, and
  `perform_eq` says that this comes to the same;
* so the machine goes through an operation as if nobody watched it
  (`machine_perform`), and answers as if nobody did (`answer_perform`).
-/

namespace Chip8

/-- A machine, its observers, and what they made of it so far. -/
structure Performance where
  machine : Machine
  observers : Observers
  effects : List Effect

namespace Performance

/-! ## Telling -/

/-- Tell the observers something. -/
def tell (stage : Performance) (event : Event) : Performance :=
  let (observers, effects) := stage.observers.observe (.machine event)
  { stage with observers := observers, effects := stage.effects ++ effects }

/-- Tell the observers some things one after the other. -/
def tellAll (stage : Performance) (events : List Event) : Performance :=
  events.foldl tell stage

/-- The performance with its machine changed behind the scenes. -/
def setMachine (stage : Performance) (machine : Machine) : Performance :=
  { stage with machine := machine }

def setProcessor (stage : Performance) (processor : Processor) : Performance :=
  stage.setMachine { stage.machine with processor := processor }

def setScreen (stage : Performance) (screen : Screen) : Performance :=
  stage.setMachine { stage.machine with screen := screen }

/-! ## The picture -/

/-- Turn over one pixel and tell so.  The flag notes whether a lit pixel was
switched off. -/
def toggle (state : Performance × Bool) (spot : Nat × Nat) :
    Performance × Bool :=
  let screen := state.1.machine.screen
  let number := Screen.place screen.width spot.1 spot.2
  let lit := screen.pixels.getD number false
  ((state.1.setScreen
      { screen with pixels := screen.pixels.setIfInBounds number (!lit) }).tell
        (.pixel ⟨spot.1, spot.2, !lit⟩),
    state.2 || lit)

/-- Draw a sprite with its corner at `x` and `y`. -/
def draw (stage : Performance) (sprite : List Int) (x y : Int) :
    Performance × Bool :=
  let (drawn, erased) :=
    (stage.machine.screen.hits sprite x y).foldl toggle (stage, false)
  (drawn.setScreen { drawn.machine.screen with dirty := true }, erased)

/-- Tell that a pixel goes dark, if it is lit. -/
def tellDark (stage : Performance) (number : Nat) : Performance :=
  let screen := stage.machine.screen
  if screen.pixels.getD number false then
    stage.tell (.pixel ⟨number % screen.width, number / screen.width, false⟩)
  else
    stage

/-- Tell of all lit pixels that they go dark, and switch them off. -/
def clear (stage : Performance) : Performance :=
  let told :=
    (List.range stage.machine.screen.pixels.size).foldl tellDark stage
  told.setScreen told.machine.screen.clear

/-! ## Instructions -/

/-- Carry out one instruction. -/
def execute (stage : Performance) (instruction : Instruction) :
    Performance × Except Fault Unit :=
  let processor := stage.machine.processor
  match instruction with
  | .clearScreen => (stage.clear, .ok ())
  | .draw x y height =>
      let sprite :=
        (processor.readRange processor.index height).map Int.ofNat
      let (drawn, erased) :=
        stage.draw sprite (processor.register x) (processor.register y)
      (drawn.setProcessor
        (processor.setRegister Processor.flagRegister (if erased then 1 else 0)),
        .ok ())
  | .random x mask =>
      (stage.setMachine
        (stage.machine.takeRandom x mask : Outcome Fault Unit).machine, .ok ())
  | .awaitKey x =>
      ((stage.setProcessor { processor with waiting := some x }).tell
        (.waiting x), .ok ())
  | other =>
      let attempt := processor.execute other
      (stage.setProcessor attempt.processor, attempt.result)

/-- Tell the word at the program counter, move past it and carry it out. -/
def step (stage : Performance) : Performance × Except Fault Unit :=
  let processor := stage.machine.processor
  let word := processor.nextWord
  let told := stage.tell (.executing processor.pc word)
  (told.setProcessor processor.advance).execute (.decode word)

/-! ## Frames -/

/-- Step `count` times, but end with a fault or as soon as the machine waits for a
key. -/
def cycles : Nat → Performance → Performance × Except Fault Unit
  | 0, stage => (stage, .ok ())
  | count + 1, stage =>
      match stage.step with
      | (next, .error fault) => (next, .error fault)
      | (next, .ok ()) =>
          if next.machine.isWaiting then (next, .ok ()) else cycles count next

/-- One frame: the timers, the tone, then the instructions. -/
def frame (stage : Performance) : Performance × Except Fault Unit :=
  if stage.machine.isWaiting then
    (stage.tell (.tone .stop), .ok ())
  else
    let counted :=
      (stage.setMachine stage.machine.countDown).tell .countedDown
    cycles stage.machine.speed (counted.tell (.tone stage.machine.frameTone))

/-! ## Starting over -/

/-- Start over with the memory kept. -/
def reset (stage : Performance) : Performance :=
  (((stage.setProcessor stage.machine.processor.reset).clear).tell
    (.tone .stop)).tell .wasReset

/-- Start over and put a program into memory, if it fits. -/
def load (stage : Performance) (program : List UInt8) :
    Performance × Except Fault Unit :=
  let restarted := stage.reset
  let attempt := restarted.machine.processor.load program
  let loaded := restarted.setProcessor attempt.processor
  match attempt.result with
  | .ok () =>
      ((loaded.tell (.stored program.length)).tell (.loaded program.length),
        .ok ())
  | .error fault => (loaded, .error fault)

/-! ## Operations -/

/-- Record that a key went down or up. -/
def reportKey (stage : Performance) (key : Key) (pressed : Bool) :
    Performance × Option RegisterWrite :=
  let (processor, write) := stage.machine.processor.reportKey key pressed
  let noted := stage.setProcessor processor
  match write with
  | some write => (noted.tell (.resumed write), some write)
  | none => (noted, none)

/-- What an operation that answers nothing answers. -/
def silent (done : Performance × Except Fault Unit) :
    Performance × Except OperationError Answer :=
  (done.1, match done.2 with
    | .ok () => .ok .nothing
    | .error fault => .error (.fault fault))

/-- Carry out an operation before the observers.  What only looks at the machine,
or changes it from outside, tells them nothing. -/
def perform (stage : Performance) (operation : Operation) :
    Performance × Except OperationError Answer :=
  match operation with
  | .step => silent stage.step
  | .frame => silent stage.frame
  | .execute opcode => silent (stage.execute (.decode opcode))
  | .reset => (stage.reset, .ok .nothing)
  | .load program => silent (stage.load program)
  | .loadFile files path =>
      match files.read path with
      | .ok program => silent (stage.load program)
      | .error reason => (stage, .error (.file reason))
  | .reportKey code pressed =>
      match KeyCode.ofDatum code with
      | .error reason => (stage, .error (.keyCode reason))
      | .ok code =>
          match code.key? with
          | none => (stage, .error .fractionalKey)
          | some key =>
              let (noted, write) := stage.reportKey key pressed
              (noted, .ok (match write with
                | some write => .write write.register code
                | none => .nothing))
  | .loadMemory program =>
      let attempt := stage.machine.processor.load program
      let loaded := stage.setProcessor attempt.processor
      match attempt.result with
      | .ok () => (loaded.tell (.stored program.length), .ok .nothing)
      | .error fault => (loaded, .error (.fault fault))
  | .draw sprite x y =>
      let (drawn, erased) := stage.draw sprite x y
      (drawn, .ok (.flag erased))
  | .clearScreen => (stage.clear, .ok .nothing)
  | other =>
      let outcome := stage.machine.apply other
      (stage.setMachine outcome.machine, outcome.result)

/-! ## Telling afterwards -/

section Telling

variable (stage : Performance)

/-- Do an operation first, and tell its events afterwards. -/
def follow {ε α : Type} (outcome : Outcome ε α) : Performance × Except ε α :=
  ((stage.setMachine outcome.machine).tellAll outcome.events, outcome.result)

@[simp]
theorem tellAll_nil : stage.tellAll [] = stage := rfl

@[simp]
theorem tellAll_cons (event : Event) (rest : List Event) :
    stage.tellAll (event :: rest) = (stage.tell event).tellAll rest := rfl

theorem tellAll_append (earlier later : List Event) :
    stage.tellAll (earlier ++ later) =
      (stage.tellAll earlier).tellAll later :=
  List.foldl_append

/-- Telling changes the observers only. -/
theorem tellAll_eq (events : List Event) :
    stage.tellAll events =
      ⟨stage.machine,
        (stage.observers.observeAll (events.map .machine)).1,
        stage.effects ++
          (stage.observers.observeAll (events.map .machine)).2⟩ := by
  induction events generalizing stage with
  | nil =>
      simp
  | cons event rest inductionHypothesis =>
      rw [tellAll_cons, inductionHypothesis, List.map_cons,
        Observers.observeAll_cons]
      simp only [tell, List.append_assoc]

@[simp]
theorem machine_tellAll (events : List Event) :
    (stage.tellAll events).machine = stage.machine := by
  rw [tellAll_eq]

@[simp]
theorem machine_setMachine (machine : Machine) :
    (stage.setMachine machine).machine = machine := rfl

theorem setMachine_tellAll (machine : Machine) (events : List Event) :
    (stage.tellAll events).setMachine machine =
      (stage.setMachine machine).tellAll events := by
  rw [tellAll_eq, tellAll_eq]
  rfl

/-- What is told later may be told together with what was told before. -/
theorem follow_tellAll
    {ε α : Type} (machine : Machine) (events : List Event)
    (outcome : Outcome ε α) :
    ((stage.setMachine machine).tellAll events).follow outcome =
      stage.follow { outcome with events := events ++ outcome.events } := by
  simp only [follow, setMachine_tellAll, tellAll_append]
  rfl

end Telling

/-! ## Operations told afterwards -/

section Following

variable (stage : Performance)

/-- A drawing so far, told so far. -/
def tellBlit (blit : Screen.Blit) : Performance × Bool :=
  ((stage.setScreen { stage.machine.screen with pixels := blit.pixels }).tellAll
      (blit.changes.reverse.map .pixel),
    blit.erased)

theorem toggle_tellBlit (blit : Screen.Blit) (spot : Nat × Nat) :
    toggle (stage.tellBlit blit) spot =
      stage.tellBlit (blit.toggle stage.machine.screen.width spot) := by
  simp only [toggle, tellBlit, Screen.Blit.toggle, machine_tellAll, setScreen,
    machine_setMachine, setMachine_tellAll, List.reverse_cons, List.map_append,
    tellAll_append]
  rfl

theorem draw_eq (sprite : List Int) (x y : Int) :
    let drawing := stage.machine.screen.draw sprite x y
    stage.draw sprite x y =
      ((stage.setScreen drawing.screen).tellAll (drawing.changes.map .pixel),
        drawing.erased) := by
  let start : Screen.Blit := ⟨stage.machine.screen.pixels, false, []⟩
  have told :
      (stage.machine.screen.hits sprite x y).foldl toggle
          (stage.tellBlit start) =
        stage.tellBlit (stage.machine.screen.blit sprite x y) :=
    List.foldl_hom stage.tellBlit stage.toggle_tellBlit
  have untold : stage.tellBlit start = (stage, false) := rfl
  rw [untold] at told
  simp only [draw, told, tellBlit, setScreen, machine_tellAll,
    machine_setMachine, setMachine_tellAll]
  rfl

theorem clear_eq :
    stage.clear =
      (stage.setScreen stage.machine.screen.clear).tellAll
        (stage.machine.screen.clearChanges.map .pixel) := by
  have told (numbers : List Nat) (current : Performance)
      (same : current.machine = stage.machine) :
      numbers.foldl tellDark current =
        current.tellAll ((numbers.filterMap fun number =>
          if stage.machine.screen.pixels.getD number false then
            some ⟨number % stage.machine.screen.width,
              number / stage.machine.screen.width, false⟩
          else none).map .pixel) := by
    induction numbers generalizing current with
    | nil =>
        rfl
    | cons number rest inductionHypothesis =>
        rw [List.foldl_cons, tellDark, same, List.filterMap_cons]
        split
        · exact inductionHypothesis _ same
        · exact inductionHypothesis current same
  simp only [clear, told _ stage rfl, machine_tellAll, setScreen,
    setMachine_tellAll]
  rfl

theorem execute_eq (instruction : Instruction) :
    stage.execute instruction =
      stage.follow (stage.machine.execute instruction) := by
  cases instruction with
  | clearScreen =>
      simp only [execute, clear_eq]
      rfl
  | draw x y height =>
      simp only [execute, draw_eq, setProcessor, setScreen, machine_tellAll,
        setMachine_tellAll]
      rfl
  | random x mask | awaitKey x => rfl
  | _ => rfl

theorem step_eq : stage.step = stage.follow stage.machine.step := by
  simp only [step, execute_eq]
  rfl

theorem cycles_eq (count : Nat) :
    cycles count stage =
      stage.follow (Machine.cycles count stage.machine []) := by
  induction count generalizing stage with
  | zero =>
      rfl
  | succ count inductionHypothesis =>
      simp only [cycles, Machine.cycles, step_eq, follow]
      cases stage.machine.step.result with
      | error fault =>
          simp [List.reverseAux_eq]
      | ok _ =>
          by_cases waits : stage.machine.step.machine.isWaiting = true
          · simp [waits, List.reverseAux_eq]
          · simp only [waits, Bool.false_eq_true, if_false, inductionHypothesis,
              machine_tellAll, machine_setMachine, follow_tellAll]
            rw [Machine.cycles_eq _ _ (List.reverseAux _ _)]
            simp [follow, List.reverseAux_eq]

theorem frame_eq : stage.frame = stage.follow stage.machine.frame := by
  unfold frame Machine.frame
  split
  · rfl
  · rw [cycles_eq, Machine.cycles_eq _ _ [_, _]]
    rfl

theorem reset_eq :
    stage.reset =
      (stage.follow (stage.machine.reset : Outcome Fault Unit)).1 := by
  simp only [reset, clear_eq, follow, Machine.reset, tellAll_append]
  rfl

theorem load_eq (program : List UInt8) :
    stage.load program = stage.follow (stage.machine.load program) := by
  have sameMachine : stage.reset.machine =
      (stage.machine.reset : Outcome Fault Unit).machine := by
    rw [reset_eq]
    exact machine_tellAll _ _
  simp only [load, Machine.load, Attempt.publish, sameMachine]
  generalize (stage.machine.reset : Outcome Fault Unit).machine.processor.load
    program = attempt
  obtain ⟨loaded, result⟩ := attempt
  cases result with
  | error fault =>
      simp only [reset_eq, follow, setProcessor, setMachine_tellAll,
        tellAll_append, machine_tellAll]
      rfl
  | ok _ =>
      simp only [reset_eq, follow, setProcessor, setMachine_tellAll,
        tellAll_append, machine_tellAll]
      rfl

theorem reportKey_eq (key : Key) (pressed : Bool) :
    stage.reportKey key pressed =
      ((stage.follow (stage.machine.reportKey key pressed :
        Outcome Fault (Option RegisterWrite))).1,
        (stage.machine.processor.reportKey key pressed).2) := by
  simp only [reportKey, Machine.reportKey, follow]
  cases (stage.machine.processor.reportKey key pressed).2 <;> rfl

/-- Telling in the middle of an operation comes to the same as telling
afterwards. -/
theorem perform_eq (operation : Operation) :
    stage.perform operation =
      stage.follow (stage.machine.apply operation) := by
  have quiet (done : Outcome Fault Unit) :
      silent (stage.follow done) = stage.follow (Machine.silent done) := rfl
  cases operation with
  | step => simp only [perform, step_eq, quiet, Machine.apply]
  | frame => simp only [perform, frame_eq, quiet, Machine.apply]
  | execute opcode =>
      simp only [perform, execute_eq, quiet, Machine.apply]
      rfl
  | reset =>
      simp only [perform, reset_eq]
      rfl
  | load program => simp only [perform, load_eq, quiet, Machine.apply]
  | loadFile files path =>
      simp only [perform, Machine.apply]
      cases files.read path with
      | ok program => simp only [load_eq, quiet]
      | error reason => rfl
  | reportKey code pressed =>
      simp only [perform, Machine.apply]
      cases KeyCode.ofDatum code with
      | error reason => rfl
      | ok code =>
          simp only [Machine.reportCode]
          cases code.key? with
          | none => rfl
          | some key =>
              simp only [reportKey_eq]
              cases written :
                (stage.machine.processor.reportKey key pressed).2 <;>
                simp [follow, Machine.reportKey, written, Except.map]
  | loadMemory program =>
      simp only [perform, Machine.apply, Machine.loadMemory, Machine.settle,
        Attempt.publish, follow]
      cases (stage.machine.processor.load program).result <;> rfl
  | draw sprite x y =>
      simp only [perform, draw_eq]
      rfl
  | clearScreen =>
      simp only [perform, clear_eq]
      rfl
  | setSpeed value =>
      simp only [perform, follow, Machine.apply]
      cases speedOf value <;> rfl
  | _ => rfl

/-- The machine goes through an operation as if nobody watched it. -/
theorem machine_perform (operation : Operation) :
    (stage.perform operation).1.machine =
      (stage.machine.apply operation).machine := by
  rw [perform_eq]
  exact machine_tellAll _ _

/-- An operation answers as if nobody watched it. -/
theorem answer_perform (operation : Operation) :
    (stage.perform operation).2 = (stage.machine.apply operation).result := by
  rw [perform_eq]
  rfl

end Following

end Performance

end Chip8

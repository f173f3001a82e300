import Chip8.Event
import Chip8.Execution
import Chip8.Random

/-!
# The machine

A machine is a processor, a screen, a source of random bytes and a speed, the
number of instructions in one frame.

* `executeWord` carries out the instruction that an integer names.
* `step` reads the word at the program counter, moves the program counter past
  it and carries it out.
* `frame` counts the timers down, calls the tone, and steps `speed` times,
  unless a key wait or a fault ends the frame earlier.

Every operation answers with the machine it leaves behind, also when it
fails, and with the events it published.
-/

namespace Chip8

/-- A processor, a screen, a source of random bytes and a speed. -/
structure Machine where
  processor : Processor
  screen : Screen
  random : RandomSource
  speed : Nat

/-- What an operation leaves behind: the machine, the events it published in
order, and its result. -/
structure Outcome (ε α : Type) where
  machine : Machine
  events : List Event
  result : Except ε α

/-- What an operation on the processor publishes: nothing after a fault. -/
def Attempt.publish {α : Type} (attempt : Attempt α) (events : List Event) :
    List Event :=
  match attempt.result with
  | .ok _ => events
  | .error _ => []

/-- The number of instructions in one frame if nobody chooses another. -/
def defaultSpeed : Nat := 10

namespace Machine

/-- A machine that was just switched on. -/
def fresh (screen : Screen) (random : RandomSource) (speed : Nat) :
    Machine where
  processor := Processor.fresh
  screen := screen
  random := random
  speed := speed

/-- Whether execution is held until a key is pressed. -/
def isWaiting (machine : Machine) : Bool :=
  machine.processor.isWaiting

/-! ## Instructions -/

variable {ε : Type}

/-- Switch every pixel off. -/
def clearScreen (machine : Machine) : Outcome ε Unit :=
  ⟨{ machine with screen := machine.screen.clear },
    machine.screen.clearChanges.map .pixel, .ok ()⟩

/-- Draw a sprite of `height` rows from memory at the index and note in the
flag register whether a lit pixel was switched off. -/
def drawSprite (machine : Machine) (x y : Register) (height : Nat) :
    Outcome ε Unit :=
  let processor := machine.processor
  let sprite := (processor.readRange processor.index height).map Int.ofNat
  let drawing :=
    machine.screen.draw sprite (processor.register x) (processor.register y)
  let flag := if drawing.erased then 1 else 0
  ⟨{ machine with
      processor := processor.setRegister Processor.flagRegister flag
      screen := drawing.screen },
    drawing.changes.map .pixel, .ok ()⟩

/-- Put the common bits of a random byte and a mask into a register. -/
def takeRandom (machine : Machine) (x : Register) (mask : Nat) :
    Outcome ε Unit :=
  ⟨{ machine with
      processor :=
        machine.processor.setRegister x (machine.random.byte &&& mask)
      random := machine.random.advance },
    [], .ok ()⟩

/-- The event that an instruction of the processor alone publishes: the
beginning of a key wait. -/
def processorEvents : Instruction → List Event
  | .awaitKey register => [.waiting register]
  | _ => []

/-- Carry out one instruction. -/
def execute (machine : Machine) (instruction : Instruction) :
    Outcome Fault Unit :=
  match instruction with
  | .clearScreen => machine.clearScreen
  | .draw x y height => machine.drawSprite x y height
  | .random x mask => machine.takeRandom x mask
  | other =>
      let attempt := machine.processor.execute other
      ⟨{ machine with processor := attempt.processor },
        processorEvents other, attempt.result⟩

/-- Carry out the instruction that an integer names. -/
def executeWord (machine : Machine) (opcode : Int) : Outcome Fault Unit :=
  machine.execute (.decode opcode)

/-- Read the word at the program counter, move past it and carry it out. -/
def step (machine : Machine) : Outcome Fault Unit :=
  let word := machine.processor.nextWord
  let moved := { machine with processor := machine.processor.advance }
  let outcome := moved.executeWord word
  { outcome with
    events := .executing machine.processor.pc word :: outcome.events }

/-! ## Frames -/

/-- Step `count` times, but end with a fault or as soon as the machine waits
for a key.  `published` holds the events so far, the latest first. -/
def cycles : Nat → Machine → List Event → Outcome Fault Unit
  | 0, machine, published => ⟨machine, published.reverse, .ok ()⟩
  | count + 1, machine, published =>
      let outcome := machine.step
      let published := outcome.events.reverseAux published
      match outcome.result with
      | .error fault => ⟨outcome.machine, published.reverse, .error fault⟩
      | .ok () =>
          if outcome.machine.isWaiting then
            ⟨outcome.machine, published.reverse, .ok ()⟩
          else
            cycles count outcome.machine published

/-- The events that were published before come first, and nothing else depends
on them. -/
theorem cycles_eq
    (count : Nat) (machine : Machine) (published : List Event) :
    cycles count machine published =
      { cycles count machine [] with
        events := published.reverse ++ (cycles count machine []).events } := by
  induction count generalizing machine published with
  | zero =>
      simp [cycles]
  | succ count inductionHypothesis =>
      simp only [cycles]
      generalize machine.step = outcome
      obtain ⟨next, events, result⟩ := outcome
      cases result with
      | error fault =>
          simp [List.reverseAux_eq]
      | ok _ =>
          by_cases waits : next.isWaiting = true
          · simp [waits, List.reverseAux_eq]
          · simp only [waits, Bool.false_eq_true, if_false]
            rw [inductionHypothesis next (events.reverseAux published),
              inductionHypothesis next (events.reverseAux [])]
            simp [List.reverseAux_eq]

/-- Count both timers down by one, if they are not at zero. -/
def countDown (machine : Machine) : Machine :=
  { machine with
    processor := { machine.processor with
      delayTimer := machine.processor.delayTimer - 1
      soundTimer := machine.processor.soundTimer - 1 } }

/-- The call that a frame makes to the tone: it sounds while the sound timer
runs. -/
def frameTone (machine : Machine) : ToneCall :=
  if machine.processor.soundTimer > 0 then .play else .stop

/-- One frame: the timers, the tone, then `speed` steps.  A machine that waits
for a key only silences the tone. -/
def frame (machine : Machine) : Outcome Fault Unit :=
  if machine.isWaiting then
    ⟨machine, [.tone .stop], .ok ()⟩
  else
    cycles machine.speed machine.countDown
      [.tone machine.frameTone, .countedDown]

/-! ## Starting over -/

/-- Start over with the memory kept. -/
def reset (machine : Machine) : Outcome ε Unit :=
  ⟨{ machine with
      processor := machine.processor.reset
      screen := machine.screen.clear },
    machine.screen.clearChanges.map .pixel ++ [.tone .stop, .wasReset],
    .ok ()⟩

/-- Start over and put a program into memory, if it fits. -/
def load (machine : Machine) (program : List UInt8) : Outcome Fault Unit :=
  let restarted : Outcome Fault Unit := machine.reset
  let attempt := restarted.machine.processor.load program
  ⟨{ restarted.machine with processor := attempt.processor },
    restarted.events ++
      attempt.publish [.stored program.length, .loaded program.length],
    attempt.result⟩

/-! ## Keys -/

/-- Record that a key went down or up. -/
def reportKey (machine : Machine) (key : Key) (pressed : Bool) :
    Outcome ε (Option RegisterWrite) :=
  let (processor, write) := machine.processor.reportKey key pressed
  ⟨{ machine with processor := processor },
    write.toList.map .resumed, .ok write⟩

end Machine

end Chip8

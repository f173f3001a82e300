import Chip8.Proofs.Frame
import Chip8.Proofs.Pixels
import Chip8.Proofs.Ranges

/-!
# Well-formed machines

Every operation keeps a machine well-formed, and none of them reaches for
something that is not there.

* `Machine.WellFormed` says that all numbers of a machine are in range and that
  its picture has as many pixels as its size asks for;
* `Outcome.Safe` says that an operation leaves a well-formed machine behind,
  completed or not, and that it changes listed pixels only;
* `Operation.MayRefuse` lists the reasons for which an operation may be refused;
* `wellFormed_of_fresh` says all of this of every run of a fresh machine.
-/

namespace Chip8

/-- All numbers of a machine are in range, its picture has the size asked for,
and it steps at least once in a frame. -/
structure Machine.WellFormed (width height : Nat) (machine : Machine) :
    Prop where
  processor : machine.processor.WellFormed
  screen : machine.screen.Sized width height
  speed : 1 ≤ machine.speed

/-- An operation leaves a well-formed machine behind and changes pixels of its
picture only. -/
structure Outcome.Safe {ε α : Type} (width height : Nat)
    (outcome : Outcome ε α) : Prop where
  machine : outcome.machine.WellFormed width height
  changes : ∀ change : PixelChange,
    .pixel change ∈ outcome.events → change.Inside width height

namespace Machine.WellFormed

variable {ε : Type} {width height : Nat} {machine : Machine}

theorem withProcessor
    (wellFormed : machine.WellFormed width height) {processor : Processor}
    (inRange : processor.WellFormed) :
    { machine with processor := processor }.WellFormed width height :=
  { wellFormed with processor := inRange }

/-- An outcome without pixel changes is safe if the machine is well-formed. -/
theorem safe_of_quiet
    {α : Type} {outcome : Outcome ε α}
    (wellFormed : outcome.machine.WellFormed width height)
    (quiet : ∀ change : PixelChange, .pixel change ∉ outcome.events) :
    outcome.Safe width height where
  machine := wellFormed
  changes := fun change member => absurd member (quiet change)

/-! ## Instructions -/

theorem safe_clearScreen (wellFormed : machine.WellFormed width height) :
    (machine.clearScreen : Outcome ε Unit).Safe width height where
  machine := { wellFormed with screen := wellFormed.screen.clear }
  changes := by
    intro change member
    simp only [clearScreen, List.mem_map, Event.pixel.injEq,
      exists_eq_right] at member
    exact wellFormed.screen.clearChanges_inside member

theorem safe_drawSprite
    (wellFormed : machine.WellFormed width height)
    (x y : Register) (rows : Nat) :
    (machine.drawSprite x y rows : Outcome ε Unit).Safe width height where
  machine :=
    { wellFormed with
      processor := wellFormed.processor.setRegister _ (by split <;> decide)
      screen := wellFormed.screen.draw _ _ _ }
  changes := by
    intro change member
    simp only [drawSprite, List.mem_map, Event.pixel.injEq,
      exists_eq_right] at member
    exact wellFormed.screen.changes_draw member

theorem safe_takeRandom
    (wellFormed : machine.WellFormed width height)
    (x : Register) (mask : Nat) :
    (machine.takeRandom x mask : Outcome ε Unit).Safe width height := by
  have byte : machine.random.byte &&& mask < 256 :=
    Nat.lt_of_le_of_lt Nat.and_le_left (Nat.mod_lt _ (by decide))
  exact safe_of_quiet
    { wellFormed with processor := wellFormed.processor.setRegister x byte }
    (fun _ => List.not_mem_nil)

/-- A bounded instruction is safe, also when it fails. -/
theorem safe_execute
    (wellFormed : machine.WellFormed width height)
    {instruction : Instruction} (bounded : instruction.Bounded) :
    (machine.execute instruction).Safe width height := by
  unfold execute
  split
  · exact wellFormed.safe_clearScreen
  · exact wellFormed.safe_drawSprite _ _ _
  · exact wellFormed.safe_takeRandom _ _
  · refine safe_of_quiet (wellFormed.withProcessor
      (wellFormed.processor.execute bounded)) ?_
    intro change
    unfold processorEvents
    split <;> simp

theorem safe_executeWord
    (wellFormed : machine.WellFormed width height) (opcode : Int) :
    (machine.executeWord opcode).Safe width height :=
  wellFormed.safe_execute (Instruction.bounded_decode opcode)

theorem safe_step (wellFormed : machine.WellFormed width height) :
    machine.step.Safe width height := by
  have moved : machine.advance.WellFormed width height :=
    wellFormed.withProcessor wellFormed.processor.advance
  obtain ⟨kept, changes⟩ := moved.safe_executeWord machine.processor.nextWord
  refine ⟨kept, ?_⟩
  intro change member
  rcases List.mem_cons.mp member with announced | published
  · contradiction
  · exact changes change published

/-! ## Frames -/

theorem countDown (wellFormed : machine.WellFormed width height) :
    machine.countDown.WellFormed width height := by
  have delay := wellFormed.processor.delayTimer
  have sound := wellFormed.processor.soundTimer
  refine wellFormed.withProcessor { wellFormed.processor with
    delayTimer := ?_
    soundTimer := ?_ }
  · exact Nat.lt_of_le_of_lt (Nat.sub_le _ 1) delay
  · exact Nat.lt_of_le_of_lt (Nat.sub_le _ 1) sound

theorem safe_cycles
    (wellFormed : machine.WellFormed width height) (count : Nat)
    {published : List Event}
    (quiet : ∀ change : PixelChange, .pixel change ∉ published) :
    (cycles count machine published).Safe width height := by
  have kept : ∀ machine : Machine, True →
      machine.WellFormed width height →
      machine.step.machine.WellFormed width height :=
    fun _ _ before => before.safe_step.machine
  have all : ∀ fetch ∈ cycleFetches count machine, True := fun _ _ => trivial
  obtain ⟨found, left⟩ := invariant_cycles kept published wellFormed all
  refine ⟨left, ?_⟩
  intro change member
  rw [events_cycles] at member
  rcases List.mem_append.mp member with before | during
  · exact absurd (List.mem_reverse.mp before) (quiet change)
  · obtain ⟨fetch, fetched, stepped⟩ := List.mem_flatMap.mp during
    exact (found fetch fetched).safe_step.changes change stepped

theorem safe_frame (wellFormed : machine.WellFormed width height) :
    machine.frame.Safe width height := by
  unfold frame
  split
  · exact safe_of_quiet wellFormed (by simp)
  · exact wellFormed.countDown.safe_cycles _ (by simp)

/-! ## Starting over -/

theorem safe_reset (wellFormed : machine.WellFormed width height) :
    (machine.reset : Outcome ε Unit).Safe width height where
  machine :=
    { wellFormed with
      processor := .starting wellFormed.processor.memory
      screen := wellFormed.screen.clear }
  changes := by
    intro change member
    simp only [reset, List.mem_append, List.mem_map, Event.pixel.injEq,
      exists_eq_right, List.mem_cons, reduceCtorEq, List.not_mem_nil,
      or_false] at member
    exact wellFormed.screen.clearChanges_inside member

/-- A program that does not fit leaves a machine behind that started over. -/
theorem safe_load
    (wellFormed : machine.WellFormed width height) (program : List UInt8) :
    (machine.load program).Safe width height := by
  obtain ⟨restarted, changes⟩ :=
    (wellFormed.safe_reset : (machine.reset : Outcome Fault Unit).Safe _ _)
  refine ⟨restarted.withProcessor (restarted.processor.load program), ?_⟩
  intro change member
  rcases List.mem_append.mp member with before | after
  · exact changes change before
  · unfold Attempt.publish at after
    split at after
    · simp at after
    · contradiction

/-! ## Operations -/

theorem speedOf_pos
    {value : Datum} {speed : Nat} (accepted : speedOf value = .ok speed) :
    1 ≤ speed := by
  unfold speedOf at accepted
  split at accepted
  · contradiction
  · split at accepted
    · contradiction
    · next positive =>
        cases accepted
        omega

theorem safe_silent
    {outcome : Outcome Fault Unit} (safe : outcome.Safe width height) :
    (silent outcome).Safe width height :=
  ⟨safe.machine, safe.changes⟩

theorem safe_become
    (wellFormed : machine.WellFormed width height) {processor : Processor}
    (inRange : processor.WellFormed) (answer : Answer) :
    (machine.become processor answer).Safe width height :=
  safe_of_quiet (wellFormed.withProcessor inRange) fun _ => List.not_mem_nil

theorem safe_settle
    {α : Type} (wellFormed : machine.WellFormed width height)
    {attempt : Attempt α} (inRange : attempt.processor.WellFormed)
    (answer : α → Answer) :
    (machine.settle attempt answer).Safe width height :=
  safe_of_quiet (wellFormed.withProcessor inRange) fun _ => List.not_mem_nil

theorem safe_answer
    (wellFormed : machine.WellFormed width height) (answer : Answer) :
    (machine.answer answer).Safe width height :=
  safe_of_quiet wellFormed fun _ => List.not_mem_nil

theorem safe_refuse
    (wellFormed : machine.WellFormed width height) (reason : OperationError) :
    (machine.refuse reason).Safe width height :=
  safe_of_quiet wellFormed fun _ => List.not_mem_nil

theorem safe_reportCode
    (wellFormed : machine.WellFormed width height)
    (code : KeyCode) (pressed : Bool) :
    (machine.reportCode code pressed).Safe width height := by
  unfold reportCode
  split
  · exact wellFormed.safe_refuse _
  · next key _ =>
      refine safe_of_quiet
        (wellFormed.withProcessor (wellFormed.processor.reportKey key pressed))
        ?_
      simp [Machine.reportKey]

theorem safe_loadMemory
    (wellFormed : machine.WellFormed width height) (program : List UInt8) :
    (machine.loadMemory program).Safe width height := by
  refine safe_of_quiet
    (wellFormed.withProcessor (wellFormed.processor.load program)) ?_
  intro change
  simp only [loadMemory, Attempt.publish]
  split <;> simp

/-- Every operation is safe, as long as nobody pushes a number that is no
address. -/
theorem safe_apply
    (wellFormed : machine.WellFormed width height) {operation : Operation}
    (addresses : ∀ address, operation = .push address → IsWord address) :
    (machine.apply operation).Safe width height := by
  cases operation with
  | step => exact safe_silent wellFormed.safe_step
  | frame => exact safe_silent wellFormed.safe_frame
  | execute opcode => exact safe_silent (wellFormed.safe_executeWord opcode)
  | nextWord | isWaiting | read _ | readRange _ _ | isLit _ _ =>
      exact wellFormed.safe_answer _
  | reset => exact safe_silent wellFormed.safe_reset
  | load program => exact safe_silent (wellFormed.safe_load program)
  | loadFile files path =>
      simp only [apply]
      split
      · exact safe_silent (wellFormed.safe_load _)
      · exact wellFormed.safe_refuse _
  | reportKey code pressed =>
      simp only [apply]
      split
      · exact wellFormed.safe_reportCode _ _
      · exact wellFormed.safe_refuse _
  | setSpeed value =>
      simp only [apply]
      split
      · next speed accepted =>
          exact safe_of_quiet
            { wellFormed with speed := speedOf_pos accepted }
            fun _ => List.not_mem_nil
      · exact wellFormed.safe_refuse _
  | resetProcessor =>
      exact wellFormed.safe_become (.starting wellFormed.processor.memory) _
  | loadMemory program => exact wellFormed.safe_loadMemory program
  | write address value =>
      exact wellFormed.safe_become (wellFormed.processor.write _ _) _
  | push address =>
      exact wellFormed.safe_settle
        (wellFormed.processor.push (addresses address rfl)) _
  | pop => exact wellFormed.safe_settle wellFormed.processor.pop _
  | draw sprite x y =>
      refine ⟨{ wellFormed with screen := wellFormed.screen.draw _ _ _ }, ?_⟩
      intro change member
      simp only [apply, List.mem_map, Event.pixel.injEq,
        exists_eq_right] at member
      exact wellFormed.screen.changes_draw member
  | clearScreen => exact safe_silent wellFormed.safe_clearScreen
  | clean =>
      exact safe_of_quiet
        { wellFormed with screen := { wellFormed.screen with } }
        fun _ => List.not_mem_nil

end Machine.WellFormed

/-! ## Refusals -/

/-- The operations of a host that knows only numbers, programs and keys: any
numbers at all may be carried out, written, drawn or reported. -/
inductive Operation.Driving : Operation → Prop where
  | step : Driving .step
  | frame : Driving .frame
  | execute (opcode : Int) : Driving (.execute opcode)
  | reportKey (code : Int) (pressed : Bool) :
      Driving (.reportKey (.integer code) pressed)
  | reset : Driving .reset
  | load (program : List UInt8) : Driving (.load program)
  | write (address value : Int) : Driving (.write address value)
  | draw (sprite : List Int) (x y : Int) : Driving (.draw sprite x y)
  | clearScreen : Driving .clearScreen
  | setSpeed (value : Int) : Driving (.setSpeed (.integer value))

/-- The reasons for which an operation may be refused: instructions fail on the
return stack only, a program may be too long, and numbers of keys and speeds are
checked. -/
def Operation.MayRefuse : Operation → OperationError → Prop
  | .step, .fault fault | .frame, .fault fault | .execute _, .fault fault =>
      fault = .stackOverflow ∨ fault = .stackUnderflow
  | .load program, .fault fault =>
      programCapacity < program.length ∧
        fault = .programTooLarge program.length programCapacity
  | .reportKey (.integer code) _, .keyCode reason =>
      ¬(0 ≤ code ∧ code < 16) ∧ reason = .outOfRange (.integer code)
  | .setSpeed (.integer value), .speed reason =>
      value < 1 ∧ reason = .notPositive (.integer value)
  | _, _ => False

namespace Machine

/-- Instructions fail on the return stack only. -/
theorem fault_execute
    {machine : Machine} {instruction : Instruction} {fault : Fault}
    (failed : (machine.execute instruction).result = .error fault) :
    fault = .stackOverflow ∨ fault = .stackUnderflow := by
  rw [result_execute_eq_error_iff,
    Processor.result_execute_eq_error_iff] at failed
  rcases failed with ⟨_, _, overflow⟩ | ⟨_, _, underflow⟩
  · exact .inl overflow
  · exact .inr underflow

theorem fault_cycles
    {count : Nat} {machine : Machine} {published : List Event} {fault : Fault}
    (failed : (cycles count machine published).result = .error fault) :
    fault = .stackOverflow ∨ fault = .stackUnderflow := by
  induction count generalizing machine published with
  | zero =>
      contradiction
  | succ count inductionHypothesis =>
      simp only [cycles] at failed
      split at failed
      · next reason stepFailed =>
          cases failed
          exact fault_execute stepFailed
      · split at failed
        · contradiction
        · exact inductionHypothesis failed

theorem fault_load
    {machine : Machine} {program : List UInt8} {fault : Fault}
    (failed : (machine.load program).result = .error fault) :
    programCapacity < program.length ∧
      fault = .programTooLarge program.length programCapacity := by
  simp only [load, Processor.load] at failed
  split at failed
  · contradiction
  · next notShort =>
      cases failed
      exact ⟨Nat.lt_of_not_le notShort, rfl⟩

theorem fault_of_silent
    {outcome : Outcome Fault Unit} {reason : OperationError}
    (refused : (silent outcome).result = .error reason) :
    ∃ fault, reason = .fault fault ∧ outcome.result = .error fault := by
  simp only [silent] at refused
  split at refused
  · contradiction
  · next fault failed =>
      cases refused
      exact ⟨fault, rfl, failed⟩

/-- Operations are refused for the listed reasons only. -/
theorem mayRefuse_of_apply
    {machine : Machine} {operation : Operation} {reason : OperationError}
    (driving : operation.Driving)
    (refused : (machine.apply operation).result = .error reason) :
    operation.MayRefuse reason := by
  cases driving with
  | step =>
      obtain ⟨fault, rfl, failed⟩ := fault_of_silent refused
      exact fault_execute failed
  | frame =>
      obtain ⟨fault, rfl, failed⟩ := fault_of_silent refused
      unfold frame at failed
      split at failed
      · contradiction
      · exact fault_cycles failed
  | execute opcode =>
      obtain ⟨fault, rfl, failed⟩ := fault_of_silent refused
      exact fault_execute failed
  | reset =>
      obtain ⟨fault, rfl, failed⟩ := fault_of_silent refused
      contradiction
  | load program =>
      obtain ⟨fault, rfl, failed⟩ := fault_of_silent refused
      exact fault_load failed
  | reportKey code pressed =>
      by_cases known : 0 ≤ code ∧ code < 16
      · obtain ⟨key, equality⟩ := Operation.exists_key known pressed
        rw [equality, apply_key] at refused
        contradiction
      · simp only [apply, KeyCode.ofDatum, keyOfInt?, known, dite_false]
          at refused
        cases refused
        exact ⟨known, rfl⟩
  | setSpeed value =>
      simp only [apply, speedOf, Datum.toInteger] at refused
      by_cases small : value < 1
      · simp only [small, if_true] at refused
        cases refused
        exact ⟨small, rfl⟩
      · simp only [small, if_false] at refused
        contradiction
  | clearScreen =>
      obtain ⟨fault, rfl, failed⟩ := fault_of_silent refused
      contradiction
  | write _ _ | draw _ _ _ => contradiction

/-! ## Runs -/

theorem wellFormed_fresh
    {width height : Int} {screen : Screen} {value : Datum} {speed : Nat}
    (created : Screen.create? width height = some screen)
    (accepted : speedOf value = .ok speed) (random : RandomSource) :
    (fresh screen random speed).WellFormed width.toNat height.toNat where
  processor := .starting .fresh
  screen := Screen.sized_of_create? created
  speed := WellFormed.speedOf_pos accepted

theorem WellFormed.safe_turn
    {turn : Turn} {width height : Nat}
    (wellFormed : turn.before.WellFormed width height)
    (drives : turn.operation.Driving) :
    turn.outcome.Safe width height := by
  apply wellFormed.safe_apply
  intro address isPush
  rw [isPush] at drives
  contradiction

theorem wellFormed_turns
    {machine : Machine} {width height : Nat} {operations : List Operation}
    (wellFormed : machine.WellFormed width height)
    (driving : ∀ operation ∈ operations, operation.Driving) :
    (∀ turn ∈ machine.turns operations,
        turn.before.WellFormed width height ∧
          turn.after.WellFormed width height) ∧
      (machine.after operations).WellFormed width height := by
  have kept : ∀ turn : Turn, turn.operation.Driving →
      turn.before.WellFormed width height →
      turn.after.WellFormed width height :=
    fun _ drives before => (before.safe_turn drives).machine
  exact invariant_turns kept wellFormed fun turn member =>
    driving turn.operation (operation_mem_of_mem_turns member)

/-- Well-formedness is an invariant of all runs of a machine that was just
switched on.  Before and after every operation, also one that is refused, and in
the end, all numbers are in range.  An operation is refused for the listed
reasons only, and every pixel that it turns over is one of the picture: nothing
is looked for where it is not. -/
theorem wellFormed_of_fresh
    {width height : Int} {screen : Screen} {value : Datum} {speed : Nat}
    (created : Screen.create? width height = some screen)
    (accepted : speedOf value = .ok speed) (random : RandomSource)
    {operations : List Operation}
    (driving : ∀ operation ∈ operations, operation.Driving) :
    ((fresh screen random speed).after operations).WellFormed
        width.toNat height.toNat ∧
      ∀ turn ∈ (fresh screen random speed).turns operations,
        turn.before.WellFormed width.toNat height.toNat ∧
          turn.after.WellFormed width.toNat height.toNat ∧
          (∀ reason, turn.outcome.result = .error reason →
            turn.operation.MayRefuse reason) ∧
          ∀ change : PixelChange, .pixel change ∈ turn.outcome.events →
            Screen.place turn.before.screen.width change.x change.y <
              turn.before.screen.pixels.size := by
  obtain ⟨during, inTheEnd⟩ :=
    wellFormed_turns (wellFormed_fresh created accepted random) driving
  refine ⟨inTheEnd, ?_⟩
  intro turn member
  have drives : turn.operation.Driving :=
    driving turn.operation (operation_mem_of_mem_turns member)
  obtain ⟨before, after⟩ := during turn member
  refine ⟨before, after, ?_, ?_⟩
  · exact fun reason refused => mayRefuse_of_apply drives refused
  · intro change changed
    exact before.screen.place_lt
      ((before.safe_turn drives).changes change changed)

/-- Numbers far out of range do no harm to a small machine. -/
theorem wellFormed_of_fresh_outlandish :
    let operations : List Operation :=
      [.load [0xF0, 0x1E, 0xD0, 0x1F], .setSpeed (.integer (-3)), .frame,
        .execute (-1), .reportKey (.integer 99) true, .write (-5) 1000,
        .draw [-1, 300] (-9) 100, .setSpeed (.integer 2), .frame, .step,
        .execute 0x00EE, .clearScreen, .reset]
    ((fresh (.blank 7 3) (.ofSeed 1) 1).after operations).WellFormed 7 3 ∧
      ∀ turn ∈ (fresh (.blank 7 3) (.ofSeed 1) 1).turns operations,
        turn.after.WellFormed 7 3 ∧
          ∀ reason, turn.outcome.result = .error reason →
            turn.operation.MayRefuse reason := by
  intro operations
  have driving : ∀ operation ∈ operations, operation.Driving := by
    simp only [operations, List.forall_mem_cons]
    exact ⟨.load _, .setSpeed _, .frame, .execute _, .reportKey _ _,
      .write _ _, .draw _ _ _, .setSpeed _, .frame, .step, .execute _,
      .clearScreen, .reset, fun _ member => absurd member List.not_mem_nil⟩
  have created : Screen.create? 7 3 = some (.blank 7 3) := rfl
  have accepted : speedOf (.boolean true) = .ok 1 := rfl
  obtain ⟨inTheEnd, during⟩ :=
    wellFormed_of_fresh created accepted (.ofSeed 1) driving
  refine ⟨inTheEnd, ?_⟩
  intro turn member
  obtain ⟨-, after, reasons, -⟩ := during turn member
  exact ⟨after, reasons⟩

end Machine

end Chip8

import Chip8.Proofs.Performance

/-!
# Observers have no influence

A machine does the same whoever watches it, and whether or not its picture has
been shown.

* `AgreeOffDirty` says that two machines differ at most in whether their pictures
  are to be shown, and `AgreeOffDirty.step`, `AgreeOffDirty.cycles` and
  `AgreeOffDirty.apply` that they stay so and give the same answers;
* `answers_eq` says what an audience leaves of a run: the answers and refusals of
  a machine without observers, whose picture is never cleaned;
* `observers_have_no_influence` compares two performances.
-/

namespace Chip8

/-! ## Pictures to be shown -/

/-- Two machines that differ at most in whether their pictures are to be
shown. -/
structure Machine.AgreeOffDirty (left right : Machine) : Prop where
  processor : left.processor = right.processor
  width : left.screen.width = right.screen.width
  height : left.screen.height = right.screen.height
  pixels : left.screen.pixels = right.screen.pixels
  random : left.random = right.random
  speed : left.speed = right.speed

/-- Two outcomes with one result, whose machines differ at most in whether their
pictures are to be shown. -/
structure Outcome.AgreeOffDirty
    {ε α : Type} (left right : Outcome ε α) : Prop where
  machine : left.machine.AgreeOffDirty right.machine
  result : left.result = right.result

theorem Outcome.AgreeOffDirty.silent
    {first second : Outcome Fault Unit} (agree : first.AgreeOffDirty second) :
    (Machine.silent first).AgreeOffDirty (Machine.silent second) := by
  refine ⟨agree.machine, ?_⟩
  simp only [Machine.silent, agree.result]

namespace Machine

variable {left right : Machine}

/-- The machine with its picture marked. -/
def marked (machine : Machine) (dirty : Bool) : Machine :=
  { machine with screen := { machine.screen with dirty := dirty } }

namespace AgreeOffDirty

theorem refl (machine : Machine) : machine.AgreeOffDirty machine :=
  ⟨rfl, rfl, rfl, rfl, rfl, rfl⟩

theorem symm (agree : left.AgreeOffDirty right) : right.AgreeOffDirty left :=
  ⟨agree.processor.symm, agree.width.symm, agree.height.symm,
    agree.pixels.symm, agree.random.symm, agree.speed.symm⟩

theorem trans
    {middle : Machine} (first : left.AgreeOffDirty middle)
    (second : middle.AgreeOffDirty right) : left.AgreeOffDirty right :=
  ⟨first.processor.trans second.processor, first.width.trans second.width,
    first.height.trans second.height, first.pixels.trans second.pixels,
    first.random.trans second.random, first.speed.trans second.speed⟩

theorem eq_marked (agree : left.AgreeOffDirty right) :
    right = left.marked right.screen.dirty := by
  obtain ⟨processor, ⟨width, height, pixels, dirty⟩, random, speed⟩ := right
  obtain ⟨rfl, rfl, rfl, rfl, rfl, rfl⟩ := agree
  rfl

theorem isWaiting (agree : left.AgreeOffDirty right) :
    left.isWaiting = right.isWaiting :=
  congrArg Processor.isWaiting agree.processor

/-! ### Steps and frames -/

/-- No instruction looks at the mark, and those that draw or clear set it. -/
theorem execute
    (agree : left.AgreeOffDirty right) (instruction : Instruction) :
    (left.execute instruction).AgreeOffDirty (right.execute instruction) := by
  rw [agree.eq_marked]
  have processor :
      (left.marked right.screen.dirty).processor = left.processor := rfl
  unfold Machine.execute
  split
  · exact ⟨refl _, rfl⟩
  · exact ⟨refl _, rfl⟩
  · exact ⟨⟨rfl, rfl, rfl, rfl, rfl, rfl⟩, rfl⟩
  · rw [processor]
    exact ⟨⟨rfl, rfl, rfl, rfl, rfl, rfl⟩, rfl⟩

theorem step (agree : left.AgreeOffDirty right) :
    left.step.AgreeOffDirty right.step := by
  have instruction : left.nextInstruction = right.nextInstruction := by
    simp only [nextInstruction, agree.processor]
  have moved : left.advance.AgreeOffDirty right.advance :=
    { agree with processor := congrArg Processor.advance agree.processor }
  have outcomes := moved.execute right.nextInstruction
  refine ⟨?_, ?_⟩
  · rw [machine_step, machine_step, instruction]
    exact outcomes.machine
  · rw [result_step, result_step, instruction]
    exact outcomes.result

theorem cycles
    (agree : left.AgreeOffDirty right)
    (count : Nat) (published other : List Event) :
    (Machine.cycles count left published).AgreeOffDirty
      (Machine.cycles count right other) := by
  induction count generalizing left right published other with
  | zero =>
      exact ⟨agree, rfl⟩
  | succ count inductionHypothesis =>
      obtain ⟨machine, result⟩ := agree.step
      -- A fault or a wait ends both after the same step.
      simp only [Machine.cycles, result, machine.isWaiting]
      split
      · exact ⟨machine, rfl⟩
      · split
        · exact ⟨machine, rfl⟩
        · exact inductionHypothesis machine _ _

theorem frame (agree : left.AgreeOffDirty right) :
    left.frame.AgreeOffDirty right.frame := by
  have counted : left.countDown.AgreeOffDirty right.countDown := by
    refine { agree with processor := ?_ }
    simp only [countDown, agree.processor]
  unfold Machine.frame
  rw [agree.isWaiting, agree.speed]
  split
  · exact ⟨agree, rfl⟩
  · exact counted.cycles _ _ _

/-! ### Operations -/

theorem load (agree : left.AgreeOffDirty right) (program : List UInt8) :
    (left.load program).AgreeOffDirty (right.load program) := by
  rw [agree.eq_marked]
  exact ⟨refl _, rfl⟩

/-- No operation looks at the mark. -/
theorem apply (agree : left.AgreeOffDirty right) (operation : Operation) :
    (left.apply operation).AgreeOffDirty (right.apply operation) := by
  cases operation with
  | step => exact agree.step.silent
  | frame => exact agree.frame.silent
  | execute opcode => exact (agree.execute _).silent
  | load program => exact (agree.load program).silent
  | loadFile files path =>
      simp only [Machine.apply]
      split
      · exact (agree.load _).silent
      · exact ⟨agree, rfl⟩
  | setSpeed value =>
      simp only [Machine.apply]
      split
      · exact ⟨{ agree with speed := rfl }, rfl⟩
      · exact ⟨agree, rfl⟩
  | reportKey code pressed =>
      simp only [Machine.apply, reportCode, Machine.reportKey, agree.processor]
      split
      · split
        · exact ⟨agree, rfl⟩
        · exact ⟨{ agree with processor := rfl }, rfl⟩
      · exact ⟨agree, rfl⟩
  | _ =>
      rw [agree.eq_marked]
      exact ⟨⟨rfl, rfl, rfl, rfl, rfl, rfl⟩, rfl⟩

end AgreeOffDirty

/-- Resetting the mark is nothing to the rest of the machine. -/
theorem agreeOffDirty_clean (machine : Machine) :
    (machine.apply .clean).machine.AgreeOffDirty machine :=
  ⟨rfl, rfl, rfl, rfl, rfl, rfl⟩

/-- The answers and refusals of a run, in order. -/
def results (machine : Machine) (operations : List Operation) :
    List (Except OperationError Answer) :=
  (machine.turns operations).map fun turn => turn.outcome.result

end Machine

/-! ## Runs before an audience -/

/-- The operation resets the mark of the picture and does nothing else. -/
def Operation.isClean : Operation → Bool
  | .clean => true
  | _ => false

/-- What a run does besides resetting the mark of the picture. -/
def Operation.withoutCleans (operations : List Operation) : List Operation :=
  operations.filter fun operation => !operation.isClean

namespace Performance

/-- Carry out operations one after the other, the refused ones too. -/
def performAll (stage : Performance) (operations : List Operation) :
    Performance :=
  operations.foldl (fun current operation => (current.perform operation).1)
    stage

/-- The answers and refusals of a run, in order, but for those of operations that
reset the mark of the picture. -/
def answers (stage : Performance) :
    List Operation → List (Except OperationError Answer)
  | [] => []
  | operation :: rest =>
      let (next, answer) := stage.perform operation
      if operation.isClean then next.answers rest
      else answer :: next.answers rest

theorem answers_cons
    {stage : Performance} {operation : Operation}
    (performs : operation.isClean = false) (rest : List Operation) :
    stage.answers (operation :: rest) =
      (stage.perform operation).2 ::
        (stage.perform operation).1.answers rest := by
  simp only [answers, performs, Bool.false_eq_true, if_false]

/-- A run before an audience does what it does without, whenever the mark is
reset. -/
theorem answers_eq
    {stage : Performance} {machine : Machine}
    (agree : stage.machine.AgreeOffDirty machine)
    (operations : List Operation) :
    stage.answers operations =
        machine.results (Operation.withoutCleans operations) ∧
      (stage.performAll operations).machine.AgreeOffDirty
        (machine.after (Operation.withoutCleans operations)) := by
  induction operations generalizing stage machine with
  | nil =>
      exact ⟨rfl, agree⟩
  | cons operation rest inductionHypothesis =>
      have after := agree.apply operation
      have meets : (stage.perform operation).1.machine.AgreeOffDirty
          (machine.apply operation).machine := by
        rw [machine_perform]
        exact after.machine
      cases clean : operation.isClean with
      | true =>
          -- The second machine is left alone, and still agrees.
          obtain rfl : operation = .clean := by
            cases operation <;> first | rfl | contradiction
          exact inductionHypothesis (meets.trans machine.agreeOffDirty_clean)
      | false =>
          obtain ⟨answers, inTheEnd⟩ := inductionHypothesis meets
          have kept : Operation.withoutCleans (operation :: rest) =
              operation :: Operation.withoutCleans rest :=
            List.filter_cons_of_pos (by simp [clean])
          rw [kept]
          refine ⟨?_, inTheEnd⟩
          rw [answers_cons clean, answer_perform, after.result, answers]
          rfl

/-- Observers do not influence a machine: two performances whose machines start
alike, but for the mark of the picture, give the same answers and refusals
to the same operations and end alike, whoever watches them and whenever the mark
is reset. -/
theorem observers_have_no_influence
    {left right : Performance} {first second : List Operation}
    (agree : left.machine.AgreeOffDirty right.machine)
    (operations :
      Operation.withoutCleans first = Operation.withoutCleans second) :
    left.answers first = right.answers second ∧
      (left.performAll first).machine.AgreeOffDirty
        (right.performAll second).machine := by
  obtain ⟨leftAnswers, leftMachine⟩ := answers_eq agree first
  obtain ⟨rightAnswers, rightMachine⟩ :=
    answers_eq (.refl right.machine) second
  rw [operations] at leftAnswers leftMachine
  exact ⟨leftAnswers.trans rightAnswers.symm,
    leftMachine.trans rightMachine.symm⟩

/-- A machine whose program takes a random byte, draws twice in one place, waits
for a key and returns from nowhere. -/
def soloist : Machine where
  processor :=
    { [0xC1, 0x07, 0xD1, 0x02, 0xD1, 0x01, 0xF2, 0x0A, 0x00,
        0xEE].zipIdx.foldl
        (fun current entry => current.write entry.2 entry.1)
        (Processor.starting (Vector.replicate memorySize 0)) with
      pc := 0
      soundTimer := 9 }
  screen := .blank 8 4
  random := .ofSeed 5
  speed := 6

/-- The soloist before a full house: a hook, a recorder and a log of
everything. -/
def gala : Performance where
  machine := soloist
  observers := ⟨true, some .debug, .recorder⟩
  effects := []

/-- The soloist before a beeper only, with the picture already shown. -/
def rehearsal : Performance where
  machine := soloist.marked false
  observers := ⟨false, none, .beeper ⟨true, false⟩⟩
  effects := []

/-- The audiences hear different things, and the marks differ in the end, but the
soloist draws, waits, fails and starts over in the same way. -/
theorem observers_have_no_influence_soloist :
    let first : List Operation :=
      [.frame, .clean, .frame, .key 3 true, .step, .draw [-1] 6 3,
        .load (List.replicate 3585 0), .reset, .clean]
    let second : List Operation :=
      [.clean, .frame, .frame, .key 3 true, .clean, .step, .clean,
        .draw [-1] 6 3, .load (List.replicate 3585 0), .reset]
    gala.answers first = rehearsal.answers second ∧
      (gala.performAll first).machine.AgreeOffDirty
        (rehearsal.performAll second).machine ∧
      (gala.performAll first).machine.screen.dirty = false ∧
      (rehearsal.performAll second).machine.screen.dirty = true ∧
      (gala.answers first).map Except.isOk =
        [true, true, true, false, true, false, true] ∧
      (gala.performAll first).effects.length = 41 ∧
      (rehearsal.performAll second).effects =
        [.called .playSound, .called .stopSound] := by
  intro first second
  have agree : gala.machine.AgreeOffDirty rehearsal.machine :=
    ⟨rfl, rfl, rfl, rfl, rfl, rfl⟩
  have operations :
      Operation.withoutCleans first = Operation.withoutCleans second := rfl
  obtain ⟨answers, inTheEnd⟩ := observers_have_no_influence agree operations
  refine ⟨answers, inTheEnd, ?_, ?_, ?_, ?_, ?_⟩
  · decide +kernel
  · decide +kernel
  · decide +kernel
  · decide +kernel
  · decide +kernel

end Performance

end Chip8

import Chip8.Proofs.KeyRecord

/-!
# Waits and answers

A machine that a host drives by frames and reports of keys waits for one key at
a time, and every wait is answered once.

* `Moment` lists what matters to waits in a run: the instructions carried out,
  and the reports that fill a register;
* `Dialogue` is the course that such moments take: after an instruction that
  waits, the next moment is the answer, for the same register;
* `dialogue_turns` says that every run takes this course, and
  `answered_in_order` reads off what it means for the run.
-/

namespace Chip8

/-! ## Moments -/

/-- An instruction that is carried out, or a report of a key that fills a
register. -/
inductive Moment where
  | carriedOut (instruction : Instruction)
  | answered (register : Register) (code : KeyCode)
  deriving DecidableEq, Repr

namespace Moment

/-- The registers for which some moments begin to wait, in order. -/
def awaited (moments : List Moment) : List Register :=
  moments.filterMap fun
    | .carriedOut (.awaitKey register) => some register
    | _ => none

/-- The registers that some moments fill with an answer, in order. -/
def filled (moments : List Moment) : List Register :=
  moments.filterMap fun
    | .answered register _ => some register
    | _ => none

end Moment

/-- The answer that a turn gives to a wait, if it gives one. -/
def Turn.replies (turn : Turn) : List Moment :=
  match turn.outcome.result with
  | .ok (.write register code) => [.answered register code]
  | _ => []

/-- The moments of a turn, in order. -/
def Turn.moments (turn : Turn) : List Moment :=
  turn.instructions.map .carriedOut ++ turn.replies

/-- The moments of a run, in order. -/
def Machine.moments (machine : Machine) (operations : List Operation) :
    List Moment :=
  (machine.turns operations).flatMap Turn.moments

/-! ## The course of a dialogue -/

/-- Moments that lead from one state of waiting to another.  Instructions are
carried out only while no register waits, and only the register that waits is
filled. -/
inductive Dialogue :
    Option Register → List Moment → Option Register → Prop where
  | done (waiting : Option Register) : Dialogue waiting [] waiting
  | work {instruction : Instruction} {rest : List Moment}
      {last : Option Register} :
      (∀ register : Register, instruction ≠ .awaitKey register) →
      Dialogue none rest last →
      Dialogue none (.carriedOut instruction :: rest) last
  | wait {register : Register} {rest : List Moment} {last : Option Register} :
      Dialogue (some register) rest last →
      Dialogue none (.carriedOut (.awaitKey register) :: rest) last
  | answer {register : Register} {rest : List Moment} {last : Option Register}
      (code : KeyCode) :
      Dialogue none rest last →
      Dialogue (some register) (.answered register code :: rest) last

namespace Dialogue

open Moment

variable {first last : Option Register} {moments earlier later : List Moment}
variable {register : Register}

theorem append_iff :
    Dialogue first (earlier ++ later) last ↔
      ∃ middle, Dialogue first earlier middle ∧ Dialogue middle later last := by
  constructor
  · intro dialogue
    induction earlier generalizing first with
    | nil =>
        exact ⟨first, .done first, dialogue⟩
    | cons moment rest inductionHypothesis =>
        cases dialogue with
        | work noWait next =>
            obtain ⟨middle, before, after⟩ := inductionHypothesis next
            exact ⟨middle, .work noWait before, after⟩
        | wait next =>
            obtain ⟨middle, before, after⟩ := inductionHypothesis next
            exact ⟨middle, .wait before, after⟩
        | answer code next =>
            obtain ⟨middle, before, after⟩ := inductionHypothesis next
            exact ⟨middle, .answer code before, after⟩
  · rintro ⟨middle, before, after⟩
    induction before with
    | done waiting => exact after
    | work noWait _ inductionHypothesis =>
        exact .work noWait (inductionHypothesis after)
    | wait _ inductionHypothesis => exact .wait (inductionHypothesis after)
    | answer code _ inductionHypothesis =>
        exact .answer code (inductionHypothesis after)

/-- Registers are filled in the order in which they began to wait, and only the
last of them may wait still. -/
theorem awaited_eq (dialogue : Dialogue first moments last) :
    first.toList ++ awaited moments = filled moments ++ last.toList := by
  induction dialogue with
  | done waiting =>
      simp [awaited, filled]
  | @work instruction rest last noWait _ inductionHypothesis =>
      have skipped : awaited (.carriedOut instruction :: rest) = awaited rest := by
        cases instruction with
        | awaitKey register => exact absurd rfl (noWait register)
        | _ => rfl
      rw [skipped]
      exact inductionHypothesis
  | wait _ inductionHypothesis =>
      exact inductionHypothesis
  | @answer register rest last code _ inductionHypothesis =>
      exact congrArg (register :: ·) inductionHypothesis

/-- After a wait there is nothing but its answer. -/
theorem cases_of_waiting (dialogue : Dialogue (some register) moments last) :
    (moments = [] ∧ last = some register) ∨
      ∃ code rest, moments = .answered register code :: rest := by
  cases dialogue with
  | done _ => exact .inl ⟨rfl, rfl⟩
  | answer code _ => exact .inr ⟨code, _, rfl⟩

/-- A register waits only right after its instruction was carried out. -/
theorem exists_of_waiting
    (dialogue : Dialogue first moments last) (waits : last = some register) :
    (moments = [] ∧ first = some register) ∨
      ∃ before, moments = before ++ [.carriedOut (.awaitKey register)] := by
  induction dialogue with
  | done _ =>
      exact .inl ⟨rfl, waits⟩
  | work _ _ inductionHypothesis | answer _ _ inductionHypothesis =>
      rcases inductionHypothesis waits with ⟨-, idle⟩ | ⟨before, rfl⟩
      · contradiction
      · exact .inr ⟨_ :: before, rfl⟩
  | wait _ inductionHypothesis =>
      rcases inductionHypothesis waits with ⟨rfl, same⟩ | ⟨before, rfl⟩
      · cases same
        exact .inr ⟨[], rfl⟩
      · exact .inr ⟨_ :: before, rfl⟩

end Dialogue

/-! ## Runs are dialogues -/

namespace Machine

variable {machine : Machine}

/-- An instruction that waits for a key makes its register wait. -/
theorem waiting_step_of_awaitKey
    {register : Register}
    (waits : machine.nextInstruction = .awaitKey register) :
    machine.step.result = .ok () ∧
      machine.step.machine.processor.waiting = some register := by
  rw [result_step, machine_step, waits]
  exact ⟨rfl, rfl⟩

/-- Cycles carry out instructions until one of them waits. -/
theorem dialogue_cycles
    (count : Nat) (idle : machine.processor.waiting = none) :
    Dialogue none
      ((cycleFetches count machine).map fun fetch =>
        .carriedOut fetch.nextInstruction)
      (machine.afterFetches (cycleFetches count machine)).processor.waiting := by
  induction count generalizing machine with
  | zero =>
      simp only [cycleFetches, List.map_nil, afterFetches_nil, idle]
      exact .done none
  | succ count inductionHypothesis =>
      simp only [cycleFetches, List.map_cons, afterFetches_cons]
      by_cases waits :
          ∃ register : Register, machine.nextInstruction = .awaitKey register
      · obtain ⟨register, isWait⟩ := waits
        obtain ⟨completes, waiting⟩ := waiting_step_of_awaitKey isWait
        have isWaiting := isWaiting_of_waiting waiting
        simp only [completes, isWaiting, if_true, List.map_nil,
          afterFetches_nil, isWait, waiting]
        exact .wait (.done (some register))
      · have noWait : ∀ register : Register,
            machine.nextInstruction ≠ .awaitKey register :=
          fun register isWait => waits ⟨register, isWait⟩
        have stillIdle : machine.step.machine.processor.waiting = none :=
          (waiting_step noWait).trans idle
        refine .work noWait ?_
        split
        · simp only [List.map_nil, afterFetches_nil, stillIdle]
          exact .done none
        · split
          · simp only [List.map_nil, afterFetches_nil, stillIdle]
            exact .done none
          · exact inductionHypothesis stillIdle

/-- A frame of a machine that does not wait leaves behind what its steps leave
behind. -/
theorem machine_frame_of_idle (idle : machine.isWaiting = false) :
    machine.frame.machine =
      machine.countDown.afterFetches
        (cycleFetches machine.speed machine.countDown) := by
  simp only [frame, idle, Bool.false_eq_true, if_false, machine_cycles]

end Machine

namespace Turn

variable {machine : Machine}

theorem replies_frame (machine : Machine) :
    replies ⟨machine, .frame⟩ = [] := by
  simp only [replies, outcome, Machine.apply, Machine.silent]
  cases machine.frame.result <;> rfl

theorem moments_frame (machine : Machine) :
    moments ⟨machine, .frame⟩ =
      (fetches ⟨machine, .frame⟩).map fun fetch =>
        .carriedOut fetch.nextInstruction := by
  simp only [moments, instructions, replies_frame, List.append_nil,
    List.map_map]
  rfl

/-- The only moment of a report is its reply. -/
theorem moments_key (machine : Machine) (key : Key) (pressed : Bool) :
    moments ⟨machine, .key key pressed⟩ =
      replies ⟨machine, .key key pressed⟩ := by
  simp only [moments, instructions, fetches, Operation.key, List.map_nil,
    List.nil_append]

theorem dialogue_frame (machine : Machine) :
    Dialogue machine.processor.waiting (moments ⟨machine, .frame⟩)
      (after ⟨machine, .frame⟩).processor.waiting := by
  rw [moments_frame]
  cases waits : machine.processor.waiting with
  | none =>
      have idle := Machine.isWaiting_eq_false_iff.mpr waits
      have left :
          after ⟨machine, .frame⟩ =
            machine.countDown.afterFetches
              (Machine.cycleFetches machine.speed machine.countDown) :=
        Machine.machine_frame_of_idle idle
      rw [fetches_frame idle, left]
      exact Machine.dialogue_cycles machine.speed waits
  | some register =>
      have left : after ⟨machine, .frame⟩ = machine := by
        rw [after, outcome, Machine.apply_frame_of_waiting waits]
      simp only [fetches, Machine.isWaiting_of_waiting waits, if_true,
        List.map_nil, left, waits]
      exact .done (some register)

theorem dialogue_setSpeed (machine : Machine) (value : Datum) :
    Dialogue machine.processor.waiting (moments ⟨machine, .setSpeed value⟩)
      (after ⟨machine, .setSpeed value⟩).processor.waiting := by
  simp only [moments, instructions, fetches, replies, after, outcome,
    Machine.apply]
  cases speedOf value <;> exact .done _

theorem dialogue_key (machine : Machine) (key : Key) (pressed : Bool) :
    Dialogue machine.processor.waiting (moments ⟨machine, .key key pressed⟩)
      (after ⟨machine, .key key pressed⟩).processor.waiting := by
  rw [moments_key]
  by_cases answers :
      machine.isWaiting = true ∧ pressed = true ∧
        machine.processor.keys.get key = false
  · obtain ⟨isWaiting, rfl, up⟩ := answers
    obtain ⟨register, waits⟩ := Option.isSome_iff_exists.mp isWaiting
    simp only [replies, after, outcome, Machine.apply_key_answered waits up,
      waits]
    exact .answer (.key key) (.done none)
  · have quiet :
        machine.processor.waiting = none ∨ pressed = false ∨
          machine.processor.keys.get key = true := by
      rw [← Machine.isWaiting_eq_false_iff]
      simpa only [Decidable.not_and_iff_or_not, Bool.not_eq_true,
        Bool.not_eq_false] using answers
    simp only [replies, after, outcome, Machine.apply_key_unanswered quiet]
    exact .done _

/-- A turn of a host goes on with the dialogue where it stands. -/
theorem dialogue
    {turn : Turn} (paced : turn.operation.Paced) :
    Dialogue turn.before.processor.waiting turn.moments
      turn.after.processor.waiting := by
  obtain ⟨machine, operation⟩ := turn
  cases paced with
  | frame => exact dialogue_frame machine
  | setSpeed value => exact dialogue_setSpeed machine value
  | key key pressed => exact dialogue_key machine key pressed

end Turn

namespace Machine

/-- Every run of a host is a dialogue. -/
theorem dialogue_turns
    {machine : Machine} {operations : List Operation}
    (paced : ∀ operation ∈ operations, operation.Paced) :
    Dialogue machine.processor.waiting (machine.moments operations)
      (machine.after operations).processor.waiting := by
  induction operations generalizing machine with
  | nil =>
      exact .done _
  | cons operation rest inductionHypothesis =>
      obtain ⟨first, later⟩ := List.forall_mem_cons.mp paced
      simp only [moments, turns_cons, List.flatMap_cons, after_cons]
      exact Dialogue.append_iff.mpr
        ⟨_, @Turn.dialogue ⟨machine, operation⟩ first,
          inductionHypothesis later⟩

/-- In any run of frames, at speeds of any kind, and of reports of keys, from a
machine that does not wait: the registers that instructions wait for are filled
in the same order, each by the moment right after its instruction, so that no
instruction comes between; only the last of them may be left, and it is if the
machine waits in the end.  Every key is recorded as last reported. -/
theorem answered_in_order
    {machine : Machine} {operations : List Operation}
    (idle : machine.isWaiting = false)
    (paced : ∀ operation ∈ operations, operation.Paced) :
    let moments := machine.moments operations
    let last := machine.after operations
    Moment.awaited moments =
        Moment.filled moments ++ last.processor.waiting.toList ∧
      (∀ earlier register later,
        moments = earlier ++ .carriedOut (.awaitKey register) :: later →
          (later = [] ∧ last.processor.waiting = some register) ∨
            ∃ code rest, later = .answered register code :: rest) ∧
      (∀ earlier register code later,
        moments = earlier ++ .answered register code :: later →
          ∃ before, earlier = before ++ [.carriedOut (.awaitKey register)]) ∧
      ∀ inputs rest, operations = inputs ++ rest → ∀ key : Key,
        (machine.after inputs).processor.keys.get key =
          (lastStatus? (inputs.filterMap Operation.report?) key).getD
            (machine.processor.keys.get key) := by
  intro moments last
  have dialogue : Dialogue none moments last.processor.waiting := by
    rw [← isWaiting_eq_false_iff.mp idle]
    exact dialogue_turns paced
  refine ⟨dialogue.awaited_eq, ?_, ?_, ?_⟩
  · intro earlier register later split
    rw [split] at dialogue
    obtain ⟨middle, -, fromWait⟩ := Dialogue.append_iff.mp dialogue
    cases fromWait with
    | work noWait _ => exact absurd rfl (noWait register)
    | wait afterWait => exact afterWait.cases_of_waiting
  · intro earlier register code later split
    rw [split] at dialogue
    obtain ⟨middle, untilAnswer, fromAnswer⟩ := Dialogue.append_iff.mp dialogue
    cases fromAnswer with
    | answer _ _ =>
        rcases untilAnswer.exists_of_waiting rfl with ⟨-, waits⟩ | before
        · contradiction
        · exact before
  · intro inputs rest split key
    have early : ∀ operation ∈ inputs, operation.Paced :=
      fun operation member =>
        paced operation (split ▸ List.mem_append_left rest member)
    rw [keys_after early, get_record]

/-- A machine whose program waits for a key twice in a row and then returns from
nowhere. -/
def examiner : Machine where
  processor :=
    { [0xF5, 0x0A, 0xF6, 0x0A, 0x00, 0xEE].zipIdx.foldl
        (fun current entry => current.write entry.2 entry.1)
        (Processor.starting (Vector.replicate memorySize 0)) with
      pc := 0 }
  screen := .blank 8 8
  random := .ofSeed 0
  speed := 2

/-- The key that answered the first wait answers the second one only when it is
pressed anew, and another key is quicker. -/
theorem answered_in_order_examiner :
    let inputs : List Operation :=
      [.frame, .key 2 true, .setSpeed (.integer 3), .frame, .key 2 true,
        .key 2 false, .key 9 true, .frame]
    examiner.moments inputs =
        [.carriedOut (.awaitKey 5), .answered 5 (.key 2),
          .carriedOut (.awaitKey 6), .answered 6 (.key 9), .carriedOut .ret] ∧
      Moment.awaited (examiner.moments inputs) =
        Moment.filled (examiner.moments inputs) ∧
      (examiner.after inputs).processor.keys.get 2 = false ∧
      (examiner.after inputs).processor.keys.get 9 = true := by
  intro inputs
  have idle : examiner.isWaiting = false := by decide +kernel
  have paced : ∀ operation ∈ inputs, operation.Paced := by
    simp only [inputs, List.forall_mem_cons]
    exact ⟨.frame, .key _ _, .setSpeed _, .frame, .key _ _, .key _ _,
      .key _ _, .frame, fun _ member => absurd member List.not_mem_nil⟩
  have moments :
      examiner.moments inputs =
        [.carriedOut (.awaitKey 5), .answered 5 (.key 2),
          .carriedOut (.awaitKey 6), .answered 6 (.key 9),
          .carriedOut .ret] := by
    decide +kernel
  have done : (examiner.after inputs).processor.waiting = none := by
    decide +kernel
  obtain ⟨order, -, -, keys⟩ := answered_in_order idle paced
  rw [done, Option.toList_none, List.append_nil] at order
  have recorded := keys inputs [] (List.append_nil inputs).symm
  exact ⟨moments, order, recorded 2, recorded 9⟩

end Machine

end Chip8

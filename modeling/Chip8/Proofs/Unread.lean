import Mathlib.Data.List.Forall2
import Chip8.Proofs.Interference
import Chip8.Proofs.KeyRecord

/-!
# Inputs that a program does not read

The player and chance reach a program through a few instructions only.

* `outside` lists the parts of a machine that they decide, and
  `Instruction.TakesInput` the instructions that let them through;
* `Outcome.Alike` says that two outcomes differ in these parts at most, and
  `step_alike`, `cycles_alike` and `frame_alike` that machines stay alike;
* `unread_inputs` says that a run without such instructions does the same
  whatever keys are reported in it, and whatever chance brings.
-/

namespace Chip8

/-- The parts of a machine that the player and chance decide. -/
def outside : List Part := [.keys, .random]

/-- The instruction lets the player or chance through: it asks for keys, waits
for one, or keeps a bit of a random byte. -/
def Instruction.TakesInput : Instruction → Prop
  | .skipPressed _ | .skipReleased _ | .awaitKey _ => True
  | .random _ mask => mask ≠ 0
  | _ => False

theorem Instruction.not_mem_outside_of_reads
    {instruction : Instruction} (deaf : ¬ instruction.TakesInput)
    {part : Part} (read : part ∈ instruction.reads) :
    part ∉ outside := by
  cases instruction with
  | skipPressed _ | skipReleased _ | awaitKey _ => exact absurd trivial deaf
  | random x mask =>
      have noBit : mask = 0 := Decidable.not_not.mp deaf
      simp [reads, noBit] at read
  | _ =>
      revert part
      simp [reads, outside]

/-- Two outcomes differ at most in what the player and chance decide. -/
structure Outcome.Alike {ε α : Type} (left right : Outcome ε α) : Prop where
  machine : left.machine.AgreeOff outside right.machine
  events : left.events = right.events
  result : left.result = right.result

/-! ## Frames -/

namespace Machine

variable {left right : Machine}

theorem step_alike
    (agree : left.AgreeOff outside right)
    (deaf : ¬ left.nextInstruction.TakesInput) :
    left.step.Alike right.step := by
  have blind : ∀ part ∈ left.nextInstruction.reads, part ∉ outside :=
    fun part read => Instruction.not_mem_outside_of_reads deaf read
  obtain ⟨agreeAfter, result⟩ := agree.step (by decide) (by decide) blind
  exact ⟨agreeAfter,
    agree.events_step (by decide) (by decide) (by decide) blind, result⟩

/-- Cycles of machines that are alike carry out the same instructions, if these
take no input. -/
theorem cycles_alike
    {count : Nat} (published : List Event)
    (agree : left.AgreeOff outside right)
    (deaf : ∀ fetch ∈ cycleFetches count left,
      ¬ fetch.nextInstruction.TakesInput) :
    (cycles count left published).Alike (cycles count right published) ∧
      (cycleFetches count left).map nextInstruction =
        (cycleFetches count right).map nextInstruction := by
  induction count generalizing left right published with
  | zero =>
      exact ⟨⟨agree, rfl, rfl⟩, rfl⟩
  | succ count inductionHypothesis =>
      have now : ¬ left.nextInstruction.TakesInput :=
        deaf left (by simp [cycleFetches])
      obtain ⟨agreeAfter, events, result⟩ := step_alike agree now
      have waits := agreeAfter.isWaiting (by decide)
      have instruction := agree.nextInstruction (by decide) (by decide)
      cases stepped : left.step.result with
      | error fault =>
          have failed := result.symm.trans stepped
          rw [cycles_of_error count _ stepped, cycles_of_error count _ failed,
            cycleFetches_of_error count stepped,
            cycleFetches_of_error count failed, events]
          exact ⟨⟨agreeAfter, rfl, rfl⟩, congrArg ([·]) instruction⟩
      | ok _ =>
          have isOk : left.step.result.isOk = true := by rw [stepped]; rfl
          have alsoOk : right.step.result.isOk = true := result ▸ isOk
          cases waiting : left.step.machine.isWaiting with
          | true =>
              have alsoWaiting := waits.symm.trans waiting
              rw [cycles_of_waiting count _ isOk waiting,
                cycles_of_waiting count _ alsoOk alsoWaiting,
                cycleFetches_of_waiting count waiting,
                cycleFetches_of_waiting count alsoWaiting, events]
              exact ⟨⟨agreeAfter, rfl, rfl⟩, congrArg ([·]) instruction⟩
          | false =>
              have alsoRunning := waits.symm.trans waiting
              rw [cycleFetches_succ count isOk waiting] at deaf
              obtain ⟨alike, instructions⟩ :=
                inductionHypothesis (left.step.events.reverseAux published)
                  agreeAfter fun fetch member =>
                    deaf fetch (List.mem_cons_of_mem left member)
              rw [cycles_succ count _ isOk waiting,
                cycles_succ count _ alsoOk alsoRunning,
                cycleFetches_succ count isOk waiting,
                cycleFetches_succ count alsoOk alsoRunning, ← events,
                List.map_cons, List.map_cons, instruction, instructions]
              exact ⟨alike, rfl⟩

theorem frame_alike
    (agree : left.AgreeOff outside right)
    (deaf : ∀ instruction ∈ Turn.instructions ⟨left, .frame⟩,
      ¬ instruction.TakesInput) :
    left.frame.Alike right.frame ∧
      Turn.instructions ⟨left, .frame⟩ = Turn.instructions ⟨right, .frame⟩ := by
  have waits := agree.isWaiting (by decide)
  have speed : left.speed = right.speed := agree .speed (by decide)
  have timer : left.processor.soundTimer = right.processor.soundTimer :=
    agree .soundTimer (by decide)
  have tone : left.frameTone = right.frameTone := by
    simp only [frameTone, timer]
  simp only [Turn.instructions, Turn.fetches, frame, ← waits, ← speed, ← tone]
    at deaf ⊢
  cases waiting : left.isWaiting with
  | true =>
      exact ⟨⟨agree, rfl, rfl⟩, rfl⟩
  | false =>
      simp only [waiting, Bool.false_eq_true, if_false] at deaf
      exact cycles_alike _ agree.countDown
        fun fetch member => deaf _ (List.mem_map_of_mem member)

end Machine

/-! ## Runs -/

/-- The operation reports a key. -/
def Operation.isReport : Operation → Bool
  | .reportKey _ _ => true
  | _ => false

/-- Two turns carry out the same instructions, and their outcomes differ at most
in what the player and chance decide. -/
structure Turn.Alike (left right : Turn) : Prop where
  operation : left.operation = right.operation
  instructions : left.instructions = right.instructions
  outcome : left.outcome.Alike right.outcome

namespace Machine

variable {left right machine : Machine}

theorem silent_alike
    {first second : Outcome Fault Unit} (alike : first.Alike second) :
    (silent first).Alike (silent second) := by
  refine ⟨alike.machine, alike.events, ?_⟩
  simp only [silent, alike.result]

theorem exists_key_of_isReport
    {operation : Operation} (paced : operation.Paced)
    (report : operation.isReport = true) :
    ∃ (key : Key) (pressed : Bool), operation = .key key pressed := by
  cases paced with
  | frame | setSpeed _ => contradiction
  | key key pressed => exact ⟨key, pressed, rfl⟩

/-- A report to a machine that does not wait changes nothing but the keys. -/
theorem report_agreeOff_outside
    (idle : machine.isWaiting = false)
    {operation : Operation} (paced : operation.Paced)
    (report : operation.isReport = true) :
    (machine.apply operation).machine.AgreeOff outside machine := by
  obtain ⟨key, pressed, rfl⟩ := exists_key_of_isReport paced report
  rw [apply_key_unanswered (.inl (isWaiting_eq_false_iff.mp idle))]
  intro part visible
  cases part with
  | keys => exact absurd (by decide) visible
  | _ => rfl

/-- Turns other than reports are alike on machines that are alike, if their
instructions take no input. -/
theorem turn_alike
    (agree : left.AgreeOff outside right)
    {operation : Operation} (paced : operation.Paced)
    (noReport : operation.isReport = false)
    (deaf : ∀ instruction ∈ Turn.instructions ⟨left, operation⟩,
      ¬ instruction.TakesInput) :
    Turn.Alike ⟨left, operation⟩ ⟨right, operation⟩ := by
  cases paced with
  | frame =>
      obtain ⟨alike, instructions⟩ := frame_alike agree deaf
      exact ⟨rfl, instructions, silent_alike alike⟩
  | setSpeed value =>
      refine ⟨rfl, rfl, ?_⟩
      simp only [Turn.outcome, apply]
      cases speedOf value with
      | error reason => exact ⟨agree, rfl, rfl⟩
      | ok speed =>
          refine ⟨?_, rfl, rfl⟩
          intro part visible
          have same := agree part visible
          cases part with
          | speed => rfl
          | _ => exact same
  | key key pressed => contradiction

/-- Instructions that take no input begin no wait. -/
theorem isWaiting_apply_of_deaf
    (idle : machine.isWaiting = false) {operation : Operation}
    (deaf : ∀ instruction ∈ Turn.instructions ⟨machine, operation⟩,
      ¬ instruction.TakesInput) :
    (machine.apply operation).machine.isWaiting = false := by
  have waitFree : Turn.WaitFree ⟨machine, operation⟩ := by
    rintro instruction member register rfl
    exact deaf _ member trivial
  exact isWaiting_eq_false_iff.mpr
    (waiting_apply waitFree (isWaiting_eq_false_iff.mp idle))

theorem reports_agreeOff_outside
    {operations : List Operation} (idle : machine.isWaiting = false)
    (paced : ∀ operation ∈ operations, operation.Paced)
    (reports : ∀ operation ∈ operations, operation.isReport = true) :
    (machine.after operations).AgreeOff outside machine := by
  induction operations generalizing machine with
  | nil =>
      exact fun _ _ => rfl
  | cons operation rest inductionHypothesis =>
      obtain ⟨firstPaced, laterPaced⟩ := List.forall_mem_cons.mp paced
      obtain ⟨first, later⟩ := List.forall_mem_cons.mp reports
      have reported := report_agreeOff_outside idle firstPaced first
      have stillIdle := (reported.isWaiting (by decide)).trans idle
      exact (inductionHypothesis stillIdle laterPaced later).trans reported

/-- The turns of a run other than reports of keys. -/
def paceTurns (machine : Machine) (operations : List Operation) : List Turn :=
  (machine.turns operations).filter fun turn => !turn.operation.isReport

theorem paceTurns_append_of_reports
    {reports : List Operation}
    (all : ∀ operation ∈ reports, operation.isReport = true)
    (operations : List Operation) :
    machine.paceTurns (reports ++ operations) =
      (machine.after reports).paceTurns operations := by
  have none :
      (machine.turns reports).filter (fun turn => !turn.operation.isReport) =
        [] := by
    refine List.filter_eq_nil_iff.mpr fun turn member => ?_
    simp [all turn.operation (operation_mem_of_mem_turns member)]
  simp only [paceTurns, turns_append, List.filter_append, none,
    List.nil_append]

theorem paceTurns_cons
    {operation : Operation} (noReport : operation.isReport = false)
    (rest : List Operation) :
    machine.paceTurns (operation :: rest) =
      ⟨machine, operation⟩ ::
        (machine.apply operation).machine.paceTurns rest := by
  simp only [paceTurns, turns_cons]
  exact List.filter_cons_of_pos (by simp [noReport])

/-- Two runs with the same frames at the same speeds, from machines that differ
at most in the keys and in the random source, with any reports of keys: if the
first run carries out no instruction that asks or waits for keys or keeps a random
bit, then the second carries out the same instructions in every frame, with the
same outcome up to keys and random source, down to errors, calls of the tone and
changes of pixels. -/
theorem unread_inputs
    {first second : List Operation}
    (agree : left.AgreeOff [.keys, .random] right)
    (idle : left.isWaiting = false)
    (firstPaced : ∀ operation ∈ first, operation.Paced)
    (secondPaced : ∀ operation ∈ second, operation.Paced)
    (sameFrames :
      first.filter (fun operation => !operation.isReport) =
        second.filter fun operation => !operation.isReport)
    (unread : ∀ turn ∈ left.turns first,
      ∀ instruction ∈ turn.instructions, ¬ instruction.TakesInput) :
    List.Forall₂ Turn.Alike (left.paceTurns first) (right.paceTurns second) ∧
      (left.after first).AgreeOff [.keys, .random] (right.after second) := by
  -- Over the first run: its reports fall away one by one, and before each of its
  -- other turns those reports of the second run that come earlier.
  induction first generalizing left right second with
  | nil =>
      have reports : ∀ operation ∈ second, operation.isReport = true := by
        simpa using List.filter_eq_nil_iff.mp sameFrames.symm
      have alsoIdle := (agree.isWaiting (by decide)).symm.trans idle
      have none := right.paceTurns_append_of_reports reports []
      rw [List.append_nil] at none
      rw [none]
      exact ⟨.nil,
        agree.trans (reports_agreeOff_outside alsoIdle secondPaced reports).symm⟩
  | cons operation rest inductionHypothesis =>
      obtain ⟨paced, restPaced⟩ := List.forall_mem_cons.mp firstPaced
      obtain ⟨deaf, restUnread⟩ := List.forall_mem_cons.mp unread
      have stillIdle := isWaiting_apply_of_deaf idle deaf
      cases report : operation.isReport with
      | true =>
          rw [List.filter_cons_of_neg (by simp [report])] at sameFrames
          have reported := report_agreeOff_outside idle paced report
          have skipped := left.paceTurns_append_of_reports
            (List.forall_mem_singleton.mpr report) rest
          rw [List.singleton_append] at skipped
          rw [skipped]
          exact inductionHypothesis (reported.trans agree) stillIdle restPaced
            secondPaced sameFrames restUnread
      | false =>
          rw [List.filter_cons_of_pos (by simp [report])] at sameFrames
          obtain ⟨reports, later, rfl, allReports, -, sameRest⟩ :=
            List.filter_eq_cons_iff.mp sameFrames.symm
          obtain ⟨reportsPaced, laterPaced⟩ :=
            List.forall_mem_append.mp secondPaced
          have areReports : ∀ other ∈ reports, other.isReport = true := by
            simpa using allReports
          have alsoIdle := (agree.isWaiting (by decide)).symm.trans idle
          have stillAgree := agree.trans
            (reports_agreeOff_outside alsoIdle reportsPaced areReports).symm
          have alike := turn_alike stillAgree paced report deaf
          obtain ⟨turns, inTheEnd⟩ := inductionHypothesis
            alike.outcome.machine stillIdle restPaced
            (List.forall_mem_cons.mp laterPaced).2 sameRest.symm restUnread
          rw [paceTurns_cons report, paceTurns_append_of_reports areReports,
            paceTurns_cons report, after_append]
          exact ⟨.cons alike turns, inTheEnd⟩

/-- A machine whose program starts both timers, takes no bit of a random byte,
draws, and returns from nowhere. -/
def sleepwalker : Machine where
  processor :=
    { [0x61, 0x05, 0xF1, 0x15, 0xF1, 0x18, 0xC3, 0x00, 0xD0, 0x11, 0x00,
        0xEE].zipIdx.foldl
        (fun current entry => current.write entry.2 entry.1)
        (Processor.starting (Vector.replicate memorySize 0)) with
      pc := 0 }
  screen := .blank 8 8
  random := .ofSeed 0
  speed := 4

/-- The same machine with other random bytes and a key held down. -/
def sleepwalkerHeld : Machine :=
  { sleepwalker.withKeys ((Vector.replicate 16 false).setIfInBounds 4 true) with
    random := .ofSeed 1 }

/-- Neither the other random bytes nor the reports between the frames reach the
program, which draws in the second frame and then fails. -/
theorem unread_inputs_sleepwalker :
    let first : List Operation := [.key 1 true, .frame, .frame, .key 1 false]
    let second : List Operation :=
      [.frame, .key 2 true, .key 4 false, .frame]
    List.Forall₂ Turn.Alike (sleepwalker.paceTurns first)
        (sleepwalkerHeld.paceTurns second) ∧
      (sleepwalker.after first).screen =
        (sleepwalkerHeld.after second).screen ∧
      (sleepwalker.paceTurns first).map Turn.instructions =
        [[.set 1 5, .setDelay 1, .setSound 1, .random 3 0],
          [.draw 0 1 1, .ret]] := by
  intro first second
  have agree : sleepwalker.AgreeOff [.keys, .random] sleepwalkerHeld := by
    intro part visible
    cases part with
    | keys | random => exact absurd (by decide) visible
    | _ => rfl
  have firstPaced : ∀ operation ∈ first, operation.Paced := by
    simp only [first, List.forall_mem_cons]
    exact ⟨.key _ _, .frame, .frame, .key _ _,
      fun _ member => absurd member List.not_mem_nil⟩
  have secondPaced : ∀ operation ∈ second, operation.Paced := by
    simp only [second, List.forall_mem_cons]
    exact ⟨.frame, .key _ _, .key _ _, .frame,
      fun _ member => absurd member List.not_mem_nil⟩
  have instructions :
      (sleepwalker.turns first).map Turn.instructions =
        [[], [.set 1 5, .setDelay 1, .setSound 1, .random 3 0],
          [.draw 0 1 1, .ret], []] := by
    decide +kernel
  have unread : ∀ turn ∈ sleepwalker.turns first,
      ∀ instruction ∈ turn.instructions, ¬ instruction.TakesInput := by
    intro turn member
    have listed := List.mem_map_of_mem (f := Turn.instructions) member
    rw [instructions] at listed
    generalize turn.instructions = list at listed
    revert list
    simp [Instruction.TakesInput]
  have idle : sleepwalker.isWaiting = false := by decide +kernel
  obtain ⟨alike, agreeAfter⟩ :=
    unread_inputs agree idle firstPaced secondPaced rfl unread
  exact ⟨alike, agreeAfter .screen (by decide), by decide +kernel⟩

end Machine

end Chip8

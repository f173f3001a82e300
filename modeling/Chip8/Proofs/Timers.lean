import Chip8.Proofs.Calls
import Chip8.Proofs.Frame
import Chip8.Proofs.Parts

/-!
# Timers and the tone

While no instruction sets a timer, both timers only run down, by one in every
frame that does not wait for a key.

* `Operation.Hosted` lists the operations of a host that lets a program run, and
  `runningFrames` counts the frames of a run that are not held up;
* `times_turn` and `times_after` say what the timers show after an operation and
  after a run;
* `toneCalls_frame` says that a frame calls the tone once, whatever its steps
  do, and no step calls it (`toneCalls_step`);
* `timers_and_tone` puts this together: a sound lasts as many frames as its timer
  showed.
-/

namespace Chip8

/-- A host that lets a program run lets frames pass, sets the speed and reports
keys, whether these are keys of the keypad or not. -/
inductive Operation.Hosted : Operation → Prop where
  | frame : Hosted .frame
  | setSpeed (value : Datum) : Hosted (.setSpeed value)
  | reportKey (code : Datum) (pressed : Bool) :
      Hosted (.reportKey code pressed)

/-- The turn is a frame of a machine that waits for no key. -/
def Turn.runs (turn : Turn) : Bool :=
  match turn.operation with
  | .frame => !turn.before.isWaiting
  | _ => false

namespace Machine

/-- The number of frames in a run that begin while the machine waits for no
key. -/
def runningFrames (machine : Machine) (operations : List Operation) : Nat :=
  (machine.turns operations).countP Turn.runs

@[simp]
theorem runningFrames_nil (machine : Machine) :
    machine.runningFrames [] = 0 := rfl

@[simp]
theorem runningFrames_cons
    (machine : Machine) (operation : Operation) (rest : List Operation) :
    machine.runningFrames (operation :: rest) =
      (Turn.runs ⟨machine, operation⟩).toNat +
        (machine.apply operation).machine.runningFrames rest := by
  rw [runningFrames, turns_cons, List.countP_cons, Nat.add_comm]
  cases Turn.runs ⟨machine, operation⟩ <;> rfl

/-- What both timers show. -/
structure Times (delay sound : Nat) (machine : Machine) : Prop where
  delay_eq : machine.processor.delayTimer = delay
  sound_eq : machine.processor.soundTimer = sound

/-- The machine is about to carry out an instruction that sets no timer. -/
def KeepsTimers (machine : Machine) : Prop :=
  ∀ x : Register,
    machine.nextInstruction ≠ .setDelay x ∧
      machine.nextInstruction ≠ .setSound x

variable {delay sound : Nat} {machine : Machine}

/-! ## Timers -/

theorem times_step
    (keeps : machine.KeepsTimers) (times : machine.Times delay sound) :
    machine.step.machine.Times delay sound := by
  have agree := machine.advance.agreeOff_execute machine.nextInstruction
  have noDelay : Part.delayTimer ∉ machine.nextInstruction.parts := by
    cases instruction : machine.nextInstruction with
    | setDelay x => exact absurd instruction (keeps x).1
    | _ => simp [Instruction.parts]
  have noSound : Part.soundTimer ∉ machine.nextInstruction.parts := by
    cases instruction : machine.nextInstruction with
    | setSound x => exact absurd instruction (keeps x).2
    | _ => simp [Instruction.parts]
  exact ⟨(agree .delayTimer noDelay).symm.trans times.delay_eq,
    (agree .soundTimer noSound).symm.trans times.sound_eq⟩

theorem times_countDown (times : machine.Times delay sound) :
    machine.countDown.Times (delay - 1) (sound - 1) :=
  ⟨congrArg (· - 1) times.delay_eq, congrArg (· - 1) times.sound_eq⟩

theorem times_reportKey
    (times : machine.Times delay sound) (key : Key) (pressed : Bool) :
    { machine with
      processor := (machine.processor.reportKey key pressed).1 }.Times
        delay sound := by
  unfold Processor.reportKey
  split
  · exact times
  · simp only
    split <;> exact ⟨times.delay_eq, times.sound_eq⟩

theorem times_reportCode
    (times : machine.Times delay sound) (code : KeyCode) (pressed : Bool) :
    (machine.reportCode code pressed).machine.Times delay sound := by
  unfold reportCode
  split
  · exact times
  · exact times_reportKey times _ pressed

theorem times_frame
    (keep : ∀ fetch ∈ Turn.fetches ⟨machine, .frame⟩, fetch.KeepsTimers)
    (times : machine.Times delay sound) :
    machine.frame.machine.Times
      (delay - (Turn.runs ⟨machine, .frame⟩).toNat)
      (sound - (Turn.runs ⟨machine, .frame⟩).toNat) := by
  cases waits : machine.isWaiting with
  | true =>
      simp only [frame, Turn.runs, waits, if_true]
      exact times
  | false =>
      rw [Turn.fetches_frame waits] at keep
      simp only [frame, Turn.runs, waits, Bool.false_eq_true, if_false]
      exact (invariant_cycles (fun _ => times_step) _ (times_countDown times)
        keep).2

/-- Only frames that are not held up count the timers down. -/
theorem times_turn
    (turn : Turn) (hosted : turn.operation.Hosted)
    (keep : ∀ fetch ∈ turn.fetches, fetch.KeepsTimers)
    (times : turn.before.Times delay sound) :
    turn.after.Times (delay - turn.runs.toNat) (sound - turn.runs.toNat) := by
  obtain ⟨machine, operation⟩ := turn
  cases hosted with
  | frame => exact times_frame keep times
  | setSpeed value =>
      simp only [Turn.after, Turn.outcome, apply]
      split <;> exact ⟨times.delay_eq, times.sound_eq⟩
  | reportKey code pressed =>
      simp only [Turn.after, Turn.outcome, apply]
      split
      · exact times_reportCode times _ pressed
      · exact times

/-- A run counts the timers down by the number of its frames that are not held
up. -/
theorem times_after
    {operations : List Operation}
    (hosted : ∀ operation ∈ operations, operation.Hosted)
    (keep : ∀ fetch ∈ machine.fetches operations, fetch.KeepsTimers)
    (times : machine.Times delay sound) :
    (machine.after operations).Times
      (delay - machine.runningFrames operations)
      (sound - machine.runningFrames operations) := by
  induction operations generalizing machine delay sound with
  | nil =>
      exact times
  | cons operation rest inductionHypothesis =>
      obtain ⟨nowHosted, laterHosted⟩ := List.forall_mem_cons.mp hosted
      rw [fetches_cons, List.forall_mem_append] at keep
      have next : (machine.apply operation).machine.Times _ _ :=
        times_turn ⟨machine, operation⟩ nowHosted keep.1 times
      have inTheEnd := inductionHypothesis laterHosted keep.2 next
      rw [Nat.sub_sub, Nat.sub_sub, ← runningFrames_cons] at inTheEnd
      exact inTheEnd

/-! ## The tone -/

theorem toneCalls_execute (machine : Machine) (instruction : Instruction) :
    toneCalls (machine.execute instruction).events = [] := by
  unfold execute
  split
  · exact toneCalls_map_pixel _
  · exact toneCalls_map_pixel _
  · rfl
  · simp only [processorEvents]
    split <;> rfl

theorem toneCalls_step (machine : Machine) :
    toneCalls machine.step.events = [] :=
  machine.advance.toneCalls_execute machine.nextInstruction

theorem toneCalls_steps (fetches : List Machine) :
    toneCalls (fetches.flatMap fun fetch => fetch.step.events) = [] := by
  induction fetches with
  | nil =>
      rfl
  | cons fetch rest inductionHypothesis =>
      rw [List.flatMap_cons, toneCalls_append, toneCalls_step,
        inductionHypothesis, List.nil_append]

/-- A frame calls the tone once, before its steps. -/
theorem toneCalls_frame (machine : Machine) :
    toneCalls machine.frame.events =
      [if machine.isWaiting then .stop else machine.frameTone] := by
  cases waits : machine.isWaiting with
  | true =>
      simp only [frame, waits, if_true]
      rfl
  | false =>
      simp only [frame, waits, Bool.false_eq_true, if_false]
      rw [events_cycles, toneCalls_append, toneCalls_steps, List.append_nil]
      rfl

/-- Whatever a host does between frames, the tone is not called. -/
theorem toneCalls_apply
    {operation : Operation} (hosted : operation.Hosted)
    (noFrame : operation ≠ .frame) :
    toneCalls (machine.apply operation).events = [] := by
  cases hosted with
  | frame => exact absurd rfl noFrame
  | setSpeed value =>
      simp only [apply]
      split <;> rfl
  | reportKey code pressed =>
      simp only [apply, reportCode]
      split
      · split
        · rfl
        · next key _ =>
            simp only [reportKey]
            cases (machine.processor.reportKey key pressed).2 <;> rfl
      · rfl

/-- While a host lets a program run that sets no timer, both timers run down by
one in each frame that does not find the machine waiting, and stay at zero.  The
tone is called once in every frame, whether that fails or not: it plays in as
many of those frames, from the first on, as the sound timer showed, and is
stopped in the others and while the machine waits.  A recorder hears these calls
and no others. -/
theorem timers_and_tone
    {machine : Machine} {operations : List Operation}
    (hosted : ∀ operation ∈ operations, operation.Hosted)
    (keep : ∀ fetch ∈ machine.fetches operations, fetch.KeepsTimers) :
    let last := (machine.after operations).processor
    let running := machine.runningFrames operations
    last.delayTimer = machine.processor.delayTimer - running ∧
      last.soundTimer = machine.processor.soundTimer - running ∧
      (∀ done rest, operations = done ++ .frame :: rest →
        let before := machine.after done
        toneCalls before.frame.events =
          if before.isWaiting = false ∧
              machine.runningFrames done < machine.processor.soundTimer then
            [.play]
          else [.stop]) ∧
      (∀ done operation rest, operations = done ++ operation :: rest →
        operation ≠ .frame →
          toneCalls ((machine.after done).apply operation).events = []) ∧
      ∀ observers : Observers, observers.tone = .recorder →
        let notices := (machine.published operations).map .machine
        Effect.tones (observers.observeAll notices).2 =
          (machine.turns operations).flatMap fun turn =>
            toneCalls turn.outcome.events := by
  intro last running
  obtain ⟨delay_eq, sound_eq⟩ := times_after hosted keep ⟨rfl, rfl⟩
  refine ⟨delay_eq, sound_eq, ?_, ?_, ?_⟩
  · intro done rest parted before
    subst parted
    rw [fetches_append, List.forall_mem_append] at keep
    have times : before.Times _ _ :=
      times_after (List.forall_mem_append.mp hosted).1 keep.1 ⟨rfl, rfl⟩
    rw [toneCalls_frame, frameTone, times.sound_eq]
    cases before.isWaiting with
    | true =>
        simp only [Bool.true_eq_false, false_and, if_true, if_false]
    | false =>
        simp only [Bool.false_eq_true, if_false, true_and, gt_iff_lt,
          Nat.sub_pos_iff_lt]
        split <;> rfl
  · intro done operation rest parted noFrame
    subst parted
    exact toneCalls_apply (hosted operation (by simp)) noFrame
  · intro observers records notices
    rw [Effect.tones_observeAll records, Notice.filterMap_toneCall?_machine,
      published, toneCalls, List.filterMap_flatMap]
    rfl

/-- A machine that sounds, whose program waits for a key and then returns from
nowhere. -/
def alarm : Machine where
  processor :=
    { [0x61, 0x07, 0xF2, 0x0A, 0x00, 0xEE, 0x73, 0x01].zipIdx.foldl
        (fun current entry => current.write entry.2 entry.1)
        (Processor.starting (Vector.replicate memorySize 0)) with
      pc := 0
      delayTimer := 5
      soundTimer := 2 }
  screen := .blank 8 8
  random := .ofSeed 0
  speed := 3

/-- A frame that is held up stops the tone and keeps the timers, so the sound
goes on in a later frame, although that one fails. -/
theorem timers_and_tone_alarm :
    let operations : List Operation :=
      [.frame, .frame, .reportKey (.integer 5) true, .frame,
        .setSpeed (.integer 1), .reportKey (.integer 99) true, .frame]
    let notices := (alarm.published operations).map .machine
    (alarm.after operations).processor.delayTimer = 2 ∧
      (alarm.after operations).processor.soundTimer = 0 ∧
      Effect.tones (Observers.observeAll ⟨false, none, .recorder⟩ notices).2 =
        [.play, .stop, .play, .stop] ∧
      toneCalls (alarm.after (operations.take 3)).frame.events = [.play] ∧
      (alarm.after (operations.take 3)).frame.result.isOk = false := by
  intro operations notices
  have hosted : ∀ operation ∈ operations, operation.Hosted := by
    simp only [operations, List.forall_mem_cons]
    exact ⟨.frame, .frame, .reportKey _ _, .frame, .setSpeed _,
      .reportKey _ _, .frame, fun _ member => absurd member List.not_mem_nil⟩
  have instructions :
      (alarm.fetches operations).map nextInstruction =
        [.set 1 7, .awaitKey 2, .ret, .increase 3 1] := by
    decide +kernel
  have each :
      ∀ instruction ∈ (alarm.fetches operations).map nextInstruction,
        ∀ x : Register,
          instruction ≠ .setDelay x ∧ instruction ≠ .setSound x := by
    rw [instructions]
    simp
  have keep : ∀ fetch ∈ alarm.fetches operations, fetch.KeepsTimers :=
    fun fetch member => each _ (List.mem_map_of_mem member)
  have running : alarm.runningFrames operations = 3 := by decide +kernel
  have earlier : alarm.runningFrames (operations.take 3) = 1 := by
    decide +kernel
  have idle : (alarm.after (operations.take 3)).isWaiting = false := by
    decide +kernel
  obtain ⟨delay_eq, sound_eq, frames, -, recorded⟩ :=
    timers_and_tone hosted keep
  rw [running] at delay_eq sound_eq
  have sounds :
      alarm.runningFrames (operations.take 3) < alarm.processor.soundTimer := by
    rw [earlier]
    decide
  have plays :=
    (frames (operations.take 3) (operations.drop 4) rfl).trans
      (if_pos ⟨idle, sounds⟩)
  refine ⟨delay_eq, sound_eq, ?_, plays, by decide +kernel⟩
  rw [recorded _ rfl]
  decide +kernel

end Machine

end Chip8

import Chip8.Proofs.Interference
import Chip8.Proofs.KeyWait

/-!
# Pacing

How many steps a frame makes is seen by a program through the delay timer and
through key waits only.

* `Steady` says that a machine is about to make a step that completes, reads no
  delay and waits for no key;
* `cycles_of_steady` and `frame_of_steady` say that a frame makes its steps, and
  leaves all parts but the timers as single steps do;
* `pacing` says that frames of any speed leave behind what as many single steps
  leave behind.
-/

namespace Chip8

/-- The machine is about to make a step that completes, with an instruction that
neither reads the delay timer nor waits for a key. -/
structure Machine.Steady (machine : Machine) : Prop where
  completes : machine.step.result = .ok ()
  noDelay : ∀ x : Register, machine.nextInstruction ≠ .readDelay x
  noWait : ∀ x : Register, machine.nextInstruction ≠ .awaitKey x

/-- The parts that depend on how steps are grouped into frames. -/
def pace : List Part := [.delayTimer, .soundTimer, .speed]

/-- No instruction but one reads a part that depends on the pace. -/
theorem Instruction.not_mem_pace_of_reads
    {instruction : Instruction}
    (noDelay : ∀ x : Register, instruction ≠ .readDelay x)
    {part : Part} (read : part ∈ instruction.reads) :
    part ∉ pace := by
  cases instruction with
  | readDelay x => exact absurd rfl (noDelay x)
  | random x mask =>
      by_cases noBit : mask = 0 <;> simp_all [reads, pace]
  | _ =>
      revert part
      simp [reads, pace]

namespace Machine

def atSpeed (machine : Machine) (speed : Nat) : Machine :=
  { machine with speed := speed }

theorem speed_atSpeed (machine : Machine) (speed : Nat) :
    (machine.atSpeed speed).speed = speed := rfl

variable {left right machine : Machine}

theorem agreeOff_countDown
    (agree : left.AgreeOff pace right) :
    left.countDown.AgreeOff pace right := by
  intro part visible
  have same := agree part visible
  cases part with
  | delayTimer | soundTimer => exact absurd (by decide) visible
  | _ => exact same

theorem agreeOff_atSpeed (machine : Machine) (speed : Nat) :
    (machine.atSpeed speed).AgreeOff pace machine := by
  intro part visible
  cases part with
  | speed => exact absurd (by decide) visible
  | _ => rfl

/-- A steady step of a machine is a step of every machine that differs in pace,
and neither of them waits after it. -/
theorem step_of_steady
    (agree : left.AgreeOff pace right) (idle : right.isWaiting = false)
    (steady : right.Steady) :
    left.step.result = .ok () ∧
      left.step.machine.AgreeOff pace right.step.machine ∧
      right.step.machine.isWaiting = false := by
  have instruction := agree.nextInstruction (by decide) (by decide)
  have blind : ∀ part ∈ left.nextInstruction.reads, part ∉ pace := by
    rw [instruction]
    exact fun part read => Instruction.not_mem_pace_of_reads steady.noDelay read
  obtain ⟨agreeAfter, result⟩ :=
    agree.step (by decide) (by decide) blind
  refine ⟨result.trans steady.completes, agreeAfter, ?_⟩
  have waiting := waiting_step steady.noWait
  simp only [isWaiting, Processor.isWaiting, waiting]
  exact idle

/-- Cycles make all their steps if as many single steps are steady, and leave
what these leave, up to the pace. -/
theorem cycles_of_steady
    {count : Nat} (published : List Event)
    (agree : left.AgreeOff pace right) (idle : right.isWaiting = false)
    (steady : ∀ fetch ∈ right.fetches (List.replicate count .step),
      fetch.Steady) :
    let after := right.after (List.replicate count .step)
    (cycles count left published).result = .ok () ∧
      (cycles count left published).machine.AgreeOff pace after ∧
      after.isWaiting = false := by
  induction count generalizing left right published with
  | zero =>
      exact ⟨rfl, agree, idle⟩
  | succ count inductionHypothesis =>
      rw [List.replicate_succ, fetches_cons] at steady
      -- Only the first fetch is of this machine: the rest start one step on.
      have now : right.Steady :=
        steady right (List.mem_append_left _ List.mem_cons_self)
      have later : ∀ fetch ∈ right.step.machine.fetches
          (List.replicate count .step), fetch.Steady :=
        fun fetch member => steady fetch (List.mem_append_right _ member)
      obtain ⟨result, agreeAfter, stillIdle⟩ := step_of_steady agree idle now
      have runs : left.step.machine.isWaiting = false :=
        (agreeAfter.isWaiting (by decide)).trans stillIdle
      simp only [cycles, result, runs, Bool.false_eq_true, if_false]
      exact inductionHypothesis _ agreeAfter stillIdle later

theorem frame_of_steady
    (agree : left.AgreeOff pace right) (idle : right.isWaiting = false)
    (steady : ∀ fetch ∈ right.fetches (List.replicate left.speed .step),
      fetch.Steady) :
    let after := right.after (List.replicate left.speed .step)
    left.frame.result = .ok () ∧
      left.frame.machine.AgreeOff pace after ∧
      after.isWaiting = false := by
  have runs : left.isWaiting = false :=
    (agree.isWaiting (by decide)).trans idle
  simp only [frame, runs, Bool.false_eq_true, if_false]
  exact cycles_of_steady _ (agreeOff_countDown agree) idle steady

theorem speed_step (machine : Machine) :
    machine.step.machine.speed = machine.speed := by
  have unchanged : Part.speed ∉ machine.nextInstruction.parts := by
    cases machine.nextInstruction <;> simp [Instruction.parts]
  exact (machine.advance.agreeOff_execute _ .speed unchanged).symm

theorem speed_frame (machine : Machine) :
    machine.frame.machine.speed = machine.speed := by
  have kept : ∀ fetch : Machine, True → fetch.speed = machine.speed →
      fetch.step.machine.speed = machine.speed :=
    fun fetch _ same => (speed_step fetch).trans same
  unfold frame
  split
  · rfl
  · have counted : machine.countDown.speed = machine.speed := rfl
    exact (invariant_cycles kept _ counted fun _ _ => trivial).2

/-- Frames of a machine complete and leave behind what as many steady steps
leave, up to the pace. -/
theorem frames_of_steady
    {count speed : Nat} (speed_eq : left.speed = speed)
    (agree : left.AgreeOff pace right) (idle : right.isWaiting = false)
    (steady : ∀ fetch ∈ right.fetches (List.replicate (count * speed) .step),
      fetch.Steady) :
    (∀ turn ∈ left.turns (List.replicate count .frame),
        turn.outcome.result = .ok .nothing) ∧
      (left.after (List.replicate count .frame)).AgreeOff pace
        (right.after (List.replicate (count * speed) .step)) := by
  -- Over the frames: that the machines agree and do not wait carries it on,
  -- since each frame uses up one block of the steps.
  induction count generalizing left right with
  | zero =>
      rw [Nat.zero_mul]
      exact ⟨fun turn member => absurd member List.not_mem_nil, agree⟩
  | succ count inductionHypothesis =>
      have steps :
          List.replicate ((count + 1) * speed) Operation.step =
            List.replicate left.speed .step ++
              List.replicate (count * speed) .step := by
        rw [List.replicate_append_replicate, speed_eq, Nat.succ_mul,
          Nat.add_comm]
      rw [steps, fetches_append] at steady
      obtain ⟨result, agreeAfter, stillIdle⟩ :=
        frame_of_steady agree idle fun fetch member =>
          steady fetch (List.mem_append_left _ member)
      have next := inductionHypothesis ((speed_frame left).trans speed_eq)
        agreeAfter stillIdle fun fetch member =>
          steady fetch (List.mem_append_right _ member)
      have completes :
          Turn.outcome ⟨left, .frame⟩ =
            ⟨left.frame.machine, left.frame.events, .ok .nothing⟩ := by
        simp only [Turn.outcome, apply, silent, result]
      rw [steps, after_append, List.replicate_succ, turns_cons, after_cons]
      refine ⟨?_, next.2⟩
      intro turn member
      rcases List.mem_cons.mp member with atHead | inTail
      · rw [atHead, completes]
      · exact next.1 turn inTail

/-- Single steps that complete, read no delay and wait for no key may be grouped
into frames of any speed: the frames complete, and leave all parts of the machine
as the steps do, save the timers and the speed.  So two groupings of the same
number of steps cannot be told apart either. -/
theorem pacing
    {machine : Machine} {count speed : Nat}
    (idle : machine.isWaiting = false)
    (steady : ∀ fetch ∈ machine.fetches (List.replicate (count * speed) .step),
      fetch.Steady) :
    (∀ turn ∈ (machine.atSpeed speed).turns (List.replicate count .frame),
        turn.outcome.result = .ok .nothing) ∧
      ((machine.atSpeed speed).after (List.replicate count .frame)).AgreeOff
        [.delayTimer, .soundTimer, .speed]
        (machine.after (List.replicate (count * speed) .step)) ∧
      ∀ otherCount otherSpeed : Nat,
        otherCount * otherSpeed = count * speed →
        ((machine.atSpeed speed).after (List.replicate count .frame)).AgreeOff
          [.delayTimer, .soundTimer, .speed]
          ((machine.atSpeed otherSpeed).after
            (List.replicate otherCount .frame)) := by
  have frames (chosen number : Nat) (same : number * chosen = count * speed) :=
    frames_of_steady (machine.speed_atSpeed chosen)
      (machine.agreeOff_atSpeed chosen) idle (same ▸ steady)
  obtain ⟨complete, agree⟩ := frames speed count rfl
  refine ⟨complete, agree, ?_⟩
  intro otherCount otherSpeed same
  obtain ⟨-, other⟩ := frames otherSpeed otherCount same
  rw [same] at other
  exact agree.trans other.symm

/-- A machine whose program starts both timers, then draws in a loop. -/
def drummer : Machine where
  processor :=
    { [0x61, 0x05, 0xF1, 0x15, 0xF1, 0x18, 0xD0, 0x12, 0x71, 0x01, 0x10,
        0x06].zipIdx.foldl
        (fun current entry => current.write entry.2 entry.1)
        (Processor.starting (Vector.replicate memorySize 0)) with
      pc := 0 }
  screen := .blank 8 8
  random := .ofSeed 0
  speed := 1

/-- Two frames of three steps do what six frames of one step do, although the
timers run down differently. -/
theorem pacing_drummer :
    let loud := (drummer.atSpeed 3).after (List.replicate 2 .frame)
    let long := (drummer.atSpeed 1).after (List.replicate 6 .frame)
    loud.AgreeOff [.delayTimer, .soundTimer, .speed]
        (drummer.after (List.replicate 6 .step)) ∧
      loud.AgreeOff [.delayTimer, .soundTimer, .speed] long ∧
      loud.processor.delayTimer = 4 ∧ long.processor.delayTimer = 1 := by
  have instructions :
      (drummer.fetches (List.replicate (2 * 3) .step)).map nextInstruction =
        [.set 1 5, .setDelay 1, .setSound 1, .draw 0 1 2, .increase 1 1,
          .jump 6] := by
    decide +kernel
  have complete :
      ∀ fetch ∈ drummer.fetches (List.replicate (2 * 3) .step),
        fetch.step.result.isOk = true := by
    decide +kernel
  have steady :
      ∀ fetch ∈ drummer.fetches (List.replicate (2 * 3) .step),
        fetch.Steady := by
    intro fetch member
    have named := List.mem_map_of_mem (f := nextInstruction) member
    rw [instructions] at named
    refine ⟨ok_of_isOk (complete fetch member), ?_, ?_⟩
    · intro x same
      rw [same] at named
      simp at named
    · intro x same
      rw [same] at named
      simp at named
  obtain ⟨-, single, grouped⟩ := pacing rfl steady
  exact ⟨single, grouped 6 1 rfl, by decide +kernel, by decide +kernel⟩

end Machine

end Chip8

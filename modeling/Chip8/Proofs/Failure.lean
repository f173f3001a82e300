import Chip8.Proofs.Opcode
import Chip8.Proofs.Pacing

/-!
# Failures

A word that fails changes nothing, wherever it stands in a frame.

* `Fault.Arises` is the table of failures: a call on a full return stack and a
  return on an empty one, and nothing else;
* `step_of_error` says that a failing step only moves the program counter past
  its word;
* `FailsAfter` counts the steps that a frame completes before it fails, and
  `cycles_of_failsAfter` says what these and the failing one leave behind.
-/

namespace Chip8

/-! ## Words that fail -/

namespace Instruction

theorem decode_eq_ret_iff {opcode : Int} :
    decode opcode = .ret ↔ opcode = 0x00EE := by
  constructor
  · intro isReturn
    rcases spells_decode opcode with ignored | ⟨word, rfl, spells⟩
    · rw [isReturn] at ignored
      contradiction
    · rw [isReturn] at spells
      cases spells
      rfl
  · rintro rfl
    rfl

theorem decode_eq_call_iff {opcode : Int} :
    (∃ target, decode opcode = .call target) ↔
      0x2000 ≤ opcode ∧ opcode ≤ 0x2FFF := by
  constructor
  · rintro ⟨target, isCall⟩
    rcases spells_decode opcode with ignored | ⟨word, rfl, spells⟩
    · rw [isCall] at ignored
      contradiction
    · rw [isCall] at spells
      cases spells with
      | call target => omega
  · rintro ⟨low, high⟩
    obtain ⟨word, rfl⟩ := Int.eq_ofNat_of_zero_le (by omega : 0 ≤ opcode)
    exact ⟨word % 0x1000, decodeWord_of_call (by omega)⟩

end Instruction

/-- A word raises a fault at a depth of the return stack. -/
inductive Fault.Arises : Fault → Fin 17 → Int → Prop where
  | overflow {opcode : Int} (isCall : 0x2000 ≤ opcode ∧ opcode ≤ 0x2FFF) :
      Arises .stackOverflow 16 opcode
  | underflow : Arises .stackUnderflow 0 0x00EE

namespace Machine

variable {machine : Machine} {fault : Fault}

/-- The failures of words are those of the table. -/
theorem result_executeWord_eq_error_iff (opcode : Int) :
    (machine.executeWord opcode).result = .error fault ↔
      fault.Arises machine.processor.sp opcode := by
  rw [executeWord, result_execute_eq_error_iff,
    Processor.result_execute_eq_error_iff, Instruction.decode_eq_call_iff,
    Instruction.decode_eq_ret_iff]
  constructor
  · rintro (⟨isCall, full, rfl⟩ | ⟨rfl, empty, rfl⟩)
    · rw [full]
      exact .overflow isCall
    · rw [empty]
      exact .underflow
  · generalize machine.processor.sp = depth
    intro arises
    cases arises with
    | overflow isCall => exact .inl ⟨isCall, rfl, rfl⟩
    | underflow => exact .inr ⟨rfl, rfl, rfl⟩

theorem result_step_eq_error_iff :
    machine.step.result = .error fault ↔
      fault.Arises machine.processor.sp machine.processor.nextWord :=
  @result_executeWord_eq_error_iff machine.advance fault _

/-- A step that fails only moves past its word. -/
theorem step_of_error (failed : machine.step.result = .error fault) :
    machine.step =
      ⟨machine.advance,
        [.executing machine.processor.pc machine.processor.nextWord],
        .error fault⟩ := by
  have unchanged :
      machine.advance.executeWord machine.processor.nextWord =
        ⟨machine.advance, [], .error fault⟩ :=
    execute_of_error failed
  unfold advance at unchanged
  simp only [step, unchanged, advance]

/-! ## Frames that fail -/

/-- The first steps complete, without a wait, and the one after them fails. -/
structure FailsAfter (machine : Machine) (completed : Nat) (fault : Fault) :
    Prop where
  completes : ∀ turn ∈ machine.turns (List.replicate completed .step),
    turn.outcome.result = .ok .nothing ∧ turn.after.isWaiting = false
  fails :
    (machine.after (List.replicate completed .step)).step.result =
      .error fault

theorem failsAfter_zero :
    machine.FailsAfter 0 fault ↔ machine.step.result = .error fault := by
  constructor
  · exact fun failure => failure.fails
  · exact fun failed => ⟨fun _ member => absurd member List.not_mem_nil, failed⟩

theorem result_apply_step :
    (machine.apply .step).result = .ok .nothing ↔
      machine.step.result = .ok () := by
  simp only [apply, silent]
  cases machine.step.result <;> simp

theorem failsAfter_succ {completed : Nat} :
    machine.FailsAfter (completed + 1) fault ↔
      machine.step.result = .ok () ∧
        machine.step.machine.isWaiting = false ∧
        machine.step.machine.FailsAfter completed fault := by
  constructor
  · rintro ⟨completes, fails⟩
    rw [List.replicate_succ, turns_cons, List.forall_mem_cons] at completes
    obtain ⟨⟨first, runs⟩, rest⟩ := completes
    exact ⟨result_apply_step.mp first, runs, rest, fails⟩
  · rintro ⟨first, runs, rest, fails⟩
    refine ⟨?_, fails⟩
    rw [List.replicate_succ, turns_cons, List.forall_mem_cons]
    exact ⟨⟨result_apply_step.mpr first, runs⟩, rest⟩

/-- Cycles fail with one of their steps. -/
theorem exists_failsAfter_of_cycles
    {count : Nat} {published : List Event}
    (failed : (cycles count machine published).result = .error fault) :
    ∃ completed < count, machine.FailsAfter completed fault := by
  induction count generalizing machine published with
  | zero =>
      contradiction
  | succ count inductionHypothesis =>
      simp only [cycles] at failed
      split at failed
      · next reason stepFailed =>
          cases failed
          exact ⟨0, Nat.succ_pos count, failsAfter_zero.mpr stepFailed⟩
      · next success =>
          split at failed
          · contradiction
          · next runs =>
              obtain ⟨completed, within, later⟩ := inductionHypothesis failed
              exact ⟨completed + 1, Nat.succ_lt_succ within,
                failsAfter_succ.mpr ⟨success, eq_false_of_ne_true runs,
                  later⟩⟩

/-- Cycles in which a step fails leave behind what the completed steps leave
behind, with the program counter moved past the word that fails. -/
theorem cycles_of_failsAfter
    {count completed : Nat} (published : List Event)
    (within : completed < count)
    (failure : machine.FailsAfter completed fault) :
    let failing := machine.after (List.replicate completed .step)
    cycles count machine published =
      ⟨failing.advance,
        published.reverse ++
          ((machine.turns (List.replicate completed .step)).flatMap fun turn =>
            turn.outcome.events) ++
          [.executing failing.processor.pc failing.processor.nextWord],
        .error fault⟩ := by
  induction completed generalizing count machine published with
  | zero =>
      obtain ⟨count, rfl⟩ :=
        Nat.exists_eq_add_one_of_ne_zero (Nat.ne_zero_of_lt within)
      have failed := failsAfter_zero.mp failure
      rw [cycles_of_error count published failed, step_of_error failed]
      simp [List.reverseAux_eq]
  | succ completed inductionHypothesis =>
      obtain ⟨count, rfl⟩ :=
        Nat.exists_eq_add_one_of_ne_zero (Nat.ne_zero_of_lt within)
      obtain ⟨success, runs, later⟩ := failsAfter_succ.mp failure
      have isOk : machine.step.result.isOk = true := by
        rw [success]
        rfl
      rw [cycles_succ count published isOk runs,
        inductionHypothesis _ (Nat.lt_of_succ_lt_succ within) later]
      simp [List.reverseAux_eq, List.replicate_succ, Turn.outcome, apply, silent]

theorem FailsAfter.isWaiting
    {completed : Nat} (failure : machine.FailsAfter completed fault)
    (idle : machine.isWaiting = false) :
    (machine.after (List.replicate completed .step)).isWaiting = false := by
  induction completed generalizing machine with
  | zero =>
      exact idle
  | succ completed inductionHypothesis =>
      obtain ⟨-, runs, later⟩ := failsAfter_succ.mp failure
      exact inductionHypothesis later runs

theorem frame_of_failsAfter
    {completed : Nat} (idle : machine.isWaiting = false)
    (within : completed < machine.speed)
    (failure : machine.countDown.FailsAfter completed fault) :
    let completes := List.replicate completed Operation.step
    let failing := machine.countDown.after completes
    machine.frame =
      ⟨failing.advance,
        [.countedDown, .tone machine.frameTone] ++
          ((machine.countDown.turns completes).flatMap fun turn =>
            turn.outcome.events) ++
          [.executing failing.processor.pc failing.processor.nextWord],
        .error fault⟩ := by
  intro completes failing
  simp only [frame, idle, Bool.false_eq_true, if_false]
  exact cycles_of_failsAfter _ within failure

/-- A frame fails exactly if it does not wait and one of its steps fails. -/
theorem result_frame_eq_error_iff :
    machine.frame.result = .error fault ↔
      machine.isWaiting = false ∧
        ∃ completed < machine.speed,
          machine.countDown.FailsAfter completed fault := by
  constructor
  · intro failed
    unfold frame at failed
    split at failed
    · contradiction
    · next idle =>
        exact ⟨eq_false_of_ne_true idle, exists_failsAfter_of_cycles failed⟩
  · rintro ⟨idle, completed, within, failure⟩
    rw [frame_of_failsAfter idle within failure]

/-- A machine that runs fetches its next instruction where it stands. -/
theorem head?_fetches_frame
    (idle : machine.isWaiting = false) (positive : 0 < machine.speed) :
    (Turn.fetches ⟨machine, .frame⟩).head? = some machine.countDown := by
  obtain ⟨count, speed⟩ :=
    Nat.exists_eq_add_one_of_ne_zero (Nat.ne_zero_of_lt positive)
  rw [Turn.fetches_frame idle, speed]
  rfl

/-- Failures are atomic.  A word fails if the table of failures says so, and
then changes nothing.  A step fails if its word does, and then only moves past
it.  A frame fails if, counted down, it comes to a step that fails after some
that complete, and then leaves behind what the completed ones leave behind,
moved past the word that fails, so that the next step or frame goes on with the
word after it. -/
theorem failure_is_atomic (machine : Machine) (opcode : Int) (fault : Fault) :
    let passed (current : Machine) : Machine :=
      { current with
        processor := { current.processor with
          pc := (current.processor.pc + 2) % 0x10000 } }
    let counted (current : Machine) : Machine :=
      { current with
        processor := { current.processor with
          delayTimer := current.processor.delayTimer - 1
          soundTimer := current.processor.soundTimer - 1 } }
    ((machine.executeWord opcode).result = .error fault ↔
        fault.Arises machine.processor.sp opcode) ∧
      ((machine.executeWord opcode).result = .error fault →
        machine.executeWord opcode = ⟨machine, [], .error fault⟩) ∧
      (machine.step.result = .error fault ↔
        fault.Arises machine.processor.sp machine.processor.nextWord) ∧
      (machine.step.result = .error fault →
        machine.step =
          ⟨passed machine,
            [.executing machine.processor.pc machine.processor.nextWord],
            .error fault⟩) ∧
      (machine.frame.result = .error fault ↔
        machine.isWaiting = false ∧
          ∃ completed < machine.speed,
            (counted machine).FailsAfter completed fault) ∧
      ∀ completed < machine.speed, machine.isWaiting = false →
        (counted machine).FailsAfter completed fault →
        let completes := List.replicate completed Operation.step
        let failing := (counted machine).after completes
        machine.frame =
            ⟨passed failing,
              [.countedDown, .tone machine.frameTone] ++
                (((counted machine).turns completes).flatMap fun turn =>
                  turn.outcome.events) ++
                [.executing failing.processor.pc failing.processor.nextWord],
              .error fault⟩ ∧
          (Turn.fetches ⟨passed failing, .step⟩).head? = some (passed failing) ∧
          (Turn.fetches ⟨passed failing, .frame⟩).head? =
            some (counted (passed failing)) := by
  intro passed counted
  refine ⟨result_executeWord_eq_error_iff opcode, execute_of_error,
    result_step_eq_error_iff, step_of_error, result_frame_eq_error_iff, ?_⟩
  intro completed within idle failure completes failing
  have left := frame_of_failsAfter idle within failure
  have runs : (passed failing).isWaiting = false := failure.isWaiting idle
  have speed : (passed failing).speed = machine.speed := by
    rw [← speed_frame machine, left]
    rfl
  have positive : 0 < (passed failing).speed := by
    rw [speed]
    exact Nat.zero_lt_of_lt within
  exact ⟨left, rfl, head?_fetches_frame runs positive⟩

/-- A machine with no room for a return address, whose program sets a register,
starts the sound timer, calls, and sets another register. -/
def crowded : Machine where
  processor :=
    { [0x61, 0x07, 0xF1, 0x18, 0x23, 0x00, 0x62, 0x09].zipIdx.foldl
        (fun current entry => current.write entry.2 entry.1)
        (Processor.starting (Vector.replicate memorySize 0)) with
      pc := 0
      sp := 16
      soundTimer := 1 }
  screen := .blank 8 8
  random := .ofSeed 0
  speed := 5

/-- The call fails in the middle of a frame: the instructions before it are
carried out, and the next frame begins with the one after it. -/
theorem failure_is_atomic_crowded :
    crowded.isWaiting = false ∧
      crowded.frame.result = .error .stackOverflow ∧
      crowded.frame.events =
        [.countedDown, .tone .play, .executing 0 0x6107, .executing 2 0xF118,
          .executing 4 0x2300] ∧
      crowded.frame.machine.processor.soundTimer = 7 ∧
      crowded.frame.machine.processor.pc = 6 ∧
      (Turn.fetches ⟨crowded.frame.machine, .frame⟩).head? =
        some crowded.frame.machine.countDown := by
  have idle : crowded.isWaiting = false := by decide +kernel
  have overflows :
      Fault.Arises .stackOverflow
        crowded.countDown.step.machine.step.machine.processor.sp
        crowded.countDown.step.machine.step.machine.processor.nextWord := by
    have full :
        crowded.countDown.step.machine.step.machine.processor.sp = 16 := by
      decide +kernel
    have word :
        crowded.countDown.step.machine.step.machine.processor.nextWord =
          0x2300 := by
      decide +kernel
    rw [full, word]
    exact .overflow ⟨by decide, by decide⟩
  have failure : crowded.countDown.FailsAfter 2 .stackOverflow :=
    failsAfter_succ.mpr
      ⟨ok_of_isOk (by decide +kernel), by decide +kernel,
        failsAfter_succ.mpr
          ⟨ok_of_isOk (by decide +kernel), by decide +kernel,
            failsAfter_zero.mpr (result_step_eq_error_iff.mpr overflows)⟩⟩
  obtain ⟨-, -, -, -, -, frames⟩ :=
    failure_is_atomic crowded 0x2300 .stackOverflow
  obtain ⟨left, -, next⟩ := frames 2 (by decide) idle failure
  rw [left]
  exact ⟨idle, rfl, by decide +kernel, by decide +kernel, by decide +kernel,
    next⟩

end Machine

end Chip8

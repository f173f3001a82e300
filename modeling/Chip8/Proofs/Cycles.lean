import Chip8.Proofs.Failure
import Chip8.Proofs.Timers

/-!
# The steps of a frame

A frame makes single steps, as many as its speed allows, unless a wait or a
fault ends it earlier.

* `StopsAfter` counts the steps up to the first one that leaves the machine
  waiting, or all of them, and `exists_stopsAfter` says that there is such a
  count;
* `cycles_of_stopsAfter` says what these steps leave behind if they complete,
  and `failsAfter_of_stopsAfter` that otherwise the first one that fails ends
  the frame;
* `frame_of_steps` says this of the frames of a run, whatever earlier frames
  left out.
-/

namespace Chip8.Machine

variable {machine : Machine} {fault : Fault} {limit count : Nat}

/-! ## Counting steps -/

/-- The count is the least number of steps, from one to a limit, after which the
machine waits for a key, or the limit if there is no such number. -/
structure StopsAfter (machine : Machine) (limit count : Nat) : Prop where
  positive : 0 < count
  within : count ≤ limit
  least : ∀ earlier, 0 < earlier → earlier < count →
    (machine.after (List.replicate earlier .step)).isWaiting = false
  stops :
    (machine.after (List.replicate count .step)).isWaiting = true ∨
      count = limit

theorem stopsAfter_one :
    machine.StopsAfter (limit + 1) 1 ↔
      machine.step.machine.isWaiting = true ∨ limit = 0 := by
  constructor
  · intro stopping
    rcases stopping.stops with waits | all
    · exact .inl waits
    · exact .inr (by omega)
  · intro stops
    refine ⟨Nat.one_pos, by omega, ?_, ?_⟩
    · intro earlier positive before
      omega
    · rcases stops with waits | none
      · exact .inl waits
      · exact .inr (by omega)

/-- Counting may start after the first step if the machine does not wait then. -/
theorem stopsAfter_succ (positive : 0 < count) :
    machine.StopsAfter (limit + 1) (count + 1) ↔
      machine.step.machine.isWaiting = false ∧
        machine.step.machine.StopsAfter limit count := by
  constructor
  · intro stopping
    have runs : machine.step.machine.isWaiting = false :=
      stopping.least 1 Nat.one_pos (by omega)
    refine ⟨runs, positive, by have := stopping.within; omega, ?_, ?_⟩
    · intro earlier _ before
      exact stopping.least (earlier + 1) (Nat.succ_pos _) (by omega)
    · rcases stopping.stops with waits | all
      · exact .inl waits
      · exact .inr (by omega)
  · rintro ⟨runs, stopping⟩
    refine ⟨Nat.succ_pos _, Nat.succ_le_succ stopping.within, ?_, ?_⟩
    · intro earlier one before
      obtain ⟨rest, rfl⟩ :=
        Nat.exists_eq_add_one_of_ne_zero (Nat.ne_zero_of_lt one)
      rcases Nat.eq_zero_or_pos rest with none | some
      · rw [none]
        exact runs
      · exact stopping.least rest some (by omega)
    · rcases stopping.stops with waits | all
      · exact .inl waits
      · exact .inr (by omega)

theorem exists_stopsAfter (positive : 0 < limit) :
    ∃ count, machine.StopsAfter limit count := by
  induction limit generalizing machine with
  | zero =>
      contradiction
  | succ limit inductionHypothesis =>
      by_cases last : machine.step.machine.isWaiting = true ∨ limit = 0
      · exact ⟨1, stopsAfter_one.mpr last⟩
      · obtain ⟨runs, more⟩ := not_or.mp last
        obtain ⟨count, stopping⟩ :=
          inductionHypothesis (Nat.pos_of_ne_zero more)
        exact ⟨count + 1, (stopsAfter_succ stopping.positive).mpr
          ⟨eq_false_of_ne_true runs, stopping⟩⟩

/-! ## Frames as counted steps -/

theorem after_steps_succ (machine : Machine) (count : Nat) :
    machine.after (List.replicate (count + 1) .step) =
      machine.step.machine.after (List.replicate count .step) := rfl

theorem published_steps_succ (machine : Machine) (count : Nat) :
    machine.published (List.replicate (count + 1) .step) =
      machine.step.events ++
        machine.step.machine.published (List.replicate count .step) := rfl

theorem cycles_of_last
    (published : List Event) (success : machine.step.result = .ok ())
    (last : machine.step.machine.isWaiting = true ∨ limit = 0) :
    cycles (limit + 1) machine published =
      ⟨machine.step.machine,
        published.reverse ++ machine.step.events, .ok ()⟩ := by
  have told :
      (machine.step.events.reverseAux published).reverse =
        published.reverse ++ machine.step.events := by
    simp [List.reverseAux_eq]
  rw [← told]
  rcases last with waits | none
  · simp only [cycles, success, waits, if_true]
  · subst none
    simp only [cycles, success, ite_self]

/-- Cycles whose steps complete are their steps. -/
theorem cycles_of_stopsAfter
    (published : List Event) (stopping : machine.StopsAfter limit count)
    (completes : ∀ earlier < count,
      (machine.after (List.replicate earlier .step)).step.result = .ok ()) :
    cycles limit machine published =
      ⟨machine.after (List.replicate count .step),
        published.reverse ++ machine.published (List.replicate count .step),
        .ok ()⟩ := by
  induction count generalizing machine limit published with
  | zero =>
      exact absurd stopping.positive (Nat.lt_irrefl 0)
  | succ count inductionHypothesis =>
      obtain ⟨limit, rfl⟩ := Nat.exists_eq_add_one_of_ne_zero
        (Nat.ne_zero_of_lt (Nat.lt_of_lt_of_le stopping.positive
          stopping.within))
      obtain ⟨first, later⟩ := Nat.forall_lt_succ_left.mp completes
      have success : machine.step.result = .ok () := first
      rcases Nat.eq_zero_or_pos count with none | some
      · subst none
        rw [cycles_of_last published success (stopsAfter_one.mp stopping),
          after_steps_succ, published_steps_succ]
        simp
      · obtain ⟨runs, rest⟩ := (stopsAfter_succ some).mp stopping
        simp only [cycles, success, runs, Bool.false_eq_true, if_false]
        rw [inductionHypothesis _ rest later, after_steps_succ,
          published_steps_succ]
        simp [List.reverseAux_eq]

/-- The first of the counted steps that fails ends a frame. -/
theorem failsAfter_of_stopsAfter
    {failing : Nat} (stopping : machine.StopsAfter limit count)
    (within : failing < count)
    (completes : ∀ earlier < failing,
      (machine.after (List.replicate earlier .step)).step.result = .ok ())
    (failed :
      (machine.after (List.replicate failing .step)).step.result =
        .error fault) :
    machine.FailsAfter failing fault := by
  induction failing generalizing machine limit count with
  | zero =>
      exact failsAfter_zero.mpr failed
  | succ failing inductionHypothesis =>
      obtain ⟨count, rfl⟩ :=
        Nat.exists_eq_add_one_of_ne_zero (Nat.ne_zero_of_lt within)
      obtain ⟨limit, rfl⟩ := Nat.exists_eq_add_one_of_ne_zero
        (Nat.ne_zero_of_lt (Nat.lt_of_lt_of_le stopping.positive
          stopping.within))
      obtain ⟨first, later⟩ := Nat.forall_lt_succ_left.mp completes
      obtain ⟨runs, rest⟩ := (stopsAfter_succ (by omega)).mp stopping
      exact failsAfter_succ.mpr
        ⟨first, runs, inductionHypothesis rest (by omega) later failed⟩

/-! ## The speed -/

/-- Nothing but setting the speed changes it. -/
theorem speed_apply
    {operation : Operation} (unset : ∀ value, operation ≠ .setSpeed value) :
    (machine.apply operation).machine.speed = machine.speed := by
  have executes (instruction : Instruction) :
      (machine.execute instruction).machine.speed = machine.speed := by
    have unchanged : Part.speed ∉ instruction.parts := by
      cases instruction <;> simp [Instruction.parts]
    exact (machine.agreeOff_execute _ .speed unchanged).symm
  cases operation with
  | setSpeed value => exact absurd rfl (unset value)
  | step => exact machine.speed_step
  | frame => exact machine.speed_frame
  | execute opcode => exact executes (.decode opcode)
  | loadFile files path =>
      simp only [apply]
      split <;> rfl
  | reportKey code pressed =>
      simp only [apply, reportCode]
      split
      · split <;> rfl
      · rfl
  | _ => rfl

theorem speed_after
    {operations : List Operation}
    (unset : ∀ value, .setSpeed value ∉ operations) :
    (machine.after operations).speed = machine.speed := by
  have kept : ∀ turn : Turn, (∀ value, turn.operation ≠ .setSpeed value) →
      turn.before.speed = machine.speed → turn.after.speed = machine.speed :=
    fun _ noSpeed same => (speed_apply noSpeed).trans same
  have allowed : ∀ turn ∈ machine.turns operations,
      ∀ value, turn.operation ≠ .setSpeed value :=
    fun _ member value sets =>
      unset value (sets ▸ operation_mem_of_mem_turns member)
  exact (@invariant_turns (fun current => current.speed = machine.speed) _ kept
    machine operations rfl allowed).2

/-! ## Frames of a run -/

/-- Whatever a run did without setting the speed, also if it left out steps of
earlier frames, a frame that finds the machine waiting stops the tone and changes
nothing.  Any other frame counts the timers down, calls the tone once, and only
then makes as many single steps as the speed says, or only those up to the first
one that leaves the machine waiting.  If one of these steps fails, the frame ends
with that fault where the step ended.  No instruction calls the tone. -/
theorem frame_of_steps
    (machine : Machine) {operations : List Operation}
    (positive : 0 < machine.speed)
    (unset : ∀ value, .setSpeed value ∉ operations) :
    let reached := machine.after operations
    let start : Machine :=
      { reached with
        processor := { reached.processor with
          delayTimer := reached.processor.delayTimer - 1
          soundTimer := reached.processor.soundTimer - 1 } }
    let tone : ToneCall :=
      if 0 < reached.processor.soundTimer then .play else .stop
    let steps (count : Nat) : List Operation := List.replicate count .step
    let told (count : Nat) : List Event :=
      [.countedDown, .tone tone] ++ start.published (steps count)
    (reached.isWaiting = true →
        reached.frame = ⟨reached, [.tone .stop], .ok ()⟩) ∧
      (reached.isWaiting = false →
        (∃ count, start.StopsAfter machine.speed count) ∧
          ∀ count, start.StopsAfter machine.speed count →
            ((∀ earlier < count,
                (start.after (steps earlier)).step.result = .ok ()) →
              reached.frame =
                ⟨start.after (steps count), told count, .ok ()⟩) ∧
            ∀ failing < count, ∀ fault,
              (∀ earlier < failing,
                (start.after (steps earlier)).step.result = .ok ()) →
              (start.after (steps failing)).step.result = .error fault →
                reached.frame =
                  ⟨(start.after (steps failing)).step.machine,
                    told (failing + 1), .error fault⟩) ∧
      toneCalls reached.frame.events =
        [if reached.isWaiting then .stop else tone] ∧
      toneCalls reached.step.events = [] ∧
      ∀ opcode : Int, toneCalls (reached.executeWord opcode).events = [] := by
  intro reached start tone steps told
  have speed : reached.speed = machine.speed := speed_after unset
  refine ⟨?held, ?runs, reached.toneCalls_frame, reached.toneCalls_step,
    fun opcode => reached.toneCalls_execute (.decode opcode)⟩
  case held =>
    intro waits
    simp only [frame, waits, if_true]
  case runs =>
    intro idle
    refine ⟨exists_stopsAfter positive, ?_⟩
    intro count stopping
    constructor
    · intro completes
      have frame : reached.frame = cycles reached.speed start _ :=
        if_neg (Bool.eq_false_iff.mp idle)
      rw [frame, speed, cycles_of_stopsAfter _ stopping completes]
      rfl
    · intro failing within fault completes failed
      have failure : start.FailsAfter failing fault :=
        failsAfter_of_stopsAfter stopping within completes failed
      have short : failing < reached.speed := by
        rw [speed]
        exact Nat.lt_of_lt_of_le within stopping.within
      have last :
          start.published (steps (failing + 1)) =
            start.published (steps failing) ++
              (start.after (steps failing)).step.events := by
        simp only [steps, List.replicate_succ', published_append,
          published_cons, published_nil, List.append_nil]
        rfl
      rw [frame_of_failsAfter idle short failure]
      simp only [told, last, step_of_error failed, List.append_assoc]
      rfl

/-- A machine whose program waits for a key in its second step, and returns from
nowhere in its fifth. -/
def sentry : Machine where
  processor :=
    { [0x61, 0x07, 0xF2, 0x0A, 0x63, 0x01, 0x64, 0x02, 0x00, 0xEE].zipIdx.foldl
        (fun current entry => current.write entry.2 entry.1)
        (Processor.starting (Vector.replicate memorySize 0)) with
      pc := 0
      delayTimer := 2
      soundTimer := 1 }
  screen := .blank 8 8
  random := .ofSeed 0
  speed := 3

/-- The wait costs the first frame its third step, and the next frame makes three
steps all the same, the last of which fails. -/
theorem frame_of_steps_sentry :
    let resumed := sentry.after [.frame, .key 5 true]
    sentry.frame.result = .ok () ∧
      sentry.frame.events =
        [.countedDown, .tone .play, .executing 0 0x6107, .executing 2 0xF20A,
          .waiting 2] ∧
      resumed.frame.result = .error .stackUnderflow ∧
      resumed.frame.events =
        [.countedDown, .tone .stop, .executing 4 0x6301, .executing 6 0x6402,
          .executing 8 0x00EE] ∧
      resumed.frame.machine.processor.delayTimer = 0 := by
  intro resumed
  have positive : 0 < sentry.speed := by decide
  obtain ⟨-, first, -⟩ :=
    @frame_of_steps sentry [] positive fun _ => List.not_mem_nil
  obtain ⟨-, second, -⟩ :=
    @frame_of_steps sentry [.frame, .key 5 true] positive
      (by simp [Operation.key])
  obtain ⟨-, runs⟩ := first (by decide +kernel)
  obtain ⟨-, goesOn⟩ := second (by decide +kernel)
  have stopping : sentry.countDown.StopsAfter 3 2 :=
    (stopsAfter_succ Nat.one_pos).mpr
      ⟨by decide +kernel, stopsAfter_one.mpr (.inl (by decide +kernel))⟩
  have whole : resumed.countDown.StopsAfter 3 3 :=
    (stopsAfter_succ Nat.two_pos).mpr
      ⟨by decide +kernel, (stopsAfter_succ Nat.one_pos).mpr
        ⟨by decide +kernel, stopsAfter_one.mpr (.inr rfl)⟩⟩
  have left : sentry.frame = _ := (runs 2 stopping).1 fun earlier before =>
    ok_of_isOk (by revert earlier; decide +kernel)
  have failed :
      (resumed.countDown.after (List.replicate 2 .step)).step.result =
        .error .stackUnderflow := by
    have empty :
        (resumed.countDown.after (List.replicate 2 .step)).processor.sp = 0 := by
      decide +kernel
    have word :
        (resumed.countDown.after (List.replicate 2 .step)).processor.nextWord =
          0x00EE := by
      decide +kernel
    rw [result_step_eq_error_iff, empty, word]
    exact .underflow
  have ended : resumed.frame = _ :=
    (goesOn 3 whole).2 2 (by decide) .stackUnderflow
      (fun earlier before => ok_of_isOk (by revert earlier; decide +kernel))
      failed
  rw [left, ended]
  exact ⟨rfl, by decide +kernel, rfl, by decide +kernel, by decide +kernel⟩

end Chip8.Machine

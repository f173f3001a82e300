import Chip8.Proofs.Footprint
import Chip8.Proofs.Run

/-!
# Frames as steps

A frame is a countdown followed by steps.  Here the steps are made visible: a
fetch is a machine that is about to step.

* `cycleFetches` lists the fetches of the cycles of a frame, and
  `machine_cycles` and `events_cycles` say that they make the frame;
* `fetches` lists the fetches of a run.
-/

namespace Chip8

/-- A result without a value that is no error is known. -/
theorem ok_of_isOk
    {ε : Type} {result : Except ε Unit} (success : result.isOk = true) :
    result = .ok () := by
  cases result with
  | error fault => contradiction
  | ok _ => rfl

namespace Machine

/-- The machines that step in `count` cycles, each as it is before its step. -/
def cycleFetches : Nat → Machine → List Machine
  | 0, _ => []
  | count + 1, machine =>
      machine ::
        match machine.step.result with
        | .error _ => []
        | .ok () =>
            if machine.step.machine.isWaiting then []
            else cycleFetches count machine.step.machine

theorem cycleFetches_succ
    {machine : Machine} (count : Nat)
    (success : machine.step.result.isOk = true)
    (runs : machine.step.machine.isWaiting = false) :
    cycleFetches (count + 1) machine =
      machine :: cycleFetches count machine.step.machine := by
  simp [cycleFetches, ok_of_isOk success, runs]

/-- Cycles end with a step that fails. -/
theorem cycleFetches_of_error
    {machine : Machine} {fault : Fault} (count : Nat)
    (failed : machine.step.result = .error fault) :
    cycleFetches (count + 1) machine = [machine] := by
  simp only [cycleFetches, failed]

/-- Cycles end with a step after which the machine waits. -/
theorem cycleFetches_of_waiting
    {machine : Machine} (count : Nat)
    (waits : machine.step.machine.isWaiting = true) :
    cycleFetches (count + 1) machine = [machine] := by
  simp only [cycleFetches, waits, if_true]
  split <;> rfl

theorem cycles_succ
    {machine : Machine} (count : Nat) (published : List Event)
    (success : machine.step.result.isOk = true)
    (runs : machine.step.machine.isWaiting = false) :
    cycles (count + 1) machine published =
      cycles count machine.step.machine
        (machine.step.events.reverseAux published) := by
  simp only [cycles, ok_of_isOk success, runs, Bool.false_eq_true, if_false]

theorem cycles_of_error
    {machine : Machine} {fault : Fault} (count : Nat) (published : List Event)
    (failed : machine.step.result = .error fault) :
    cycles (count + 1) machine published =
      ⟨machine.step.machine,
        (machine.step.events.reverseAux published).reverse, .error fault⟩ := by
  simp only [cycles, failed]

theorem cycles_of_waiting
    {machine : Machine} (count : Nat) (published : List Event)
    (success : machine.step.result.isOk = true)
    (waits : machine.step.machine.isWaiting = true) :
    cycles (count + 1) machine published =
      ⟨machine.step.machine,
        (machine.step.events.reverseAux published).reverse, .ok ()⟩ := by
  simp only [cycles, ok_of_isOk success, waits, if_true]

@[simp]
theorem cycleFetches_one (machine : Machine) :
    cycleFetches 1 machine = [machine] := by
  simp only [cycleFetches, ite_self]
  split <;> rfl

/-- The machine after the last of some fetches, or the one before them if there
are none. -/
def afterFetches (machine : Machine) : List Machine → Machine
  | [] => machine
  | fetch :: rest => fetch.step.machine.afterFetches rest

@[simp]
theorem afterFetches_nil (machine : Machine) :
    machine.afterFetches [] = machine := rfl

@[simp]
theorem afterFetches_cons (machine fetch : Machine) (rest : List Machine) :
    machine.afterFetches (fetch :: rest) =
      fetch.step.machine.afterFetches rest := rfl

/-- Cycles leave behind what their last step leaves behind. -/
theorem machine_cycles
    (count : Nat) (machine : Machine) (published : List Event) :
    (cycles count machine published).machine =
      machine.afterFetches (cycleFetches count machine) := by
  induction count generalizing machine published with
  | zero =>
      rfl
  | succ count inductionHypothesis =>
      simp only [cycles, cycleFetches, afterFetches_cons]
      cases machine.step.result with
      | error fault =>
          rfl
      | ok _ =>
          by_cases waits : machine.step.machine.isWaiting = true
          · simp only [waits, if_true, afterFetches_nil]
          · simp only [waits, if_false, inductionHypothesis, Bool.false_eq_true]

theorem events_cycles
    (count : Nat) (machine : Machine) (published : List Event) :
    (cycles count machine published).events =
      published.reverse ++
        (cycleFetches count machine).flatMap fun fetch =>
          fetch.step.events := by
  induction count generalizing machine published with
  | zero =>
      simp [cycles, cycleFetches]
  | succ count inductionHypothesis =>
      simp only [cycles, cycleFetches, List.flatMap_cons]
      cases machine.step.result with
      | error fault =>
          simp [List.reverseAux_eq]
      | ok _ =>
          by_cases waits : machine.step.machine.isWaiting = true
          · simp [waits, List.reverseAux_eq]
          · simp [waits, inductionHypothesis, List.reverseAux_eq]

/-- What every step of some cycles keeps, their steps find and the cycles leave
behind. -/
theorem invariant_cycles
    {invariant allowed : Machine → Prop}
    (kept : ∀ machine : Machine,
      allowed machine → invariant machine → invariant machine.step.machine)
    {count : Nat} {machine : Machine} (published : List Event)
    (start : invariant machine)
    (all : ∀ fetch ∈ cycleFetches count machine, allowed fetch) :
    (∀ fetch ∈ cycleFetches count machine, invariant fetch) ∧
      invariant (cycles count machine published).machine := by
  rw [machine_cycles]
  induction count generalizing machine with
  | zero =>
      exact ⟨fun fetch member => absurd member List.not_mem_nil, start⟩
  | succ count inductionHypothesis =>
      have next : invariant machine.step.machine :=
        kept machine (all machine List.mem_cons_self) start
      simp only [cycleFetches, List.forall_mem_cons, afterFetches_cons] at all ⊢
      generalize machine.step.result = result at all ⊢
      cases result with
      | error fault =>
          exact ⟨⟨start, by simp⟩, next⟩
      | ok _ =>
          by_cases waits : machine.step.machine.isWaiting = true
          · simp only [waits, if_true]
            exact ⟨⟨start, by simp⟩, next⟩
          · simp only [waits, if_false, Bool.false_eq_true] at all ⊢
            obtain ⟨during, inTheEnd⟩ := inductionHypothesis next all.2
            exact ⟨⟨start, during⟩, inTheEnd⟩

end Machine

/-- The machines that step in a turn.  Carrying out a given word is no step: no
word is fetched for it. -/
def Turn.fetches (turn : Turn) : List Machine :=
  match turn.operation with
  | .step => [turn.before]
  | .frame =>
      if turn.before.isWaiting then []
      else Machine.cycleFetches turn.before.speed turn.before.countDown
  | _ => []

/-- The instructions that a turn carries out, or fails to. -/
def Turn.instructions (turn : Turn) : List Instruction :=
  match turn.operation with
  | .execute opcode => [.decode opcode]
  | _ => turn.fetches.map Machine.nextInstruction

theorem Turn.fetches_frame
    {machine : Machine} (runs : machine.isWaiting = false) :
    Turn.fetches ⟨machine, .frame⟩ =
      Machine.cycleFetches machine.speed machine.countDown := by
  simp only [fetches, runs, Bool.false_eq_true, if_false]

/-- The machines that step in a run. -/
def Machine.fetches (machine : Machine) (operations : List Operation) :
    List Machine :=
  (machine.turns operations).flatMap Turn.fetches

@[simp]
theorem Machine.fetches_nil (machine : Machine) :
    machine.fetches [] = [] := rfl

@[simp]
theorem Machine.fetches_cons
    (machine : Machine) (operation : Operation) (rest : List Operation) :
    machine.fetches (operation :: rest) =
      Turn.fetches ⟨machine, operation⟩ ++
        (machine.apply operation).machine.fetches rest := by
  simp only [fetches, turns_cons, List.flatMap_cons]

theorem Machine.fetches_append
    (machine : Machine) (earlier later : List Operation) :
    machine.fetches (earlier ++ later) =
      machine.fetches earlier ++ (machine.after earlier).fetches later := by
  simp only [fetches, turns_append, List.flatMap_append]

end Chip8

import Chip8.Proofs.Frame

/-!
# Subroutines

A subroutine ends with the return that takes its own call back.

* `SameStack` and `stackLinked_fetches` say that between two steps of a run
  nobody touches the return stack;
* `Pending` is the invariant of a subroutine: the entries up to that of its
  call stay as the call left them while the stack is deeper;
* `return_of_call` says that the step that undoes a call is a return, that it
  comes back behind the call, and that the entries below are as they were.
-/

namespace Chip8

/-! ## The return stack between two steps -/

/-- Two machines have the same return stack. -/
structure SameStack (left right : Machine) : Prop where
  sp : left.processor.sp = right.processor.sp
  stack : left.processor.stack = right.processor.stack

namespace SameStack

theorem refl (machine : Machine) : SameStack machine machine :=
  ⟨rfl, rfl⟩

theorem trans
    {first second third : Machine}
    (left : SameStack first second) (right : SameStack second third) :
    SameStack first third :=
  ⟨left.sp.trans right.sp, left.stack.trans right.stack⟩

theorem countDown (machine : Machine) : SameStack machine machine.countDown :=
  ⟨rfl, rfl⟩

theorem afterFetches
    {left right : Machine} (same : SameStack left right)
    (fetches : List Machine) :
    SameStack (left.afterFetches fetches) (right.afterFetches fetches) := by
  cases fetches with
  | nil => exact same
  | cons fetch rest => exact .refl _

end SameStack

/-- Fetches each of which finds the return stack that the one before it left,
the first of them that of a machine. -/
inductive StackLinked : Machine → List Machine → Prop where
  | nil (machine : Machine) : StackLinked machine []
  | cons {machine fetch : Machine} {rest : List Machine} :
      SameStack machine fetch →
      StackLinked fetch.step.machine rest →
      StackLinked machine (fetch :: rest)

namespace StackLinked

theorem of_sameStack
    {left right : Machine} {fetches : List Machine}
    (same : SameStack left right) (linked : StackLinked right fetches) :
    StackLinked left fetches := by
  cases linked with
  | nil => exact .nil left
  | cons head tail => exact .cons (same.trans head) tail

theorem append_iff
    {machine : Machine} {earlier later : List Machine} :
    StackLinked machine (earlier ++ later) ↔
      StackLinked machine earlier ∧
        StackLinked (machine.afterFetches earlier) later := by
  induction earlier generalizing machine with
  | nil =>
      exact ⟨fun linked => ⟨.nil machine, linked⟩, And.right⟩
  | cons fetch rest inductionHypothesis =>
      constructor
      · intro linked
        cases linked with
        | cons head tail =>
            obtain ⟨first, second⟩ := inductionHypothesis.mp tail
            exact ⟨.cons head first, second⟩
      · rintro ⟨linked, second⟩
        cases linked with
        | cons head first =>
            exact .cons head (inductionHypothesis.mpr ⟨first, second⟩)

end StackLinked

theorem stackLinked_cycleFetches (count : Nat) (machine : Machine) :
    StackLinked machine (Machine.cycleFetches count machine) := by
  induction count generalizing machine with
  | zero =>
      exact .nil machine
  | succ count inductionHypothesis =>
      refine .cons (.refl machine) ?_
      split
      · exact .nil _
      · split
        · exact .nil _
        · exact inductionHypothesis _

/-! ## The return stack in a run -/

/-- Whether an operation may touch the return stack by other means than a step:
by starting over, by carrying out a given word, or directly. -/
def Operation.touchesStack : Operation → Bool
  | .execute _ | .reset | .load _ | .loadFile _ _ | .resetProcessor
  | .push _ | .pop => true
  | _ => false

theorem Processor.stack_reportKey
    (processor : Processor) (key : Key) (pressed : Bool) :
    (processor.reportKey key pressed).1.sp = processor.sp ∧
      (processor.reportKey key pressed).1.stack = processor.stack := by
  unfold Processor.reportKey
  split
  · exact ⟨rfl, rfl⟩
  · simp only
    split
    · exact ⟨rfl, rfl⟩
    · exact ⟨rfl, rfl⟩

namespace Turn

/-- A frame does nothing but step to the return stack. -/
theorem sameStack_frame (machine : Machine) :
    SameStack (machine.afterFetches (fetches ⟨machine, .frame⟩))
      (after ⟨machine, .frame⟩) := by
  change SameStack _ machine.frame.machine
  unfold fetches Machine.frame
  by_cases waits : machine.isWaiting = true
  · simp only [waits, if_true]
    exact .refl machine
  · simp only [waits, Bool.false_eq_true, if_false, Machine.machine_cycles]
    exact (SameStack.countDown machine).afterFetches _

/-- A turn that does not touch the return stack by other means does nothing but
step to it. -/
theorem sameStack_after
    (turn : Turn) (untouched : turn.operation.touchesStack = false) :
    SameStack (turn.before.afterFetches turn.fetches) turn.after := by
  obtain ⟨machine, operation⟩ := turn
  cases operation with
  | frame => exact sameStack_frame machine
  | step => exact .refl _
  | reportKey code pressed =>
      simp only [fetches, after, outcome, Machine.apply, Machine.reportCode,
        Machine.afterFetches_nil]
      split
      · split
        · exact .refl machine
        · obtain ⟨sp, stack⟩ :=
            machine.processor.stack_reportKey ‹Key› pressed
          exact ⟨sp.symm, stack.symm⟩
      · exact .refl machine
  | setSpeed value =>
      simp only [fetches, after, outcome, Machine.apply,
        Machine.afterFetches_nil]
      split
      · exact ⟨rfl, rfl⟩
      · exact .refl machine
  | loadMemory program =>
      simp only [fetches, after, outcome, Machine.apply, Machine.loadMemory,
        Machine.settle, Machine.afterFetches_nil]
      obtain ⟨memory, loaded⟩ := machine.processor.exists_load program
      rw [loaded]
      exact ⟨rfl, rfl⟩
  | nextWord | isWaiting | read _ | write _ _ | readRange _ _ | draw _ _ _
  | clearScreen | isLit _ _ | clean => exact ⟨rfl, rfl⟩
  | execute _ | reset | load _ | loadFile _ _ | resetProcessor | push _ | pop =>
      contradiction

/-- The steps of a turn pass the return stack on. -/
theorem stackLinked_fetches (turn : Turn) :
    StackLinked turn.before turn.fetches := by
  unfold fetches
  split
  · exact .cons (.refl _) (.nil _)
  · split
    · exact .nil _
    · exact .of_sameStack (.countDown turn.before)
        (stackLinked_cycleFetches _ _)
  · exact .nil _

end Turn

/-- The steps of a run pass the return stack on, if nobody touches it by other
means. -/
theorem stackLinked_fetches
    {machine : Machine} {operations : List Operation}
    (untouched :
      ∀ operation ∈ operations, operation.touchesStack = false) :
    StackLinked machine (machine.fetches operations) := by
  induction operations generalizing machine with
  | nil =>
      exact .nil machine
  | cons operation rest inductionHypothesis =>
      rw [Machine.fetches_cons]
      have between :=
        Turn.sameStack_after ⟨machine, operation⟩
          (untouched operation List.mem_cons_self)
      have later :
          StackLinked (machine.apply operation).machine
            ((machine.apply operation).machine.fetches rest) :=
        inductionHypothesis fun other member =>
          untouched other (List.mem_cons_of_mem operation member)
      exact StackLinked.append_iff.mpr
        ⟨Turn.stackLinked_fetches ⟨machine, operation⟩,
          later.of_sameStack between⟩

/-! ## Calls that wait for their return -/

/-- A subroutine that was called at a depth is not left yet: the return stack is
deeper, and holds the entries up to that depth that the call left. -/
structure Pending (depth : Fin 17) (entries : Vector Int 16)
    (processor : Processor) : Prop where
  deeper : depth < processor.sp
  kept : ∀ place : Fin 16, place.val ≤ depth.val →
    processor.stack.get place = entries.get place

namespace Pending

variable {depth : Fin 17} {entries : Vector Int 16}
variable {before after : Processor} {instruction : Instruction}

theorem advance (pending : Pending depth entries before) :
    Pending depth entries before.advance :=
  ⟨pending.deeper, pending.kept⟩

/-- A call makes a subroutine wait for its return to the program counter. -/
theorem of_call
    {target : Nat}
    (change : Processor.Change before (.call target) after)
    (deeper : before.sp < after.sp) :
    Pending before.sp after.stack after ∧
      ∀ place : Fin 16,
        (place.val = before.sp.val → after.stack.get place = before.pc) ∧
          (place.val < before.sp.val →
            after.stack.get place = before.stack.get place) := by
  refine ⟨⟨deeper, fun place _ => rfl⟩, ?_⟩
  cases change with
  | called _ top free =>
      have depth : before.sp.val = top.val := congrArg Fin.val free
      intro place
      rw [get_setIfInBounds]
      constructor
      · intro atTop
        have same : top = place := Fin.ext (by omega)
        exact if_pos same
      · intro below
        have different : top ≠ place := Fin.ne_of_val_ne (by omega)
        exact if_neg different
  | _ => exact absurd deeper (Fin.lt_irrefl before.sp)

/-- As long as the return stack is deeper, no instruction touches the entries of
the subroutine: a call writes above them, and a return writes nothing. -/
theorem step
    (pending : Pending depth entries before)
    (change : Processor.Change before instruction after)
    (deeper : depth < after.sp) :
    Pending depth entries after := by
  refine ⟨deeper, ?_⟩
  cases change with
  | called target top free =>
      intro place bound
      have above : depth.val < before.sp.val := pending.deeper
      have top_eq : before.sp.val = top.val := congrArg Fin.val free
      have different : top ≠ place := Fin.ne_of_val_ne (by omega)
      rw [get_setIfInBounds, if_neg different]
      exact pending.kept place bound
  | _ => exact pending.kept

/-- Only a return comes back to the depth of the call, and it goes on at the
entry that the call made. -/
theorem leave
    (pending : Pending depth entries before)
    (change : Processor.Change before instruction after)
    (back : after.sp = depth) :
    instruction = .ret ∧
      (∀ place : Fin 16,
        place.val = depth.val → after.pc = entries.get place) ∧
      ∀ place : Fin 16, place.val ≤ depth.val →
        after.stack.get place = entries.get place := by
  have above := pending.deeper
  cases change with
  | returned top used =>
      refine ⟨rfl, ?_, pending.kept⟩
      intro place atTop
      have same : top = place := Fin.ext (by
        rw [atTop, ← back]
        rfl)
      rw [same]
      exact pending.kept place (Nat.le_of_eq atTop)
  | called target top free =>
      have grown : top.val + 1 = depth.val := congrArg Fin.val back
      have top_eq : before.sp.val = top.val := congrArg Fin.val free
      have deep : depth.val < before.sp.val := above
      omega
  | _ =>
      change before.sp = depth at back
      rw [back] at above
      exact absurd above (Fin.lt_irrefl depth)

end Pending

/-! ## Calls and returns in a run -/

theorem Pending.of_sameStack
    {depth : Fin 17} {entries : Vector Int 16} {left right : Machine}
    (pending : Pending depth entries left.processor)
    (same : SameStack left right) :
    Pending depth entries right.processor :=
  ⟨same.sp ▸ pending.deeper, same.stack ▸ pending.kept⟩

/-- The invariant holds after any steps that leave the return stack deeper. -/
theorem Pending.afterFetches
    {depth : Fin 17} {entries : Vector Int 16}
    {machine : Machine} {fetches : List Machine}
    (linked : StackLinked machine fetches)
    (pending : Pending depth entries machine.processor)
    (deeper : ∀ fetch ∈ fetches, depth < fetch.step.machine.processor.sp) :
    Pending depth entries (machine.afterFetches fetches).processor := by
  induction linked with
  | nil _ =>
      exact pending
  | @cons _ fetch rest same _ inductionHypothesis =>
      apply inductionHypothesis
      · exact (pending.of_sameStack same).advance.step fetch.change_step
          (deeper fetch List.mem_cons_self)
      · exact fun other member =>
          deeper other (List.mem_cons_of_mem fetch member)

namespace Machine

theorem sp_step_of_call
    {machine : Machine}
    (isCall : machine.processor.nextWord / 0x1000 = 0x2)
    (room : machine.processor.sp.val < 16) :
    machine.processor.sp < machine.step.machine.processor.sp := by
  have decoded :
      machine.nextInstruction =
        .call (machine.processor.nextWord % 0x1000) :=
    Instruction.decodeWord_of_call isCall
  have moved : machine.advance.processor.sp.val < 16 := room
  rw [machine_step, decoded]
  simp only [execute, Processor.execute, Processor.call, Processor.push, moved,
    dif_pos, Attempt.andThen, Processor.done, Processor.jump]
  exact Nat.lt_succ_self machine.processor.sp.val

/-- A subroutine comes back behind its call.  Take a step of a run that calls,
with room on the return stack, and the steps after it while the stack stays
deeper than before the call.  The step that brings the stack back to that depth
is a return; it goes on behind the call, and the entries below are those from
before the call.  The steps in between may call and return, fail, jump and change
memory as they please, and keys may be reported between them. -/
theorem return_of_call
    {machine : Machine} {operations : List Operation}
    (untouched :
      ∀ operation ∈ operations, operation.touchesStack = false)
    {earlier inside later : List Machine} {caller last : Machine}
    (steps :
      machine.fetches operations =
        earlier ++ caller :: (inside ++ last :: later))
    (isCall : caller.processor.nextWord / 0x1000 = 0x2)
    (room : caller.processor.sp.val < 16)
    (deeper :
      ∀ fetch ∈ inside,
        caller.processor.sp < fetch.step.machine.processor.sp)
    (back : last.step.machine.processor.sp = caller.processor.sp) :
    last.processor.nextWord = 0x00EE ∧
      last.step.machine.processor.pc =
        (caller.processor.pc + 2) % 0x10000 ∧
      ∀ place : Fin 16, place.val < caller.processor.sp.val →
        last.step.machine.processor.stack.get place =
          caller.processor.stack.get place := by
  have linked : StackLinked machine (machine.fetches operations) :=
    stackLinked_fetches untouched
  rw [steps] at linked
  obtain ⟨-, fromCall⟩ := StackLinked.append_iff.mp linked
  cases fromCall with
  | cons _ fromInside =>
      obtain ⟨linkedInside, fromLast⟩ := StackLinked.append_iff.mp fromInside
      cases fromLast with
      | cons sameLast _ =>
          -- The call makes the entry that the invariant is about.
          have decoded :
              caller.nextInstruction =
                .call (caller.processor.nextWord % 0x1000) :=
            Instruction.decodeWord_of_call isCall
          have calling := caller.change_step
          rw [decoded] at calling
          obtain ⟨called, entries⟩ :=
            Pending.of_call calling (sp_step_of_call isCall room)
          -- The steps inside keep it, and the last one uses it up.
          have pending := Pending.afterFetches linkedInside called deeper
          obtain ⟨isReturn, counter, kept⟩ :=
            (pending.of_sameStack sameLast).advance.leave
              last.change_step back
          let top : Fin 16 := ⟨caller.processor.sp.val, room⟩
          refine ⟨Instruction.decodeWord_eq_ret isReturn, ?_, ?_⟩
          · rw [counter top rfl]
            exact (entries top).1 rfl
          · intro place below
            rw [kept place (Nat.le_of_lt below)]
            exact (entries place).2 below

/-- A machine with fourteen return addresses on its stack, about to call a
subroutine that calls another one, which tries a call too many. -/
def deepCaller : Machine where
  processor :=
    { [0x20, 0x04, 0x00, 0x00, 0x20, 0x08, 0x00, 0xEE,
        0x20, 0x00, 0x00, 0xEE].zipIdx.foldl
        (fun current entry => current.write entry.2 entry.1)
        (Processor.starting (Vector.replicate memorySize 0)) with
      pc := 0
      sp := 14 }
  screen := .blank 8 8
  random := .ofSeed 0
  speed := 3

/-- The call too many fails, and the first call is taken back two returns
later, with a report of a key in between. -/
theorem return_of_call_deepCaller :
    ∃ caller ∈ deepCaller.fetches [.frame, .key 3 true, .step, .step],
      ∃ last ∈ deepCaller.fetches [.frame, .key 3 true, .step, .step],
        caller.processor.nextWord = 0x2004 ∧
          last.processor.nextWord = 0x00EE ∧
          last.step.machine.processor.pc =
            (caller.processor.pc + 2) % 0x10000 ∧
          ∀ place : Fin 16, place.val < caller.processor.sp.val →
            last.step.machine.processor.stack.get place =
              caller.processor.stack.get place := by
  let first := deepCaller.countDown
  let second := first.step.machine
  let third := second.step.machine
  let fourth := deepCaller.after [.frame, .key 3 true]
  let last := deepCaller.after [.frame, .key 3 true, .step]
  obtain ⟨called, runs, calledAgain, runsOn⟩ :
      first.step.result.isOk = true ∧ second.isWaiting = false ∧
        second.step.result.isOk = true ∧ third.isWaiting = false := by
    decide +kernel
  have frame :
      Turn.fetches (.mk deepCaller .frame) = [first, second, third] := by
    have idle : deepCaller.isWaiting = false := by decide +kernel
    rw [Turn.fetches_frame idle]
    change cycleFetches 3 first = [first, second, third]
    rw [cycleFetches_succ 2 called runs, cycleFetches_succ 1 calledAgain runsOn,
      cycleFetches_one]
  have steps :
      deepCaller.fetches [.frame, .key 3 true, .step, .step] =
        [] ++ first :: ([second, third, fourth] ++ last :: []) := by
    rw [fetches_cons, frame]
    rfl
  have word : first.processor.nextWord = 0x2004 := by decide +kernel
  refine ⟨first, ?_, last, ?_, word, ?_⟩
  · rw [steps]
    simp
  · rw [steps]
    simp
  · exact return_of_call (by decide) steps (by rw [word]) (by decide +kernel)
      (by decide +kernel) (by decide +kernel)

end Machine

end Chip8

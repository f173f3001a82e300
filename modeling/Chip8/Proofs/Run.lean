import Chip8.Operation

/-!
# Runs

A run applies operations to a machine one after the other.  A refused operation
leaves a machine behind too, so a run always goes through all of its
operations.

* `turns` lists the operations of a run, each with the machine it meets;
* `after` is the machine that a run leaves behind, and `published` are the events
  that it publishes;
* an invariant that every turn keeps holds throughout the run
  (`invariant_turns`).
-/

namespace Chip8

/-- The report that a key of the keypad went down or up. -/
def Operation.key (key : Key) (pressed : Bool) : Operation :=
  .reportKey (.integer key.val) pressed

@[simp]
theorem Operation.key_inj {first second : Key} {before after : Bool} :
    Operation.key first before = .key second after ↔
      first = second ∧ before = after := by
  simp only [key, reportKey.injEq, Datum.integer.injEq, Int.natCast_inj,
    Fin.val_inj]

theorem Operation.exists_key
    {code : Int} (known : 0 ≤ code ∧ code < 16) (pressed : Bool) :
    ∃ key : Key,
      Operation.reportKey (.integer code) pressed = .key key pressed := by
  refine ⟨⟨code.toNat, by omega⟩, ?_⟩
  simp only [key, Int.toNat_of_nonneg known.1]

/-- One operation of a run, with the machine that it is applied to. -/
structure Turn where
  before : Machine
  operation : Operation

namespace Turn

def outcome (turn : Turn) : Outcome OperationError Answer :=
  turn.before.apply turn.operation

/-- The machine that the operation leaves behind. -/
def after (turn : Turn) : Machine :=
  turn.outcome.machine

end Turn

namespace Machine

/-- The operations of a run, each with the machine that it is applied to. -/
def turns (machine : Machine) : List Operation → List Turn
  | [] => []
  | operation :: rest =>
      ⟨machine, operation⟩ :: (machine.apply operation).machine.turns rest

/-- The machine that a run leaves behind. -/
def after (machine : Machine) : List Operation → Machine
  | [] => machine
  | operation :: rest => (machine.apply operation).machine.after rest

@[simp]
theorem turns_nil (machine : Machine) :
    machine.turns [] = [] := rfl

@[simp]
theorem turns_cons
    (machine : Machine) (operation : Operation) (rest : List Operation) :
    machine.turns (operation :: rest) =
      ⟨machine, operation⟩ ::
        (machine.apply operation).machine.turns rest := rfl

@[simp]
theorem after_nil (machine : Machine) :
    machine.after [] = machine := rfl

@[simp]
theorem after_cons
    (machine : Machine) (operation : Operation) (rest : List Operation) :
    machine.after (operation :: rest) =
      (machine.apply operation).machine.after rest := rfl

/-- The events that a run publishes, in order. -/
def published (machine : Machine) (operations : List Operation) : List Event :=
  (machine.turns operations).flatMap fun turn => turn.outcome.events

@[simp]
theorem published_nil (machine : Machine) :
    machine.published [] = [] := rfl

@[simp]
theorem published_cons
    (machine : Machine) (operation : Operation) (rest : List Operation) :
    machine.published (operation :: rest) =
      (machine.apply operation).events ++
        (machine.apply operation).machine.published rest := rfl

theorem turns_append
    (machine : Machine) (earlier later : List Operation) :
    machine.turns (earlier ++ later) =
      machine.turns earlier ++ (machine.after earlier).turns later := by
  induction earlier generalizing machine with
  | nil =>
      rfl
  | cons operation rest inductionHypothesis =>
      simp only [List.cons_append, turns_cons, after_cons, inductionHypothesis]

theorem after_append
    (machine : Machine) (earlier later : List Operation) :
    machine.after (earlier ++ later) = (machine.after earlier).after later := by
  induction earlier generalizing machine with
  | nil =>
      rfl
  | cons operation rest inductionHypothesis =>
      simp only [List.cons_append, after_cons, inductionHypothesis]

theorem published_append
    (machine : Machine) (earlier later : List Operation) :
    machine.published (earlier ++ later) =
      machine.published earlier ++ (machine.after earlier).published later := by
  simp only [published, turns_append, List.flatMap_append]

theorem operation_mem_of_mem_turns
    {machine : Machine} {operations : List Operation} {turn : Turn}
    (member : turn ∈ machine.turns operations) :
    turn.operation ∈ operations := by
  induction operations generalizing machine with
  | nil =>
      simp at member
  | cons operation rest inductionHypothesis =>
      rw [turns_cons] at member
      rcases List.mem_cons.mp member with atHead | inTail
      · rw [atHead]
        exact List.mem_cons_self
      · exact List.mem_cons_of_mem operation (inductionHypothesis inTail)

/-- What every turn of a run keeps holds before and after each of them, and in
the end. -/
theorem invariant_turns
    {invariant : Machine → Prop} {allowed : Turn → Prop}
    (kept : ∀ turn : Turn,
      allowed turn → invariant turn.before → invariant turn.after)
    {machine : Machine} {operations : List Operation}
    (start : invariant machine)
    (all : ∀ turn ∈ machine.turns operations, allowed turn) :
    (∀ turn ∈ machine.turns operations,
        invariant turn.before ∧ invariant turn.after) ∧
      invariant (machine.after operations) := by
  induction operations generalizing machine with
  | nil =>
      exact ⟨fun turn member => by simp at member, start⟩
  | cons operation rest inductionHypothesis =>
      rw [turns_cons] at all ⊢
      have next : invariant (machine.apply operation).machine :=
        kept ⟨machine, operation⟩ (all _ List.mem_cons_self) start
      obtain ⟨during, inTheEnd⟩ :=
        inductionHypothesis next
          fun turn member => all turn (List.mem_cons_of_mem _ member)
      refine ⟨?_, inTheEnd⟩
      intro turn member
      rcases List.mem_cons.mp member with atHead | inTail
      · rw [atHead]
        exact ⟨start, next⟩
      · exact during turn inTail

/-! ## Reports of keys -/

/-- A report of a key of the keypad is always answered: with the register that
it filled, if it ended a key wait. -/
theorem apply_key (machine : Machine) (key : Key) (pressed : Bool) :
    machine.apply (.key key pressed) =
      ⟨{ machine with
          processor := (machine.processor.reportKey key pressed).1 },
        (machine.processor.reportKey key pressed).2.toList.map .resumed,
        .ok (match (machine.processor.reportKey key pressed).2 with
          | some write => .write write.register (.key key)
          | none => .nothing)⟩ := by
  have known : KeyCode.ofDatum (.integer key.val) = .ok (.key key) :=
    KeyCode.ofDatum_datum_key key
  cases written : (machine.processor.reportKey key pressed).2 <;>
    simp only [apply, Operation.key, known, reportCode, KeyCode.key?, reportKey,
      Except.map, written]

end Machine

end Chip8

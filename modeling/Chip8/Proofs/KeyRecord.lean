import Chip8.Proofs.KeyWait
import Chip8.Proofs.Parts

/-!
# The record of the keys

For every key, a machine holds what was last reported for it.

* `lastStatus?` is what the last of some reports for a key says, `record` the
  record of the keys after them, and `get_record` says that the one decides the
  other;
* `keys_reportKey` says that a report is recorded, whether it answers a wait or
  not, and `keys_frame` that no instruction touches the record;
* `keys_after` says what a run leaves in the record.
-/

namespace Chip8

/-! ## Reports in order -/

section Reports

variable {κ : Type} [DecidableEq κ]

/-- What the last report for a key says, if there is one.  A report tells
whether a key went down or up. -/
def lastStatus? (reports : List (κ × Bool)) (key : κ) : Option Bool :=
  (reports.filter fun report => report.1 = key).getLast?.map Prod.snd

theorem lastStatus?_cons
    (report : κ × Bool) (rest : List (κ × Bool)) (key : κ) :
    lastStatus? (report :: rest) key =
      if report.1 = key then some ((lastStatus? rest key).getD report.2)
      else lastStatus? rest key := by
  unfold lastStatus?
  by_cases about : report.1 = key
  · rw [List.filter_cons_of_pos (by simpa using about), List.getLast?_cons,
      if_pos about]
    cases (rest.filter fun report => report.1 = key).getLast? <;> rfl
  · rw [List.filter_cons_of_neg (by simpa using about), if_neg about]

/-- A last report is followed by no other report for its key. -/
theorem exists_of_lastStatus?
    {reports : List (κ × Bool)} {key : κ} {pressed : Bool}
    (last : lastStatus? reports key = some pressed) :
    ∃ earlier later, reports = earlier ++ (key, pressed) :: later ∧
      ∀ report ∈ later, report.1 ≠ key := by
  obtain ⟨⟨other, status⟩, isLast, same⟩ := Option.map_eq_some_iff.mp last
  obtain ⟨before, filtered⟩ := List.getLast?_eq_some_iff.mp isLast
  obtain ⟨earlier, rest, rfl, -, atRest⟩ :=
    List.filter_eq_append_iff.mp filtered
  obtain ⟨between, later, rfl, -, about, none⟩ :=
    List.filter_eq_cons_iff.mp atRest
  obtain rfl : other = key := by simpa using about
  obtain rfl : status = pressed := same
  refine ⟨earlier ++ between, later, by simp, ?_⟩
  simpa using List.filter_eq_nil_iff.mp none

/-- A report that is followed by no report of the opposite decides. -/
theorem lastStatus?_of_split
    {earlier later : List (κ × Bool)} {key : κ} {pressed : Bool}
    (undone : (key, !pressed) ∉ later) :
    lastStatus? (earlier ++ (key, pressed) :: later) key = some pressed := by
  induction earlier with
  | nil =>
      rw [List.nil_append, lastStatus?_cons, if_pos rfl]
      cases last : lastStatus? later key with
      | none => rfl
      | some status =>
          obtain ⟨before, after, rfl, -⟩ := exists_of_lastStatus? last
          by_cases same : status = pressed
          · rw [same]
            rfl
          · rw [← Bool.eq_not_of_ne same] at undone
            exact absurd (by simp) undone
  | cons report rest inductionHypothesis =>
      rw [List.cons_append, lastStatus?_cons, inductionHypothesis]
      split <;> rfl

end Reports

/-- The record of the keys after some reports. -/
def record (keys : Vector Bool 16) (reports : List (Key × Bool)) :
    Vector Bool 16 :=
  reports.foldl
    (fun current report => current.setIfInBounds report.1.val report.2) keys

theorem record_cons
    (keys : Vector Bool 16) (report : Key × Bool)
    (rest : List (Key × Bool)) :
    record keys (report :: rest) =
      record (keys.setIfInBounds report.1.val report.2) rest := rfl

theorem record_append
    (keys : Vector Bool 16) (earlier later : List (Key × Bool)) :
    record keys (earlier ++ later) = record (record keys earlier) later :=
  List.foldl_append

/-- The last report for a key decides what is recorded for it. -/
theorem get_record
    (keys : Vector Bool 16) (reports : List (Key × Bool)) (key : Key) :
    (record keys reports).get key =
      (lastStatus? reports key).getD (keys.get key) := by
  induction reports generalizing keys with
  | nil =>
      rfl
  | cons report rest inductionHypothesis =>
      rw [record_cons, inductionHypothesis, get_setIfInBounds,
        lastStatus?_cons]
      by_cases about : report.1 = key
      · rw [if_pos about, if_pos about]
        rfl
      · rw [if_neg about, if_neg about]

/-! ## What the machine records -/

/-- A report is recorded, also if it repeats what is recorded or answers a
wait. -/
theorem Processor.keys_reportKey
    (processor : Processor) (key : Key) (pressed : Bool) :
    (processor.reportKey key pressed).1.keys =
      processor.keys.setIfInBounds key.val pressed := by
  rcases processor.reportKey_cases key pressed with
    noted | ⟨register, -, rfl, answered⟩
  · rw [noted]
  · rw [answered]

namespace Machine

theorem keys_execute (machine : Machine) (instruction : Instruction) :
    (machine.execute instruction).machine.processor.keys =
      machine.processor.keys := by
  have untouched : Part.keys ∉ instruction.parts := by
    cases instruction <;> simp [Instruction.parts]
  exact (machine.agreeOff_execute instruction .keys untouched).symm

theorem keys_step (machine : Machine) :
    machine.step.machine.processor.keys = machine.processor.keys :=
  machine.advance.keys_execute machine.nextInstruction

theorem keys_frame (machine : Machine) :
    machine.frame.machine.processor.keys = machine.processor.keys := by
  have kept : ∀ fetch : Machine, True →
      fetch.processor.keys = machine.processor.keys →
      fetch.step.machine.processor.keys = machine.processor.keys :=
    fun fetch _ same => (keys_step fetch).trans same
  unfold frame
  split
  · rfl
  · have counted : machine.countDown.processor.keys = machine.processor.keys :=
      rfl
    exact (invariant_cycles kept _ counted fun _ _ => trivial).2

end Machine

/-! ## Runs of a host -/

/-- A host that plays at any pace lets frames pass, sets the speed and reports
keys. -/
inductive Operation.Paced : Operation → Prop where
  | frame : Paced .frame
  | setSpeed (value : Datum) : Paced (.setSpeed value)
  | key (key : Key) (pressed : Bool) : Paced (.key key pressed)

/-- The key that an operation reports, and whether it went down. -/
def Operation.report? : Operation → Option (Key × Bool)
  | .reportKey code pressed =>
      match KeyCode.ofDatum code with
      | .ok code => code.key?.map fun key => (key, pressed)
      | .error _ => none
  | _ => none

@[simp]
theorem Operation.report?_key (key : Key) (pressed : Bool) :
    (Operation.key key pressed).report? = some (key, pressed) := by
  have known : KeyCode.ofDatum (.integer key.val) = .ok (.key key) :=
    KeyCode.ofDatum_datum_key key
  simp only [Operation.key, report?, known, KeyCode.key?, Option.map_some]

namespace Machine

theorem keys_apply
    (machine : Machine) {operation : Operation} (paced : operation.Paced) :
    (machine.apply operation).machine.processor.keys =
      record machine.processor.keys operation.report?.toList := by
  cases paced with
  | frame =>
      exact machine.keys_frame
  | setSpeed value =>
      simp only [apply]
      split <;> rfl
  | key key pressed =>
      rw [apply_key, Operation.report?_key]
      exact machine.processor.keys_reportKey key pressed

/-- After any run of a host, the last report for a key is recorded, or what was
recorded before the run if there was none. -/
theorem keys_after
    {machine : Machine} {operations : List Operation}
    (paced : ∀ operation ∈ operations, operation.Paced) :
    (machine.after operations).processor.keys =
      record machine.processor.keys
        (operations.filterMap Operation.report?) := by
  induction operations generalizing machine with
  | nil =>
      rfl
  | cons operation rest inductionHypothesis =>
      obtain ⟨first, later⟩ := List.forall_mem_cons.mp paced
      rw [after_cons, inductionHypothesis later, machine.keys_apply first,
        ← record_append]
      cases reported : operation.report? with
      | none => simp [reported]
      | some report => simp [reported]

end Machine

end Chip8

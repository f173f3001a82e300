import Chip8.KeyWait
import Chip8.Proofs.KeyWait

/-!
# Waits with a name

A wait whose name is that of a register goes the way of a machine that waits
with this register.

* `KeyWait.StandsFor` relates a wait to a machine: the name tells what waits,
  and the rest of the processor is the same;
* every machine has a wait that stands for it (`standsFor_ofMachine`);
* a report of a key is answered alike by both, and leaves a wait behind that
  stands for the machine left behind (`standsFor_reportCode`);
* `standsFor_after` says the same of any reports in a row.
-/

namespace Chip8

namespace KeyWait

/-- What a name says about what waits: nothing, or a register. -/
inductive Names : Datum → Option Register → Prop where
  | nothing : Names .null none
  | register {name : Datum} {register : Register} :
      registerOf name = .ok register → Names name (some register)

/-- The wait stands for a machine: but for what waits, which the name tells,
they have the same processor. -/
def StandsFor (wait : KeyWait) (machine : Machine) : Prop :=
  ∃ waiting, Names wait.name waiting ∧
    machine.processor = { wait.processor with waiting := waiting }

/-- A wait and a machine answer a report of a key alike. -/
inductive Agrees :
    Except KeyWaitError (Option KeyAnswer) → Except OperationError Answer →
      Prop where
  | noKey : Agrees (.error .fractionalKey) (.error .fractionalKey)
  | noted : Agrees (.ok none) (.ok .nothing)
  | answered (answer : KeyAnswer) :
      Agrees (.ok (some answer)) (.ok (.write answer.register answer.code))

/-- The wait that names what a machine waits with by its number. -/
def ofMachine (machine : Machine) : KeyWait where
  processor := machine.processor
  name :=
    match machine.processor.waiting with
    | some register => .integer register.val
    | none => .null

theorem standsFor_ofMachine (machine : Machine) :
    (ofMachine machine).StandsFor machine := by
  refine ⟨machine.processor.waiting, ?_, rfl⟩
  unfold ofMachine
  cases machine.processor.waiting with
  | none => exact .nothing
  | some register => exact .register (registerOf_val register)

/-! ## One report -/

variable {wait : KeyWait} {machine : Machine}

/-- A report that answers no wait is noted. -/
theorem noted_none (wait : KeyWait) (key : Key) (pressed : Bool) :
    wait.noted none key pressed =
      { wait with
        processor := { wait.processor with
          keys := wait.processor.keys.setIfInBounds key.val pressed
          waiting := none } } := by
  have idle : { wait.processor with waiting := none }.waiting = none := rfl
  simp only [noted, Processor.reportKey_unanswered (.inl idle)]

theorem isAnsweredBy_iff
    {key : Key} {pressed : Bool} :
    wait.isAnsweredBy key pressed = true ↔
      wait.name ≠ .null ∧ pressed = true ∧
        wait.processor.keys.get key = false := by
  simp [isAnsweredBy, and_assoc]

/-- The empty value is the name of no register. -/
theorem ne_null_of_registerOf
    {name : Datum} {register : Register}
    (known : registerOf name = .ok register) : name ≠ .null := by
  rintro rfl
  contradiction

/-- A report that does not answer the wait of a machine is noted by both. -/
theorem standsFor_noted
    {waiting : Option Register} {key : Key} {pressed : Bool}
    (names : Names wait.name waiting)
    (same : machine.processor = { wait.processor with waiting := waiting })
    (quiet : waiting = none ∨ pressed = false ∨
      wait.processor.keys.get key = true) :
    (machine.reportKey key pressed : Outcome OperationError _).result =
        .ok none ∧
      (wait.noted none key pressed).StandsFor
        (machine.reportKey key pressed : Outcome OperationError _).machine := by
  have unanswered :
      let own := { wait.processor with waiting := waiting }
      own.waiting = none ∨ pressed = false ∨ own.keys.get key = true := quiet
  simp only [Machine.reportKey, same, noted_none,
    Processor.reportKey_unanswered unanswered]
  exact ⟨trivial, waiting, names, rfl⟩

/-- A report of a key is answered alike by a wait and the machine that it stands
for, and leaves a wait behind that stands for the machine left behind. -/
theorem standsFor_reportCode
    (stands : wait.StandsFor machine) (code : KeyCode) (pressed : Bool) :
    Agrees (wait.reportCode code pressed).2
        (machine.reportCode code pressed).result ∧
      (wait.reportCode code pressed).1.StandsFor
        (machine.reportCode code pressed).machine := by
  obtain ⟨own, name⟩ := wait
  obtain ⟨waiting, names, same⟩ := stands
  unfold reportCode Machine.reportCode
  cases code.key? with
  | none => exact ⟨.noKey, waiting, names, same⟩
  | some key =>
      by_cases answers : isAnsweredBy ⟨own, name⟩ key pressed = true
      · obtain ⟨named, rfl, up⟩ := isAnsweredBy_iff.mp answers
        simp only [answers, if_true]
        cases names with
        | nothing => exact absurd rfl named
        | @register _ register known =>
            have waits :
                { own with waiting := some register }.waiting = some register :=
              rfl
            have reported := Processor.reportKey_answered waits up
            simp only [known, noted, Machine.reportKey, same, reported]
            exact ⟨.answered ⟨_, _, _⟩, none, .nothing, rfl⟩
      · have quiet :
            waiting = none ∨ pressed = false ∨ own.keys.get key = true := by
          cases names with
          | nothing => exact .inl rfl
          | register known =>
              have named := ne_null_of_registerOf known
              have unanswered := mt isAnsweredBy_iff.mpr answers
              cases pressed with
              | false => exact .inr (.inl rfl)
              | true => exact .inr (.inr (by simpa [named] using unanswered))
        obtain ⟨result, stillStands⟩ := standsFor_noted names same quiet
        simp only [answers, Bool.false_eq_true, if_false, result, Except.map]
        exact ⟨.noted, stillStands⟩

/-! ## Reports in a row -/

/-- The wait after some reports. -/
def after (wait : KeyWait) (reports : List (KeyCode × Bool)) : KeyWait :=
  reports.foldl
    (fun current report => (current.reportCode report.1 report.2).1) wait

end KeyWait

/-- The machine after some reports. -/
def Machine.afterReports
    (machine : Machine) (reports : List (KeyCode × Bool)) : Machine :=
  reports.foldl
    (fun current report => (current.reportCode report.1 report.2).machine)
    machine

namespace KeyWait

/-- Whatever is reported, a wait and the machine that it stands for stay
together. -/
theorem standsFor_after
    {wait : KeyWait} {machine : Machine} (stands : wait.StandsFor machine)
    (reports : List (KeyCode × Bool)) :
    (wait.after reports).StandsFor (machine.afterReports reports) := by
  induction reports generalizing wait machine with
  | nil =>
      exact stands
  | cons report rest inductionHypothesis =>
      exact inductionHypothesis
        (standsFor_reportCode stands report.1 report.2).2

/-- A machine answers every report as the wait does that names what the machine
waits with. -/
theorem agrees_reports
    (machine : Machine) (earlier : List (KeyCode × Bool))
    (code : KeyCode) (pressed : Bool) :
    Agrees (((ofMachine machine).after earlier).reportCode code pressed).2
      ((machine.afterReports earlier).reportCode code pressed).result :=
  (standsFor_reportCode
    (standsFor_after (standsFor_ofMachine machine) earlier) code pressed).1

end KeyWait

end Chip8

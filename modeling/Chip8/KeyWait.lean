import Chip8.KeyCode

/-!
# Waits for a key

A wait for a key names the register that will hold the code of the key, and any
value will do for a name until the key goes down.

* Registers are numbered from zero on, and from minus one downwards starting at
  the last one.  Truth values stand for one and zero.
* The empty value means that nothing waits.
* A press that answers a wait is noted first.  If the name is that of no
  register, the key is down and the wait goes on.
-/

namespace Chip8

/-- Why a value names no register. -/
inductive RegisterError where
  | outOfRange
  | noWord
  | unsuitable (kind : String)
  deriving DecidableEq, Repr

/-- The text that reports the error. -/
def RegisterError.message : RegisterError → String
  | .outOfRange => "list assignment index out of range"
  | .noWord =>
      "cannot fit " ++ Text.quoted "int" ++ " into an index-sized integer"
  | .unsuitable kind => KeyCode.misplacedMessage kind

/-- The register with a number, counted from either end. -/
def registerOfInt (number : Int) : Except RegisterError Register :=
  if number < -0x8000000000000000 ∨ 0x8000000000000000 ≤ number then
    .error .noWord
  else
    match keyOfInt? (if number < 0 then number + 16 else number) with
    | some register => .ok register
    | none => .error .outOfRange

/-- The register that a value names. -/
def registerOf : Datum → Except RegisterError Register
  | .integer number => registerOfInt number
  | .boolean value => registerOfInt (if value then 1 else 0)
  | other => .error (.unsuitable other.kind)

/-- A register has its own number. -/
@[simp]
theorem registerOf_val (register : Register) :
    registerOf (.integer register.val) = .ok register := by
  have bound := register.isLt
  have inside : ¬((register.val : Int) < -0x8000000000000000 ∨
      0x8000000000000000 ≤ (register.val : Int)) := by omega
  have known : keyOfInt? (register.val : Int) = some register := by
    unfold keyOfInt?
    rw [dif_pos ⟨by omega, by omega⟩]
    simp
  have upwards : ¬((register.val : Int) < 0) := by omega
  simp only [registerOf, registerOfInt, if_neg inside, if_neg upwards, known]

/-- A processor, and the name of the register that waits for a key, if any. -/
structure KeyWait where
  processor : Processor
  name : Datum

/-- The answer to a wait: the register as it was named, the register itself and
the code of the key. -/
structure KeyAnswer where
  name : Datum
  register : Register
  code : KeyCode
  deriving DecidableEq, Repr

/-- Why the report of a key is refused. -/
inductive KeyWaitError where
  | fractionalKey
  | noRegister (reason : RegisterError)
  deriving DecidableEq, Repr

/-- The text that reports the refusal. -/
def KeyWaitError.message : KeyWaitError → String
  | .fractionalKey => KeyCode.fractionMessage
  | .noRegister reason => reason.message

namespace KeyWait

/-- The wait with a processor after a report of a key while a register waits,
or none. -/
def noted (wait : KeyWait) (waiting : Option Register) (key : Key)
    (pressed : Bool) : KeyWait :=
  let processor := { wait.processor with waiting := waiting }
  { wait with processor := (processor.reportKey key pressed).1 }

/-- Whether a report of a key answers the wait. -/
def isAnsweredBy (wait : KeyWait) (key : Key) (pressed : Bool) : Bool :=
  wait.name ≠ .null && pressed && !wait.processor.keys.get key

/-- Record that the key with a code went down or up, if there is one. -/
def reportCode (wait : KeyWait) (code : KeyCode) (pressed : Bool) :
    KeyWait × Except KeyWaitError (Option KeyAnswer) :=
  match code.key? with
  | none => (wait, .error .fractionalKey)
  | some key =>
      if wait.isAnsweredBy key pressed then
        match registerOf wait.name with
        | .ok register =>
            ({ wait.noted (some register) key pressed with name := .null },
              .ok (some ⟨wait.name, register, code⟩))
        | .error reason =>
            (wait.noted none key pressed, .error (.noRegister reason))
      else
        (wait.noted none key pressed, .ok none)

end KeyWait

end Chip8

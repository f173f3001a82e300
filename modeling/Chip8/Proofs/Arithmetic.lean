import Chip8.Proofs.Parts
import Chip8.Proofs.Ranges

/-!
# The arithmetic of registers

The operations on two registers are exact: together with its flag, a result says
what the operation comes to in the integers.

* `Alu.Exact` is the table of what results and flags say, and `exact_evaluate`
  says that the operations keep to it;
* `register_operate` says where the result and the flag go, which may be the
  registers that they were made from;
* `arithmetic_exact` puts this together for the words of all operations, and for
  those that name none.
-/

namespace Chip8

/-! ## Results and flags -/

namespace Alu

/-- What the result and the flag of an operation say about the contents of the two
registers.  The flag of a difference is set if nothing was borrowed. -/
def Exact (operation : Alu) (a b result flag : Nat) : Prop :=
  match operation with
  | .copy => result = b
  | .or => result = a ||| b
  | .and => result = a &&& b
  | .xor => result = a ^^^ b
  | .add => result + 256 * flag = a + b
  | .subtract => (result : Int) = a - b + 256 * (1 - flag)
  | .shiftRight => 2 * result + flag = a
  | .subtractFrom => (result : Int) = b - a + 256 * (1 - flag)
  | .shiftLeft => result + 256 * flag = 2 * a

/-- The result and the flag of an operation on bytes are exact.  An operation
without a flag is, whatever the flag was before. -/
theorem exact_evaluate
    (operation : Alu) {a b : Nat} (left : a < 256) (right : b < 256)
    (before : Nat) :
    operation.Exact a b (operation.evaluate a b).1
      ((operation.evaluate a b).2.getD before) := by
  cases operation with
  | copy | or | and | xor => rfl
  | add | subtract | subtractFrom =>
      simp only [Exact, evaluate, Option.getD_some]
      split <;> omega
  | shiftRight | shiftLeft =>
      simp only [Exact, evaluate, Option.getD_some]
      omega

end Alu

namespace Processor

/-- The result goes into the first register, and the flag into the flag register
unless that is the first one. -/
theorem register_operate
    (processor : Processor) (operation : Alu) (x y number : Register) :
    let evaluated :=
      operation.evaluate (processor.register x) (processor.register y)
    (processor.operate operation x y).register number =
      if number = x then evaluated.1
      else if number = flagRegister then
        evaluated.2.getD (processor.register number)
      else processor.register number := by
  intro evaluated
  unfold operate
  split
  · next result same =>
      have known : evaluated = (result, none) := same
      simp only [known, register_setRegister, Option.getD_none, ite_self,
        eq_comm]
  · next result flag same =>
      have known : evaluated = (result, some flag) := same
      simp only [known, register_setRegister, Option.getD_some, eq_comm]

end Processor

/-! ## Words of the family -/

/-- A word of the family of operations whose last digit names none is ignored. -/
theorem Instruction.decodeWord_of_no_operation
    (x y : Register) {digit : Nat} (short : digit < 16)
    (unnamed : Alu.decode? digit = none) :
    decodeWord (0x8000 + 0x100 * x.val + 0x10 * y.val + digit) = .ignored := by
  obtain ⟨family, -, -, last⟩ := Spells.digits_of_digit 0x8 x y rfl short
  simp only [decodeWord, family, last, unnamed]

namespace Machine

variable {machine : Machine}

theorem executeWord_arithmetic (operation : Alu) (x y : Register) :
    machine.executeWord
        ((0x8000 + 0x100 * x.val + 0x10 * y.val + operation.digit : Nat) : Int) =
      ⟨{ machine with processor := machine.processor.operate operation x y },
        [], .ok ()⟩ := by
  rw [executeWord_of_spells _ (.arithmetic operation x y)]
  rfl

theorem executeWord_of_no_operation
    (x y : Register) {digit : Nat} (short : digit < 16)
    (unnamed : Alu.decode? digit = none) :
    machine.executeWord
        ((0x8000 + 0x100 * x.val + 0x10 * y.val + digit : Nat) : Int) =
      ⟨machine, [], .ok ()⟩ := by
  have decoded := Instruction.decodeWord_of_no_operation x y short unnamed
  rw [executeWord]
  change machine.execute (Instruction.decodeWord _) = _
  rw [decoded]
  rfl

/-- The operations on two registers that hold bytes, which may be one register or
the flag register.  They change registers only, and of these the first one and,
if they have a flag, the flag register.  If the first one is another register, it
holds a byte afterwards and the flag register a flag, and together these are the
exact sum, difference, halves or double of what the two held before.  If it is the
flag register, the result stays there and the flag is lost.  The four operations
without a flag leave all registers but the first one alone, and the last digits
that name no operation change nothing. -/
theorem arithmetic_exact
    (bytes : ∀ number, machine.processor.register number < 256)
    (x y : Register) :
    let before := machine.processor.register
    let a := before x
    let b := before y
    let word (digit : Nat) : Nat :=
      0x8000 + 0x100 * x.val + 0x10 * y.val + digit
    let outcome (digit : Nat) := machine.executeWord (word digit)
    let after (digit : Nat) := (outcome digit).machine.processor.register
    (∀ digit < 16, ∃ registers,
        outcome digit =
          ⟨{ machine with
              processor := { machine.processor with registers := registers } },
            [], .ok ()⟩) ∧
      (∀ digit < 16, ∀ number, number ≠ x → number ≠ 15 →
        after digit number = before number) ∧
      (∀ digit < 4, ∀ number, number ≠ x →
        after digit number = before number) ∧
      (after 0 x = b ∧ after 1 x = a ||| b ∧ after 2 x = a &&& b ∧
        after 3 x = a ^^^ b) ∧
      (x ≠ 15 →
        (∀ digit ∈ [4, 5, 6, 7, 14],
            after digit x ≤ 255 ∧ after digit 15 ≤ 1) ∧
          after 4 x + 256 * after 4 15 = a + b ∧
          (after 5 x : Int) = a - b + 256 * (1 - after 5 15) ∧
          2 * after 6 x + after 6 15 = a ∧
          (after 7 x : Int) = b - a + 256 * (1 - after 7 15) ∧
          after 14 x + 256 * after 14 15 = 2 * a) ∧
      (x = 15 →
        after 4 15 = (a + b) % 256 ∧
          (after 5 15 : Int) = ((a : Int) - b) % 256 ∧
          after 6 15 = a / 2 ∧
          (after 7 15 : Int) = ((b : Int) - a) % 256 ∧
          after 14 15 = 2 * a % 256) ∧
      ∀ digit < 16, digit ∉ [0, 1, 2, 3, 4, 5, 6, 7, 14] →
        outcome digit = ⟨machine, [], .ok ()⟩ := by
  intro before a b word outcome after
  have carriedOut (operation : Alu) :
      outcome operation.digit =
        ⟨{ machine with processor := machine.processor.operate operation x y },
          [], .ok ()⟩ :=
    executeWord_arithmetic operation x y
  have named (digit : Nat) (short : digit < 16) :
      (∃ operation : Alu, operation.digit = digit) ∨
        outcome digit = ⟨machine, [], .ok ()⟩ := by
    cases found : Alu.decode? digit with
    | none => exact .inr (executeWord_of_no_operation x y short found)
    | some operation =>
        exact .inl ⟨operation, Alu.digit_of_decode? found⟩
  have left (operation : Alu) (number : Register) :
      after operation.digit number =
        if number = x then (operation.evaluate a b).1
        else if number = 15 then
          (operation.evaluate a b).2.getD (before number)
        else before number := by
    simp only [after, carriedOut]
    exact machine.processor.register_operate operation x y number
  have result (operation : Alu) :
      after operation.digit x = (operation.evaluate a b).1 := by
    rw [left, if_pos rfl]
  refine ⟨?registersOnly, ?others, ?unflagged, ⟨result .copy, result .or,
    result .and, result .xor⟩, ?exact, ?flagRegister, ?ignored⟩
  case registersOnly =>
    intro digit short
    rcases named digit short with ⟨operation, rfl⟩ | ignored
    · obtain ⟨registers, same⟩ :=
        machine.processor.exists_operate operation x y
      exact ⟨registers, by rw [carriedOut, same]⟩
    · exact ⟨machine.processor.registers, ignored⟩
  case others =>
    intro digit short number notFirst notFlag
    rcases named digit short with ⟨operation, rfl⟩ | ignored
    · rw [left, if_neg notFirst, if_neg notFlag]
    · simp only [after, ignored, before]
  case unflagged =>
    intro digit small number notFirst
    have kept (operation : Alu) (noFlag : (operation.evaluate a b).2 = none) :
        after operation.digit number = before number := by
      rw [left, if_neg notFirst, noFlag, Option.getD_none, ite_self]
    have each : digit = 0 ∨ digit = 1 ∨ digit = 2 ∨ digit = 3 := by omega
    rcases each with rfl | rfl | rfl | rfl
    · exact kept .copy rfl
    · exact kept .or rfl
    · exact kept .and rfl
    · exact kept .xor rfl
  case exact =>
    intro notFlag
    have flag (operation : Alu) :
        after operation.digit 15 =
          (operation.evaluate a b).2.getD (before 15) := by
      rw [left, if_neg (Ne.symm notFlag), if_pos rfl]
    have exactly (operation : Alu) :
        operation.Exact a b (after operation.digit x)
          (after operation.digit 15) := by
      rw [result, flag]
      exact operation.exact_evaluate (bytes x) (bytes y) _
    have small (operation : Alu) {noted : Nat}
        (flagged : (operation.evaluate a b).2 = some noted) :
        after operation.digit x ≤ 255 ∧ after operation.digit 15 ≤ 1 := by
      obtain ⟨byte, bit⟩ := operation.evaluate_lt (bytes x) (bytes y)
      rw [result, flag, flagged]
      exact ⟨Nat.le_of_lt_succ byte, bit noted flagged⟩
    refine ⟨?_, exactly .add, exactly .subtract, exactly .shiftRight,
      exactly .subtractFrom, exactly .shiftLeft⟩
    simp only [List.forall_mem_cons]
    exact ⟨small .add rfl, small .subtract rfl, small .shiftRight rfl,
      small .subtractFrom rfl, small .shiftLeft rfl,
      fun _ member => absurd member List.not_mem_nil⟩
  case flagRegister =>
    rintro rfl
    have reduced (number : Int) :
        ((number % 256).toNat : Int) = number % 256 :=
      Int.toNat_of_nonneg (Int.emod_nonneg number (by decide))
    refine ⟨result .add, ?_, result .shiftRight, ?_, ?_⟩
    · exact (congrArg Int.ofNat (result .subtract)).trans (reduced _)
    · exact (congrArg Int.ofNat (result .subtractFrom)).trans (reduced _)
    · rw [Nat.mul_comm]
      exact result .shiftLeft
  case ignored =>
    intro digit short unlisted
    rcases named digit short with ⟨operation, rfl⟩ | ignored
    · cases operation <;> exact absurd (by decide) unlisted
    · exact ignored

/-- A machine with two numbers in registers, one of them in the flag register. -/
def ledger : Machine where
  processor :=
    ((Processor.starting (Vector.replicate memorySize 0)).setRegister 3
      200).setRegister 15 100
  screen := .blank 8 8
  random := .ofSeed 0
  speed := 1

/-- The flag register may hold an operand and still receive the flag, but not if
it receives the result. -/
theorem arithmetic_exact_ledger :
    let after (word : Int) := (ledger.executeWord word).machine.processor.register
    (∀ number, ledger.processor.register number < 256) ∧
      after 0x83F4 3 + 256 * after 0x83F4 15 = 300 ∧
      after 0x83F4 15 ≤ 1 ∧
      (after 0x83F7 3 : Int) = 100 - 200 + 256 * (1 - after 0x83F7 15) ∧
      (after 0x8F35 15 : Int) = 156 ∧
      ledger.executeWord 0x83F8 = ⟨ledger, [], .ok ()⟩ := by
  intro after
  have bytes : ∀ number, ledger.processor.register number < 256 := by
    decide +kernel
  obtain ⟨-, -, -, -, exactly, -, ignored⟩ := arithmetic_exact bytes 3 15
  obtain ⟨-, -, -, -, -, lost, -⟩ := arithmetic_exact bytes 15 3
  obtain ⟨small, sum, -, -, difference, -⟩ := exactly (by decide)
  obtain ⟨-, replaced, -⟩ := lost rfl
  exact ⟨bytes, sum, (small 4 (by decide)).2, difference,
    replaced.trans (by decide +kernel), ignored 8 (by decide) (by decide)⟩

end Machine

end Chip8

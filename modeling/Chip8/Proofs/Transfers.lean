import Chip8.Proofs.Parts
import Chip8.Proofs.Ranges

/-!
# Transfers between registers and memory

What is stored from registers is restored to them, also around the end of
memory.

* addresses less than a memory apart name different cells
  (`cell_add_eq_cell_add_iff`), so the bytes of one transfer do not meet;
* `observe_foldl` is the induction over the registers of a transfer, for what is
  observed of one of them;
* `read_storeThrough`, `register_restoreThrough` and `read_storeDecimal` say
  where each byte goes;
* `transfers_invert` says what is left of two transfers in a row.
-/

namespace Chip8

/-- Addresses that are less than a memory beyond one place name one cell only if
they are the same. -/
theorem cell_add_eq_cell_add_iff
    (index : Int) {first second : Nat}
    (near : first < 4096) (alsoNear : second < 4096) :
    cell (index + first) = cell (index + second) ↔ first = second := by
  rw [cell_eq_cell_iff]
  unfold memorySize
  omega

namespace Processor

variable (processor : Processor)

/-! ## One register after the other -/

/-- What is observed of one register while registers are transferred in order, if
its own turn alone changes that, and to a value that no turn changes.  A list may
well repeat a register. -/
theorem observe_foldl
    (transfer : Processor → Register → Processor)
    (observe value : Processor → Nat) {number : Register}
    (keeps : ∀ current moved, value (transfer current moved) = value current)
    (turn : ∀ current moved, observe (transfer current moved) =
      if number = moved then value current else observe current)
    (registers : List Register) :
    let last := observe (registers.foldl transfer processor)
    (number ∈ registers → last = value processor) ∧
      (number ∉ registers → last = observe processor) := by
  induction registers generalizing processor with
  | nil =>
      exact ⟨fun member => absurd member List.not_mem_nil, fun _ => rfl⟩
  | cons first rest inductionHypothesis =>
      obtain ⟨among, aside⟩ := inductionHypothesis (transfer processor first)
      intro last
      by_cases again : number ∈ rest
      · exact ⟨fun _ => (among again).trans (keeps processor first),
          fun absent => absurd (List.mem_cons_of_mem first again) absent⟩
      · have once : last = _ := (aside again).trans (turn processor first)
        constructor
        · intro member
          rcases List.mem_cons.mp member with same | later
          · rw [once, if_pos same]
          · exact absurd later again
        · intro absent
          have apart : number ≠ first :=
            fun same => absent (same ▸ List.mem_cons_self)
          rw [once, if_neg apart]

theorem observe_transfer
    (transfer : Processor → Register → Processor)
    (observe value : Processor → Nat) {number : Register}
    (keeps : ∀ current moved, value (transfer current moved) = value current)
    (turn : ∀ current moved, observe (transfer current moved) =
      if number = moved then value current else observe current)
    (last : Register) :
    observe ((registersThrough last).foldl transfer processor) =
      if number ≤ last then value processor else observe processor := by
  obtain ⟨among, aside⟩ :=
    processor.observe_foldl transfer observe value keeps turn
      (registersThrough last)
  simp only [mem_registersThrough] at among aside
  split
  · next inside => exact among inside
  · next outside => exact aside outside

/-! ## Storing -/

/-- Store one register where a transfer of registers stores it. -/
def storeRegister (register : Register) : Processor :=
  processor.write (processor.index + register.val) (processor.register register)

theorem storeThrough_eq (last : Register) :
    processor.storeThrough last =
      (registersThrough last).foldl storeRegister processor := rfl

theorem read_storeRegister (stored tested : Register) :
    (processor.storeRegister stored).read (processor.index + tested.val) =
      if tested = stored then processor.register tested % 256
      else processor.read (processor.index + tested.val) := by
  have near := stored.isLt
  have alsoNear := tested.isLt
  rw [storeRegister, read_write]
  by_cases same : tested = stored
  · subst same
    rw [if_pos rfl, if_pos rfl]
    omega
  · have apart :
        cell (processor.index + stored.val) ≠
          cell (processor.index + tested.val) := by
      rw [Ne, cell_add_eq_cell_add_iff _ (by omega) (by omega)]
      exact fun meet => same (Fin.ext meet.symm)
    rw [if_neg apart, if_neg same]

theorem index_storeThrough (last : Register) :
    (processor.storeThrough last).index = processor.index := by
  obtain ⟨memory, same⟩ := processor.exists_storeThrough last
  rw [same]

theorem read_storeThrough (last number : Register) :
    (processor.storeThrough last).read (processor.index + number.val) =
      if number ≤ last then processor.register number % 256
      else processor.read (processor.index + number.val) := by
  have turn (current : Processor) (moved : Register) :
      (current.storeRegister moved).read
          ((current.storeRegister moved).index + number.val) =
        if number = moved then current.register number % 256
        else current.read (current.index + number.val) :=
    current.read_storeRegister moved number
  have stored :=
    processor.observe_transfer storeRegister
      (fun current => current.read (current.index + number.val))
      (fun current => current.register number % 256) (fun _ _ => rfl) turn last
  rw [← storeThrough_eq, index_storeThrough] at stored
  exact stored

/-! ## Restoring -/

/-- Restore one register from where a transfer of registers stores it. -/
def restoreRegister (register : Register) : Processor :=
  processor.setRegister register
    (processor.read (processor.index + register.val))

theorem restoreThrough_eq (last : Register) :
    processor.restoreThrough last =
      (registersThrough last).foldl restoreRegister processor := rfl

theorem register_restoreThrough (last number : Register) :
    (processor.restoreThrough last).register number =
      if number ≤ last then processor.read (processor.index + number.val)
      else processor.register number := by
  have turn (current : Processor) (moved : Register) :
      (current.restoreRegister moved).register number =
        if number = moved then current.read (current.index + number.val)
        else current.register number := by
    rw [restoreRegister, register_setRegister]
    by_cases same : number = moved
    · rw [if_pos same, if_pos same.symm, same]
    · rw [if_neg same, if_neg (Ne.symm same)]
  rw [restoreThrough_eq]
  exact processor.observe_transfer restoreRegister
    (fun current => current.register number)
    (fun current => current.read (current.index + number.val))
    (fun _ _ => rfl) turn last

/-! ## One transfer after the other -/

variable {processor} {last : Register}

theorem index_restoreThrough :
    (processor.restoreThrough last).index = processor.index := by
  obtain ⟨registers, same⟩ := processor.exists_restoreThrough last
  rw [same]

theorem get_storeThrough_of_le
    (wellFormed : processor.WellFormed) {number : Register}
    (inside : number ≤ last) :
    (processor.storeThrough last).memory.get
        (cell (processor.index + number.val)) =
      processor.register number := by
  have stored := processor.read_storeThrough last number
  rw [if_pos inside, Nat.mod_eq_of_lt (wellFormed.registers number)] at stored
  exact stored

/-- A cell that a transfer of registers stores into belongs to one of them. -/
theorem get_storeThrough_of_apart
    {place : Fin memorySize}
    (apart : ∀ number ≤ last, place ≠ cell (processor.index + number.val)) :
    (processor.storeThrough last).memory.get place =
      processor.memory.get place := by
  apply processor.get_storeThrough_of_ne
  intro offset inside
  have short : offset < 16 := Nat.lt_of_le_of_lt inside last.isLt
  exact apart ⟨offset, short⟩ inside

/-- Storing what was just restored changes nothing. -/
theorem memory_restoreThrough_storeThrough
    (wellFormed : processor.WellFormed) :
    ((processor.restoreThrough last).storeThrough last).memory =
      processor.memory := by
  have kept : (processor.restoreThrough last).memory = processor.memory := by
    obtain ⟨registers, same⟩ := processor.exists_restoreThrough last
    rw [same]
  apply Vector.ext
  intro place bound
  change ((processor.restoreThrough last).storeThrough last).memory.get
    ⟨place, bound⟩ = processor.memory.get ⟨place, bound⟩
  by_cases among : ∃ number ≤ last,
      (⟨place, bound⟩ : Fin memorySize) = cell (processor.index + number.val)
  · obtain ⟨number, inside, here⟩ := among
    have restored := processor.register_restoreThrough last number
    rw [if_pos inside] at restored
    have stored := get_storeThrough_of_le (wellFormed.restoreThrough last) inside
    rw [index_restoreThrough, restored] at stored
    rw [here]
    exact stored
  · have apart : ∀ number ≤ last,
        (⟨place, bound⟩ : Fin memorySize) ≠
          cell ((processor.restoreThrough last).index + number.val) := by
      intro number inside here
      rw [index_restoreThrough] at here
      exact among ⟨number, inside, here⟩
    rw [get_storeThrough_of_apart apart, kept]

/-- Whatever the registers hold after they were stored, restoring brings back
what was stored. -/
theorem register_storeThrough_restoreThrough
    (wellFormed : processor.WellFormed) (registers : Vector Nat 16)
    (number : Register) :
    let refilled := { processor.storeThrough last with registers := registers }
    (refilled.restoreThrough last).register number =
      if number ≤ last then processor.register number
      else registers.get number := by
  intro refilled
  have index : refilled.index = processor.index :=
    processor.index_storeThrough last
  rw [register_restoreThrough]
  by_cases inside : number ≤ last
  · rw [if_pos inside, if_pos inside, index]
    exact get_storeThrough_of_le wellFormed inside
  · rw [if_neg inside, if_neg inside]
    rfl

variable (processor)

/-! ## Decimal digits -/

/-- The three digits of a byte, one after the other. -/
theorem read_storeDecimal {value : Nat} (byte : value < 256) :
    (processor.storeDecimal value).read (processor.index + 0) = value / 100 ∧
      (processor.storeDecimal value).read (processor.index + 1) =
        value / 10 % 10 ∧
      (processor.storeDecimal value).read (processor.index + 2) =
        value % 10 := by
  have apart {first second : Int} (near : 0 < first - second)
      (within : first - second < 4096) :
      cell (processor.index + first) ≠ cell (processor.index + second) := by
    rw [Ne, cell_eq_cell_iff]
    unfold memorySize
    omega
  have first := @apart 1 0 (by decide) (by decide)
  have second := @apart 2 0 (by decide) (by decide)
  have third := @apart 2 1 (by decide) (by decide)
  rw [Int.add_zero] at first second ⊢
  unfold storeDecimal
  refine ⟨?hundreds, ?tens, ?ones⟩
  case hundreds =>
    rw [read_write, if_neg second, read_write, if_neg first, read_write,
      if_pos rfl]
    omega
  case tens =>
    rw [read_write, if_neg third, read_write, if_pos rfl]
    omega
  case ones =>
    rw [read_write, if_pos rfl]
    omega

end Processor

namespace Machine

variable {machine : Machine}

/-! ## Instructions -/

theorem executeWord_store (last : Register) :
    machine.executeWord ((0xF000 + 0x100 * last.val + 0x55 : Nat) : Int) =
      ⟨{ machine with processor := machine.processor.storeThrough last },
        [], .ok ()⟩ := by
  rw [executeWord_of_spells _ (.store last)]
  rfl

theorem executeWord_restore (last : Register) :
    machine.executeWord ((0xF000 + 0x100 * last.val + 0x65 : Nat) : Int) =
      ⟨{ machine with processor := machine.processor.restoreThrough last },
        [], .ok ()⟩ := by
  rw [executeWord_of_spells _ (.restore last)]
  rfl

theorem executeWord_decimal (x : Register) :
    machine.executeWord ((0xF000 + 0x100 * x.val + 0x33 : Nat) : Int) =
      ⟨{ machine with
          processor :=
            machine.processor.storeDecimal (machine.processor.register x) },
        [], .ok ()⟩ := by
  rw [executeWord_of_spells _ (.decimal x)]
  rfl

/-- Transfers at any index, also around the end of memory and with an index beyond
it.  Storing the registers up to one puts each of them into the cell at its
distance from the index, and leaves all other cells alone.  Whatever the registers
hold then, restoring brings back those up to that one and leaves the others as
they are.  Storing what was just restored changes no memory.  The decimal digits
of a register that are restored after it was stored so make up what it held.  All
of these complete and leave the index alone. -/
theorem transfers_invert
    (wellFormed : machine.processor.WellFormed) (x : Register) :
    let before := machine.processor
    let word (digits : Nat) : Nat := 0xF000 + 0x100 * x.val + digits
    let stored := machine.executeWord (word 0x55)
    let restored := machine.executeWord (word 0x65)
    let decimal := machine.executeWord (word 0x33)
    let rewritten := restored.machine.executeWord (word 0x55)
    let reread := decimal.machine.executeWord 0xF265
    let digit := reread.machine.processor.register
    (stored.result = .ok () ∧ restored.result = .ok () ∧
        decimal.result = .ok ()) ∧
      (stored.machine.processor.index = before.index ∧
        restored.machine.processor.index = before.index ∧
        decimal.machine.processor.index = before.index) ∧
      (∀ number ≤ x,
        stored.machine.processor.memory.get (cell (before.index + number.val)) =
          before.register number) ∧
      (∀ place, (∀ number ≤ x, place ≠ cell (before.index + number.val)) →
        stored.machine.processor.memory.get place = before.memory.get place) ∧
      (∀ registers : Vector Nat 16,
        let refilled : Machine :=
          { stored.machine with
            processor :=
              { stored.machine.processor with registers := registers } }
        let again := refilled.executeWord (word 0x65)
        again.result = .ok () ∧ again.machine.processor.index = before.index ∧
          ∀ number : Register,
            again.machine.processor.register number =
              if number ≤ x then before.register number
              else registers.get number) ∧
      (rewritten.result = .ok () ∧
        rewritten.machine.processor.index = before.index ∧
        rewritten.machine.processor.memory = before.memory) ∧
      reread.result = .ok () ∧
      reread.machine.processor.index = before.index ∧
      (digit 0 ≤ 9 ∧ digit 1 ≤ 9 ∧ digit 2 ≤ 9) ∧
      100 * digit 0 + 10 * digit 1 + digit 2 = before.register x := by
  intro before word stored restored decimal rewritten reread digit
  have isStored : stored = _ := executeWord_store x
  have isRestored : restored = _ := executeWord_restore x
  have isDecimal : decimal = _ := executeWord_decimal x
  have isRewritten : rewritten = _ := executeWord_store x
  have isReread : reread = _ := executeWord_restore 2
  refine ⟨⟨?_, ?_, ?_⟩, ⟨?_, ?_, ?_⟩, ?stored, ?others, ?restored,
    ?rewritten, ?_, ?_, ?digits⟩
  · rw [isStored]
  · rw [isRestored]
  · rw [isDecimal]
  · rw [isStored]
    exact before.index_storeThrough x
  · rw [isRestored]
    exact Processor.index_restoreThrough
  · rw [isDecimal]
    rfl
  case stored =>
    intro number inside
    rw [isStored]
    exact Processor.get_storeThrough_of_le wellFormed inside
  case others =>
    intro place apart
    rw [isStored]
    exact Processor.get_storeThrough_of_apart apart
  case restored =>
    intro registers refilled again
    have isAgain : again = _ := executeWord_restore x
    rw [isAgain]
    refine ⟨rfl, ?_, ?_⟩
    · rw [Processor.index_restoreThrough]
      exact (congrArg (fun outcome => outcome.machine.processor.index)
        isStored).trans (before.index_storeThrough x)
    · intro number
      simp only [refilled, isStored]
      exact Processor.register_storeThrough_restoreThrough wellFormed registers
        number
  case rewritten =>
    rw [isRewritten, isRestored]
    refine ⟨rfl, ?_, Processor.memory_restoreThrough_storeThrough wellFormed⟩
    exact (Processor.index_storeThrough _ x).trans
      Processor.index_restoreThrough
  · rw [isReread]
  · rw [isReread, isDecimal]
    exact Processor.index_restoreThrough
  case digits =>
    have byte : before.register x < 256 := wellFormed.registers x
    have shown (number : Register) (inside : number ≤ 2) :
        digit number =
          (before.storeDecimal (before.register x)).read
            (before.index + number.val) := by
      have filled := decimal.machine.processor.register_restoreThrough 2 number
      rw [if_pos inside, isDecimal] at filled
      simp only [digit, isReread, isDecimal]
      exact filled
    obtain ⟨hundreds, tens, ones⟩ := before.read_storeDecimal byte
    have first : digit 0 = _ := (shown 0 (by decide)).trans hundreds
    have second : digit 1 = _ := (shown 1 (by decide)).trans tens
    have third : digit 2 = _ := (shown 2 (by decide)).trans ones
    rw [first, second, third]
    omega

/-- A machine with an index two cells before the end of memory, and beyond it by
several memories. -/
def ferry : Machine where
  processor :=
    { (Processor.fresh.setRegister 0 254).setRegister 3 7 with index := 0xFFFE }
  screen := .blank 8 8
  random := .ofSeed 0
  speed := 1

theorem wellFormed_ferry : ferry.processor.WellFormed := by
  have started := Processor.WellFormed.starting Memory.HoldsBytes.fresh
  have filled := (started.setRegister 0 (by decide : 254 < 256)).setRegister 3
    (by decide : 7 < 256)
  exact filled.setIndex (isWord_natCast (by decide : 0xFFFE < 0x10000))

/-- The last two of four bytes are stored over the font, which the register that
is spelled out in decimal reaches too. -/
theorem transfers_invert_ferry :
    let stored := ferry.executeWord 0xF355
    let reread := (ferry.executeWord 0xF033).machine.executeWord 0xF265
    let digit := reread.machine.processor.register
    ferry.processor.WellFormed ∧
      stored.machine.processor.memory.get (cell 0xFFFE) = 254 ∧
      stored.machine.processor.memory.get (cell 1) = 7 ∧
      stored.machine.processor.memory.get (cell 2) = 0x90 ∧
      ((ferry.executeWord 0xF365).machine.executeWord
        0xF355).machine.processor.memory = ferry.processor.memory ∧
      100 * digit 0 + 10 * digit 1 + digit 2 = 254 := by
  intro stored reread digit
  obtain ⟨-, -, bytes, others, -, ⟨-, -, same⟩, -⟩ :=
    transfers_invert wellFormed_ferry 3
  obtain ⟨-, -, -, -, -, -, -, -, -, value⟩ :=
    transfers_invert wellFormed_ferry 0
  refine ⟨wellFormed_ferry, (bytes 0 (by decide)).trans (by decide +kernel),
    (bytes 3 (by decide)).trans (by decide +kernel), ?_, same,
    value.trans (by decide +kernel)⟩
  exact (others (cell 2) (by decide +kernel)).trans (by decide +kernel)

end Machine

end Chip8

import Chip8.Instruction

/-!
# The opcode table

The words that spell instructions, one row for each instruction.

* `Spells` is the table: in each row, a word is put together from a family and
  the operands;
* `Spells.decodeWord_eq` says that decoding reads this table, and
  `Spells.spells_decodeWord` that it ignores every word that is not in it.

The last digit of a word that compares two registers may be any digit.
-/

namespace Chip8

/-- The last digit of the words that name an operation. -/
def Alu.digit : Alu → Nat
  | .copy => 0x0
  | .or => 0x1
  | .and => 0x2
  | .xor => 0x3
  | .add => 0x4
  | .subtract => 0x5
  | .shiftRight => 0x6
  | .subtractFrom => 0x7
  | .shiftLeft => 0xE

theorem Alu.digit_lt (operation : Alu) : operation.digit < 0x10 := by
  cases operation <;> decide

@[simp]
theorem Alu.decode?_digit (operation : Alu) :
    Alu.decode? operation.digit = some operation := by
  cases operation <;> rfl

theorem Alu.digit_of_decode?
    {digit : Nat} {operation : Alu}
    (found : Alu.decode? digit = some operation) :
    operation.digit = digit := by
  unfold Alu.decode? at found
  split at found <;> first | contradiction | (cases found; rfl)

/-- The opcode table. -/
inductive Spells : Nat → Instruction → Prop where
  | clearScreen : Spells 0x00E0 .clearScreen
  | ret : Spells 0x00EE .ret
  | jump (target : Fin 0x1000) : Spells (0x1000 + target) (.jump target)
  | call (target : Fin 0x1000) : Spells (0x2000 + target) (.call target)
  | skipEqual (x : Register) (byte : Fin 0x100) :
      Spells (0x3000 + 0x100 * x + byte) (.skipEqual x byte)
  | skipUnequal (x : Register) (byte : Fin 0x100) :
      Spells (0x4000 + 0x100 * x + byte) (.skipUnequal x byte)
  | skipSame (x y : Register) (digit : Fin 0x10) :
      Spells (0x5000 + 0x100 * x + 0x10 * y + digit) (.skipSame x y)
  | set (x : Register) (byte : Fin 0x100) :
      Spells (0x6000 + 0x100 * x + byte) (.set x byte)
  | increase (x : Register) (byte : Fin 0x100) :
      Spells (0x7000 + 0x100 * x + byte) (.increase x byte)
  | arithmetic (operation : Alu) (x y : Register) :
      Spells (0x8000 + 0x100 * x + 0x10 * y + operation.digit)
        (.arithmetic operation x y)
  | skipDifferent (x y : Register) (digit : Fin 0x10) :
      Spells (0x9000 + 0x100 * x + 0x10 * y + digit) (.skipDifferent x y)
  | setIndex (target : Fin 0x1000) :
      Spells (0xA000 + target) (.setIndex target)
  | jumpFrom (base : Fin 0x1000) : Spells (0xB000 + base) (.jumpFrom base)
  | random (x : Register) (mask : Fin 0x100) :
      Spells (0xC000 + 0x100 * x + mask) (.random x mask)
  | draw (x y : Register) (height : Fin 0x10) :
      Spells (0xD000 + 0x100 * x + 0x10 * y + height) (.draw x y height)
  | skipPressed (x : Register) :
      Spells (0xE000 + 0x100 * x + 0x9E) (.skipPressed x)
  | skipReleased (x : Register) :
      Spells (0xE000 + 0x100 * x + 0xA1) (.skipReleased x)
  | readDelay (x : Register) : Spells (0xF000 + 0x100 * x + 0x07) (.readDelay x)
  | awaitKey (x : Register) : Spells (0xF000 + 0x100 * x + 0x0A) (.awaitKey x)
  | setDelay (x : Register) : Spells (0xF000 + 0x100 * x + 0x15) (.setDelay x)
  | setSound (x : Register) : Spells (0xF000 + 0x100 * x + 0x18) (.setSound x)
  | increaseIndex (x : Register) :
      Spells (0xF000 + 0x100 * x + 0x1E) (.increaseIndex x)
  | glyph (x : Register) : Spells (0xF000 + 0x100 * x + 0x29) (.glyph x)
  | decimal (x : Register) : Spells (0xF000 + 0x100 * x + 0x33) (.decimal x)
  | store (x : Register) : Spells (0xF000 + 0x100 * x + 0x55) (.store x)
  | restore (x : Register) : Spells (0xF000 + 0x100 * x + 0x65) (.restore x)

namespace Spells

open Instruction

variable {word : Nat} {instruction : Instruction}

theorem operand_eq {bits : Nat} {x : Register} (low : bits % 16 = x.val) :
    operand bits = x :=
  Fin.ext low

/-- The family and the address of a word that consists of them. -/
theorem digits_of_address
    (family : Nat) (target : Fin 0x1000)
    (consists : word = 0x1000 * family + target) :
    word / 0x1000 = family ∧ word % 0x1000 = target := by
  have bound := target.isLt
  omega

/-- The digits of a word with one register and a byte. -/
theorem digits_of_byte
    (family : Nat) (x : Register) {byte : Nat}
    (consists : word = 0x1000 * family + 0x100 * x + byte)
    (short : byte < 0x100) :
    word / 0x1000 = family ∧ operand (word / 0x100) = x ∧
      word % 0x100 = byte := by
  have first := x.isLt
  refine ⟨by omega, operand_eq ?_, by omega⟩
  omega

/-- The digits of a word with two registers and a last digit. -/
theorem digits_of_digit
    (family : Nat) (x y : Register) {digit : Nat}
    (consists : word = 0x1000 * family + 0x100 * x + 0x10 * y + digit)
    (short : digit < 0x10) :
    word / 0x1000 = family ∧ operand (word / 0x100) = x ∧
      operand (word / 0x10) = y ∧ word % 0x10 = digit := by
  have first := x.isLt
  have second := y.isLt
  refine ⟨by omega, operand_eq ?_, operand_eq ?_, by omega⟩
  · omega
  · omega

theorem decodeWord_miscellaneous
    (x : Register) {byte : Nat} (short : byte < 0x100) :
    decodeWord (0xF000 + 0x100 * x + byte) = decodeMiscellaneous x byte := by
  obtain ⟨family, first, last⟩ := digits_of_byte 0xF x rfl short
  simp only [decodeWord, family, first, last]

/-- Decoding finds every row of the table. -/
theorem decodeWord_eq (spells : Spells word instruction) :
    decodeWord word = instruction := by
  cases spells with
  | clearScreen | ret => rfl
  | jump target =>
      obtain ⟨family, address⟩ := digits_of_address 0x1 target rfl
      simp only [decodeWord, family, address]
  | call target =>
      obtain ⟨family, address⟩ := digits_of_address 0x2 target rfl
      simp only [decodeWord, family, address]
  | setIndex target =>
      obtain ⟨family, address⟩ := digits_of_address 0xA target rfl
      simp only [decodeWord, family, address]
  | jumpFrom base =>
      obtain ⟨family, address⟩ := digits_of_address 0xB base rfl
      simp only [decodeWord, family, address]
  | skipEqual x byte =>
      obtain ⟨family, first, last⟩ := digits_of_byte 0x3 x rfl byte.isLt
      simp only [decodeWord, family, first, last]
  | skipUnequal x byte =>
      obtain ⟨family, first, last⟩ := digits_of_byte 0x4 x rfl byte.isLt
      simp only [decodeWord, family, first, last]
  | set x byte =>
      obtain ⟨family, first, last⟩ := digits_of_byte 0x6 x rfl byte.isLt
      simp only [decodeWord, family, first, last]
  | increase x byte =>
      obtain ⟨family, first, last⟩ := digits_of_byte 0x7 x rfl byte.isLt
      simp only [decodeWord, family, first, last]
  | random x mask =>
      obtain ⟨family, first, last⟩ := digits_of_byte 0xC x rfl mask.isLt
      simp only [decodeWord, family, first, last]
  | skipSame x y digit =>
      obtain ⟨family, first, second, -⟩ :=
        digits_of_digit 0x5 x y rfl digit.isLt
      simp only [decodeWord, family, first, second]
  | skipDifferent x y digit =>
      obtain ⟨family, first, second, -⟩ :=
        digits_of_digit 0x9 x y rfl digit.isLt
      simp only [decodeWord, family, first, second]
  | draw x y height =>
      obtain ⟨family, first, second, last⟩ :=
        digits_of_digit 0xD x y rfl height.isLt
      simp only [decodeWord, family, first, second, last]
  | arithmetic operation x y =>
      obtain ⟨family, first, second, last⟩ :=
        digits_of_digit 0x8 x y rfl operation.digit_lt
      simp only [decodeWord, family, first, second, last, Alu.decode?_digit]
  | skipPressed x =>
      obtain ⟨family, first, last⟩ :=
        digits_of_byte 0xE x rfl (by decide : 0x9E < 0x100)
      simp only [decodeWord, family, first, last, if_true]
  | skipReleased x =>
      obtain ⟨family, first, last⟩ :=
        digits_of_byte 0xE x rfl (by decide : 0xA1 < 0x100)
      simp [decodeWord, family, first, last]
  | readDelay x | awaitKey x | setDelay x | setSound x | increaseIndex x
  | glyph x | decimal x | store x | restore x =>
      exact decodeWord_miscellaneous x (by decide)

/-! ## Finding a row -/

theorem of_eq
    {row : Nat} (spells : Spells row instruction) (same : word = row) :
    Spells word instruction :=
  same ▸ spells

theorem of_address
    {family : Nat} (read : word / 0x1000 = family) :
    word = 0x1000 * family + (Fin.ofNat 0x1000 word).val := by
  simp only [Fin.ofNat]
  omega

theorem of_byte
    {family : Nat} (read : word / 0x1000 = family) :
    word = 0x1000 * family + 0x100 * (operand (word / 0x100)).val +
      (Fin.ofNat 0x100 word).val := by
  simp only [operand, Fin.ofNat]
  omega

theorem of_digit
    {family : Nat} (read : word / 0x1000 = family) :
    word = 0x1000 * family + 0x100 * (operand (word / 0x100)).val +
      0x10 * (operand (word / 0x10)).val + (Fin.ofNat 0x10 word).val := by
  simp only [operand, Fin.ofNat]
  omega

theorem spells_decodeMiscellaneous (x : Register) (byte : Nat) :
    decodeMiscellaneous x byte = .ignored ∨
      Spells (0xF000 + 0x100 * x + byte) (decodeMiscellaneous x byte) := by
  unfold decodeMiscellaneous
  split
  · exact .inr (.readDelay x)
  · exact .inr (.awaitKey x)
  · exact .inr (.setDelay x)
  · exact .inr (.setSound x)
  · exact .inr (.increaseIndex x)
  · exact .inr (.glyph x)
  · exact .inr (.decimal x)
  · exact .inr (.store x)
  · exact .inr (.restore x)
  · exact .inl rfl

/-- A word that decodes to an instruction is in the table. -/
theorem spells_decodeWord (word : Nat) :
    decodeWord word = .ignored ∨ Spells word (decodeWord word) := by
  simp only [decodeWord]
  split
  case h_1 read =>
    split
    · next isClear => exact .inr (of_eq .clearScreen isClear)
    · split
      · next isReturn => exact .inr (of_eq .ret isReturn)
      · exact .inl rfl
  case h_2 read => exact .inr (of_eq (.jump _) (of_address read))
  case h_3 read => exact .inr (of_eq (.call _) (of_address read))
  case h_4 read => exact .inr (of_eq (.skipEqual _ _) (of_byte read))
  case h_5 read => exact .inr (of_eq (.skipUnequal _ _) (of_byte read))
  case h_6 read => exact .inr (of_eq (.skipSame _ _ _) (of_digit read))
  case h_7 read => exact .inr (of_eq (.set _ _) (of_byte read))
  case h_8 read => exact .inr (of_eq (.increase _ _) (of_byte read))
  case h_9 read =>
    split
    · next operation found =>
        have digit : operation.digit = word % 0x10 := Alu.digit_of_decode? found
        have consists := of_digit read
        refine .inr (of_eq (.arithmetic operation _ _) ?_)
        rw [digit]
        exact consists
    · exact .inl rfl
  case h_10 read => exact .inr (of_eq (.skipDifferent _ _ _) (of_digit read))
  case h_11 read => exact .inr (of_eq (.setIndex _) (of_address read))
  case h_12 read => exact .inr (of_eq (.jumpFrom _) (of_address read))
  case h_13 read => exact .inr (of_eq (.random _ _) (of_byte read))
  case h_14 read => exact .inr (of_eq (.draw _ _ _) (of_digit read))
  case h_15 read =>
    have consists := of_byte read
    split
    · next byte =>
        refine .inr (of_eq (.skipPressed _) ?_)
        rw [← byte]
        exact consists
    · split
      · next byte =>
          refine .inr (of_eq (.skipReleased _) ?_)
          rw [← byte]
          exact consists
      · exact .inl rfl
  case h_16 read =>
    rcases spells_decodeMiscellaneous (operand (word / 0x100)) (word % 0x100)
      with ignored | spells
    · exact .inl ignored
    · exact .inr (of_eq spells (of_byte read))
  case h_17 => exact .inl rfl

end Spells

/-- A number that decodes to an instruction is a word of the table. -/
theorem spells_decode (opcode : Int) :
    Instruction.decode opcode = .ignored ∨
      ∃ word : Nat, opcode = word ∧ Spells word (.decode opcode) := by
  cases opcode with
  | negSucc _ => exact .inl rfl
  | ofNat word =>
      rcases Spells.spells_decodeWord word with ignored | spells
      · exact .inl ignored
      · exact .inr ⟨word, rfl, spells⟩

end Chip8

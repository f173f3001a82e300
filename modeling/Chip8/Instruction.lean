import Chip8.Processor

/-!
# Instructions

A word of sixteen bits names one instruction.  `decode` reads it:

* the highest four bits choose the family;
* families 8, E and F look at further bits of the word, family 0 at all of it;
* words that match no pattern, and numbers that are no words, are ignored.
-/

namespace Chip8

/-- The register-to-register operations. -/
inductive Alu where
  | copy
  | or
  | and
  | xor
  | add
  | subtract
  | shiftRight
  | subtractFrom
  | shiftLeft
  deriving DecidableEq, Repr

/-- What a word tells the machine to do. -/
inductive Instruction where
  | ignored
  | clearScreen
  | ret
  | jump (target : Nat)
  | call (target : Nat)
  | skipEqual (x : Register) (byte : Nat)
  | skipUnequal (x : Register) (byte : Nat)
  | skipSame (x y : Register)
  | set (x : Register) (byte : Nat)
  | increase (x : Register) (byte : Nat)
  | arithmetic (operation : Alu) (x y : Register)
  | skipDifferent (x y : Register)
  | setIndex (target : Nat)
  | jumpFrom (base : Nat)
  | random (x : Register) (mask : Nat)
  | draw (x y : Register) (height : Nat)
  | skipPressed (x : Register)
  | skipReleased (x : Register)
  | readDelay (x : Register)
  | awaitKey (x : Register)
  | setDelay (x : Register)
  | setSound (x : Register)
  | increaseIndex (x : Register)
  | glyph (x : Register)
  | decimal (x : Register)
  | store (x : Register)
  | restore (x : Register)
  deriving DecidableEq, Repr

/-- The operation that the lowest four bits of a word of family 8 name. -/
def Alu.decode? : Nat → Option Alu
  | 0x0 => some .copy
  | 0x1 => some .or
  | 0x2 => some .and
  | 0x3 => some .xor
  | 0x4 => some .add
  | 0x5 => some .subtract
  | 0x6 => some .shiftRight
  | 0x7 => some .subtractFrom
  | 0xE => some .shiftLeft
  | _ => none

namespace Instruction

/-- The register named by four bits. -/
def operand (bits : Nat) : Register :=
  ⟨bits % 16, Nat.mod_lt bits (by decide)⟩

/-- The instruction that the lowest eight bits of a word of family F name. -/
def decodeMiscellaneous (x : Register) : Nat → Instruction
  | 0x07 => .readDelay x
  | 0x0A => .awaitKey x
  | 0x15 => .setDelay x
  | 0x18 => .setSound x
  | 0x1E => .increaseIndex x
  | 0x29 => .glyph x
  | 0x33 => .decimal x
  | 0x55 => .store x
  | 0x65 => .restore x
  | _ => .ignored

/-- The instruction that a word of sixteen bits names.  A longer word has no
family and is ignored. -/
def decodeWord (word : Nat) : Instruction :=
  let address := word % 0x1000
  let x := operand (word / 0x100)
  let y := operand (word / 0x10)
  let byte := word % 0x100
  let nibble := word % 0x10
  match word / 0x1000 with
  | 0x0 =>
      if word = 0x00E0 then .clearScreen
      else if word = 0x00EE then .ret
      else .ignored
  | 0x1 => .jump address
  | 0x2 => .call address
  | 0x3 => .skipEqual x byte
  | 0x4 => .skipUnequal x byte
  | 0x5 => .skipSame x y
  | 0x6 => .set x byte
  | 0x7 => .increase x byte
  | 0x8 =>
      match Alu.decode? nibble with
      | some operation => .arithmetic operation x y
      | none => .ignored
  | 0x9 => .skipDifferent x y
  | 0xA => .setIndex address
  | 0xB => .jumpFrom address
  | 0xC => .random x byte
  | 0xD => .draw x y nibble
  | 0xE =>
      if byte = 0x9E then .skipPressed x
      else if byte = 0xA1 then .skipReleased x
      else .ignored
  | 0xF => decodeMiscellaneous x byte
  | _ => .ignored

/-- The instruction that an integer names.  Negative numbers are no words, and
neither are numbers of more than sixteen bits. -/
def decode : Int → Instruction
  | .ofNat word => decodeWord word
  | .negSucc _ => .ignored

end Instruction

end Chip8

/-!
# Random bytes

An endless supply of random bytes.  The machine never looks ahead: it takes one
byte at a time, and the number of bytes taken is the whole state.
-/

namespace Chip8

/-- An endless supply of random bytes and the number of bytes taken from it. -/
structure RandomSource where
  stream : Nat → Nat
  position : Nat

namespace RandomSource

/-- The next random byte. -/
def byte (source : RandomSource) : Nat :=
  source.stream source.position % 256

/-- The source after its next byte was taken. -/
def advance (source : RandomSource) : RandomSource :=
  { source with position := source.position + 1 }

/-- Spread the bits of a number over the whole word. -/
def scramble (word : UInt64) : UInt64 :=
  let first := (word ^^^ (word >>> 30)) * 0xBF58476D1CE4E5B9
  let second := (first ^^^ (first >>> 27)) * 0x94D049BB133111EB
  second ^^^ (second >>> 31)

/-- The source that a seed leads to. -/
def ofSeed (seed : Nat) : RandomSource where
  stream := fun place =>
    let start := UInt64.ofNat place * 0x9E3779B97F4A7C15
    (scramble (UInt64.ofNat seed + start)).toNat
  position := 0

end RandomSource

end Chip8

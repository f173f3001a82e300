import Chip8.Datum.Equality

/-!
# Tones

A tone is given as a number of cycles per second.  Its phase at a time is the
number of half cycles until then, `2 · time · tone` divided by the rate.

The phase is a number of double precision, and how it is rounded depends on the
kind that the tones of a wave have in common:

* for signed words of 64 bits the product is such a word, too, and wraps around;
* with a binary fraction among the tones, or an unsigned word beyond the signed
  ones, every product is rounded to double precision;
* with a greater integer among them, the product of integers is exact.

A product with a binary fraction is rounded in any case.

Values that are no tones have kinds as well.  Beside a text, whatever counts as
a number is a text, and the common kind says how many symbols the widest takes.
-/

namespace Chip8

/-- What tones have in common. -/
inductive ToneKind where
  | truth
  | signed
  | unsigned
  | real
  | text (width : Nat)
  | mixed
  deriving DecidableEq, Repr

namespace ToneKind

/-- The kind of a number. -/
def ofNumber : Number → ToneKind
  | .real _ => .real
  | .integer value =>
      if -0x8000000000000000 ≤ value ∧ value < 0x8000000000000000 then .signed
      else if 0 ≤ value ∧ value < 0x10000000000000000 then .unsigned
      else .mixed

/-- The kind of a value. -/
def ofDatum : Datum → ToneKind
  | .boolean _ => .truth
  | .integer value => ofNumber (.integer value)
  | .real value => ofNumber (.real value)
  | .string written => .text (max 1 written.symbols.length)
  | _ => .mixed

/-- The number of symbols that values of a kind take beside a text. -/
def width : ToneKind → Nat
  | .truth => 5
  | .signed => 21
  | .unsigned => 20
  | .real => 32
  | .text width => width
  | .mixed => 0

/-- The kind that two kinds have in common. -/
def join : ToneKind → ToneKind → ToneKind
  | .mixed, _ => .mixed
  | _, .mixed => .mixed
  | .text width, other => .text (max width other.width)
  | other, .text width => .text (max other.width width)
  | .truth, other => other
  | other, .truth => other
  | .signed, .signed => .signed
  | .unsigned, .unsigned => .unsigned
  | _, _ => .real

/-- The kind that some kinds have in common, joined from the first one on. -/
def common : List ToneKind → ToneKind
  | [] => .real
  | first :: rest => rest.foldl join first

end ToneKind

namespace Number

/-- A phase that is rounded after each product. -/
def roundedPhase (rate : Nat) (tone : Binary64) (time : Nat) : Binary64 :=
  ((tone.times time).times 2).divideBy rate

/-- The number of half cycles of a tone until a time, beside tones of a kind. -/
def phase (kind : ToneKind) (rate : Nat) (tone : Number) (time : Nat) :
    Binary64 :=
  match tone with
  | .real tone => roundedPhase rate tone time
  | .integer tone =>
      let product : Int := time * tone * 2
      match kind with
      | .mixed => .ofRatio (product < 0) product.natAbs rate
      | .unsigned => roundedPhase rate (.ofInt tone) time
      | .real => roundedPhase rate (.ofInt tone) time
      | _ => (Binary64.ofInt (product.bmod 0x10000000000000000)).divideBy rate

end Number

end Chip8

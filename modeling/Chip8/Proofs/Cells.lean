import Mathlib.Data.Int.Bitwise
import Chip8.Proofs.Ranges
import Chip8.Proofs.Tables

/-!
# Memory around its end

Memory is an array whose addresses count modulo its size, however far outside
they lie and whatever was written before.

* the low bits of an integer are what remains of it modulo a power of two, also
  below zero (`land_mask`), so the low twelve bits of an address name its cell
  (`cell_eq_land`);
* `read_writeAll_of_last` and `read_writeAll_of_apart` say what is read after any
  number of writes, and `write_write_of_apart` that the order of writes to
  different cells does not matter;
* a range is read in pieces (`readRange_append`), as often around memory as it
  goes (`readRange_turns`);
* `memory_wraps_around` puts all of this together.
-/

namespace Chip8

/-! ## Low bits -/

/-- A number whose low bits are set has those low bits that another one lacks. -/
theorem ldiff_mask (number width : Nat) :
    Nat.ldiff (Nat.pow 2 width - 1) number =
      Nat.pow 2 width - (number % Nat.pow 2 width + 1) := by
  have remainder : number % Nat.pow 2 width < Nat.pow 2 width :=
    Nat.mod_lt number (Nat.pow_pos (by decide))
  apply Nat.eq_of_testBit_eq
  intro place
  rw [Nat.testBit_ldiff]
  simp only [Nat.pow_eq] at remainder ⊢
  rw [Nat.testBit_two_pow_sub_one, Nat.testBit_two_pow_sub_succ remainder,
    Nat.testBit_mod_two_pow]
  by_cases low : place < width
  · simp only [low, decide_true, Bool.true_and]
  · simp only [low, decide_false, Bool.false_and]

/-- The low bits of an integer, read as in two's complement, are what remains of
it modulo their power of two. -/
theorem land_mask (value : Int) (width : Nat) :
    Int.land value ((Nat.pow 2 width - 1 : Nat) : Int) =
      value % ((Nat.pow 2 width : Nat) : Int) := by
  have positive : 0 < Nat.pow 2 width := Nat.pow_pos (by decide)
  cases value with
  | ofNat number =>
      change ((number &&& (Nat.pow 2 width - 1) : Nat) : Int) = _
      rw [Nat.pow_eq, Nat.and_two_pow_sub_one_eq_mod]
      rfl
  | negSucc number =>
      change ((Nat.ldiff (Nat.pow 2 width - 1) number : Nat) : Int) = _
      have remainder : number % Nat.pow 2 width < Nat.pow 2 width :=
        Nat.mod_lt number positive
      rw [ldiff_mask, Int.negSucc_emod number (by omega), ← Int.natCast_emod]
      omega

/-- The low twelve bits of an address name its cell. -/
theorem cell_eq_land (address : Int) :
    ((cell address).val : Int) = Int.land address 0xFFF := by
  have masked := land_mask address 12
  simp only [cell, memorySize]
  refine Eq.trans ?_ masked.symm
  change ((address % 4096).toNat : Int) = address % 4096
  omega

namespace Processor

variable (processor : Processor)

/-! ## Writing -/

/-- The processor after some writes in order, each to an address and of a
value. -/
def writeAll (writes : List (Int × Int)) : Processor :=
  writes.foldl (fun current write => current.write write.1 write.2) processor

theorem writeAll_cons (write : Int × Int) (rest : List (Int × Int)) :
    processor.writeAll (write :: rest) =
      (processor.write write.1 write.2).writeAll rest := rfl

theorem writeAll_append (earlier later : List (Int × Int)) :
    processor.writeAll (earlier ++ later) =
      (processor.writeAll earlier).writeAll later :=
  List.foldl_append

theorem read_write_of_same
    {written tested : Int} (same : written % memorySize = tested % memorySize)
    (value : Int) :
    ((processor.write written value).read tested : Int) = value % 256 := by
  rw [read_write, if_pos ((cell_eq_cell_iff written tested).mpr same)]
  omega

theorem read_write_of_apart
    {written tested : Int} (apart : written % memorySize ≠ tested % memorySize)
    (value : Int) :
    (processor.write written value).read tested = processor.read tested := by
  rw [read_write, if_neg (mt (cell_eq_cell_iff written tested).mp apart)]

/-- A cell keeps its byte while other cells are written. -/
theorem read_writeAll_of_apart
    {writes : List (Int × Int)} {address : Int}
    (apart : ∀ write ∈ writes, write.1 % memorySize ≠ address % memorySize) :
    (processor.writeAll writes).read address = processor.read address := by
  induction writes generalizing processor with
  | nil =>
      rfl
  | cons write rest inductionHypothesis =>
      obtain ⟨first, later⟩ := List.forall_mem_cons.mp apart
      rw [writeAll_cons, inductionHypothesis _ later,
        read_write_of_apart processor first]

/-- The last write to a cell decides what is read from it. -/
theorem read_writeAll_of_last
    {writes : List (Int × Int)} {address : Int} {write : Int × Int}
    (last : IsLast (fun write => write.1 % memorySize = address % memorySize)
      writes write) :
    ((processor.writeAll writes).read address : Int) = write.2 % 256 := by
  obtain ⟨earlier, later, rfl, same, apart⟩ := last
  rw [writeAll_append, writeAll_cons, read_writeAll_of_apart _ apart,
    read_write_of_same _ same]

/-- Writes to different cells may change places. -/
theorem write_write_of_apart
    {first second : Int} (apart : first % memorySize ≠ second % memorySize)
    (earlier later : Int) :
    (processor.write first earlier).write second later =
      (processor.write second later).write first earlier := by
  have differ : (cell first).val ≠ (cell second).val := by
    intro same
    exact apart ((cell_eq_cell_iff first second).mp (Fin.ext same))
  simp only [write]
  rw [Vector.set_comm _ _ differ]

/-- Writing changes nothing but memory. -/
theorem writeAll_eq (writes : List (Int × Int)) :
    processor.writeAll writes =
      { processor with memory := (processor.writeAll writes).memory } := by
  induction writes generalizing processor with
  | nil =>
      rfl
  | cons write rest inductionHypothesis =>
      exact inductionHypothesis (processor.write write.1 write.2)

theorem WellFormed.writeAll
    {processor : Processor} (wellFormed : processor.WellFormed)
    (writes : List (Int × Int)) : (processor.writeAll writes).WellFormed := by
  induction writes generalizing processor with
  | nil =>
      exact wellFormed
  | cons write rest inductionHypothesis =>
      exact inductionHypothesis (wellFormed.write write.1 write.2)

/-! ## Reading ranges -/

theorem read_of_same
    {first second : Int} (same : first % memorySize = second % memorySize) :
    processor.read first = processor.read second := by
  simp only [read, (cell_eq_cell_iff first second).mpr same]

theorem getElem?_readRange
    (address : Int) {length : Int} {place : Nat} (inside : place < length.toNat) :
    (processor.readRange address length)[place]? =
      some (processor.read (address + place)) := by
  simp only [readRange, List.getElem?_map, List.getElem?_range inside,
    Option.map_some]

theorem readRange_of_nonpos (address : Int) {length : Int} (empty : length ≤ 0) :
    processor.readRange address length = [] := by
  apply List.eq_nil_of_length_eq_zero
  rw [length_readRange]
  omega

/-- A range may be read in two pieces. -/
theorem readRange_append
    {first second : Int} (address : Int) (before : 0 ≤ first)
    (after : 0 ≤ second) :
    processor.readRange address (first + second) =
      processor.readRange address first ++
        processor.readRange (address + first) second := by
  obtain ⟨first, rfl⟩ := Int.eq_ofNat_of_zero_le before
  obtain ⟨second, rfl⟩ := Int.eq_ofNat_of_zero_le after
  have total : ((first : Int) + second).toNat = first + second := by omega
  simp only [readRange, total, Int.toNat_natCast, List.range_add,
    List.map_append, List.map_map, Function.comp_def, Int.natCast_add,
    Int.add_assoc]

/-- Ranges from congruent addresses are the same. -/
theorem readRange_of_same
    {first second : Int} (same : first % memorySize = second % memorySize)
    (length : Int) :
    processor.readRange first length = processor.readRange second length := by
  simp only [readRange]
  apply List.map_congr_left
  intro offset _
  apply read_of_same
  rw [Int.add_emod, same, ← Int.add_emod]

/-- A range that goes around memory shows all of it with each turn. -/
theorem readRange_turns
    (address : Int) (turns : Nat) {length : Int} (onwards : 0 ≤ length) :
    processor.readRange address (memorySize * turns + length) =
      (List.replicate turns (processor.readRange address memorySize)).flatten ++
        processor.readRange address length := by
  induction turns with
  | zero =>
      simp
  | succ turns inductionHypothesis =>
      have split : (memorySize : Int) * (turns + 1 : Nat) + length =
          memorySize + (memorySize * turns + length) := by
        unfold memorySize
        omega
      have again : (address + memorySize) % memorySize = address % memorySize :=
        Int.add_emod_right address memorySize
      rw [split, readRange_append processor address (by unfold memorySize; omega)
          (by unfold memorySize; omega),
        readRange_of_same processor again, inductionHypothesis,
        List.replicate_succ, List.flatten_cons, List.append_assoc]

/-! ## Memory as a whole -/

/-- Memory after any number of writes to any addresses and of any values.  An
address names the cell of its low twelve bits, and of a value the low eight bits
are stored, as they are in two's complement.  The last write to a congruent address
decides what is read, or else the byte that was there before; nothing but memory
changes, bytes stay bytes, and writes to addresses that are not congruent commute.
A range holds what is read at one address after the other, and nothing if its
length is not positive; it may be read in two pieces, and goes around memory as
often as its length says. -/
theorem memory_wraps_around (writes : List (Int × Int)) (address : Int) :
    let after := processor.writeAll writes
    (((cell address).val : Int) = Int.land address 0xFFF ∧
        ∀ value : Int, ((after.write address value).read address : Int) =
          Int.land value 0xFF) ∧
      (∀ write, IsLast (fun write => write.1 % 4096 = address % 4096)
          writes write →
        (after.read address : Int) = write.2 % 256) ∧
      ((∀ write ∈ writes, write.1 % 4096 ≠ address % 4096) →
        after.read address = processor.read address) ∧
      (after = { processor with memory := after.memory } ∧
        (processor.WellFormed → after.WellFormed)) ∧
      (∀ other value otherValue : Int, address % 4096 ≠ other % 4096 →
        (after.write address value).write other otherValue =
          (after.write other otherValue).write address value) ∧
      (∀ length : Int,
        (after.readRange address length).length = length.toNat ∧
          (∀ place < length.toNat, (after.readRange address length)[place]? =
            some (after.read (address + place))) ∧
          (length ≤ 0 → after.readRange address length = [])) ∧
      (∀ first second : Int, 0 ≤ first → 0 ≤ second →
        after.readRange address (first + second) =
          after.readRange address first ++
            after.readRange (address + first) second) ∧
      ∀ (turns : Nat) (length : Int), 0 ≤ length →
        after.readRange address (4096 * turns + length) =
          (List.replicate turns (after.readRange address 4096)).flatten ++
            after.readRange address length := by
  intro after
  refine ⟨⟨cell_eq_land address, ?stored⟩, ?last, ?none,
    ⟨processor.writeAll_eq writes, fun wellFormed => wellFormed.writeAll writes⟩,
    ?commute, ?range, ?pieces, ?turns⟩
  case stored =>
    intro value
    rw [read_write_of_same after rfl]
    exact (land_mask value 8).symm
  case last =>
    intro write last
    exact processor.read_writeAll_of_last last
  case none =>
    intro apart
    exact processor.read_writeAll_of_apart apart
  case commute =>
    intro other value otherValue apart
    exact after.write_write_of_apart apart value otherValue
  case range =>
    intro length
    exact ⟨after.length_readRange address length,
      fun place inside => after.getElem?_readRange address inside,
      after.readRange_of_nonpos address⟩
  case pieces =>
    intro first second before later
    exact after.readRange_append address before later
  case turns =>
    intro turns length onwards
    exact after.readRange_turns address turns onwards

/-- Two writes to the last cell of memory under different names, and one far
outside to another cell: what is read of the last cell, of the first one, which is
not written, and in two turns around memory from the last cell on. -/
theorem memory_wraps_around_carousel :
    let writes : List (Int × Int) :=
      [(0x1FFF, 300), (-1, -2), (0x400000000000000005, 7)]
    let after := fresh.writeAll writes
    IsLast (fun write => write.1 % 4096 = -4097 % 4096) writes (-1, -2) ∧
      (after.read (-4097) : Int) = 254 ∧
      (∀ write ∈ writes, write.1 % 4096 ≠ 0 % 4096) ∧
      after.read 0 = 0xF0 ∧
      (fresh.WellFormed ∧ after.WellFormed) ∧
      (after.write (-4097) 1).write 0 2 = (after.write 0 2).write (-4097) 1 ∧
      after.readRange (-4097) (-1) = [] ∧
      after.readRange (-4097) (1 + 8192) =
        after.readRange (-4097) 1 ++ after.readRange (-4096) 8192 ∧
      after.readRange (-4097) (4096 * 2 + 1) =
        after.readRange (-4097) 4096 ++ after.readRange (-4097) 4096 ++
          after.readRange (-4097) 1 := by
  intro writes after
  have last : IsLast (fun write => write.1 % 4096 = -4097 % 4096) writes
      (-1, -2) :=
    ⟨[(0x1FFF, 300)], [(0x400000000000000005, 7)], rfl, by decide, by decide⟩
  have apart : ∀ write ∈ writes, write.1 % 4096 ≠ 0 % 4096 := by decide
  have wellFormed : fresh.WellFormed := .starting Memory.HoldsBytes.fresh
  obtain ⟨-, isLast, -, ⟨-, stays⟩, commute, range, pieces, turns⟩ :=
    memory_wraps_around fresh writes (-4097)
  obtain ⟨-, -, isOld, -⟩ := memory_wraps_around fresh writes 0
  refine ⟨last, isLast _ last, apart, (isOld apart).trans (by decide +kernel),
    ⟨wellFormed, stays wellFormed⟩, commute 0 1 2 (by decide),
    (range (-1)).2.2 (by decide), pieces 1 8192 (by decide) (by decide), ?_⟩
  have around := turns 2 1 (by decide)
  simp only [List.replicate_succ, List.replicate_zero, List.flatten_cons,
    List.flatten_nil, List.append_nil] at around
  exact around

end Processor

end Chip8

import Chip8.Proofs.Coverage
import Chip8.Proofs.Parts

/-!
# Sprites in memory

The instruction that draws takes a sprite from memory and puts it on the screen
at the coordinates in two registers.  Memory, columns and rows wrap around.

* On a screen that is at least as wide as a sprite row and at least as high as
  the sprite, no pixel is covered twice: `coverage_of_fits` names the one bit that
  a pixel may be covered by;
* then a lit pixel was switched off exactly if one is dark afterwards
  (`erased_draw_iff_dark`);
* `draw_of_memory` says what the instruction leaves behind, pixel by pixel and
  register by register.
-/

namespace Chip8

/-! ## Sprites that fit -/

/-- On a ring, a position is at one distance from a start only. -/
theorem add_emod_eq_iff
    {length offset position : Nat} (start : Int)
    (short : offset < length) (inside : position < length) :
    (start + offset) % length = position ↔
      (offset : Int) = (position - start) % length := by
  constructor
  · intro reached
    rw [← reached, Int.emod_sub_emod, add_sub_cancel_left,
      Int.emod_eq_of_lt (by omega) (by omega)]
  · intro distance
    rw [distance, Int.add_emod_emod, add_sub_cancel,
      Int.emod_eq_of_lt (by omega) (by omega)]

namespace Screen

variable {width height : Nat}

/-- A sprite that fits on the screen covers a pixel at most once: by the bit whose
distance from the corner of the sprite is that of the pixel. -/
theorem coverage_of_fits
    {sprite : List Int} {column row : Nat} (x y : Int)
    (wide : 8 ≤ width) (high : sprite.length ≤ height)
    (beside : column < width) (below : row < height) :
    let across := ((column - x) % width).toNat
    let down := ((row - y) % height).toNat
    coverage width height sprite x y column row =
      if across < 8 ∧ down < sprite.length ∧
          (sprite.getD down 0).testBit (7 - across) = true
      then 1 else 0 := by
  intro across down
  have acrossEq : (across : Int) = (column - x) % width :=
    Int.toNat_of_nonneg (Int.emod_nonneg _ (by omega))
  have downEq : (down : Int) = (row - y) % height :=
    Int.toNat_of_nonneg (Int.emod_nonneg _ (by omega))
  have only (spot : Nat × Nat) :
      spot ∈ covering width height sprite x y column row ↔
        spot = (down, across) ∧ across < 8 ∧ down < sprite.length ∧
          (sprite.getD down 0).testBit (7 - across) = true := by
    obtain ⟨spotDown, spotAcross⟩ := spot
    simp only [covering, Finset.mem_filter, Finset.mem_product,
      Finset.mem_range, Prod.mk.injEq]
    constructor
    · rintro ⟨⟨inSprite, inRow⟩, set, isColumn, isRow⟩
      rw [add_emod_eq_iff x (by omega) beside, ← acrossEq, Int.natCast_inj]
        at isColumn
      rw [add_emod_eq_iff y (by omega) below, ← downEq, Int.natCast_inj]
        at isRow
      subst isColumn isRow
      exact ⟨⟨rfl, rfl⟩, inRow, inSprite, set⟩
    · rintro ⟨⟨rfl, rfl⟩, inRow, inSprite, set⟩
      refine ⟨⟨inSprite, inRow⟩, set, ?_, ?_⟩
      · exact (add_emod_eq_iff x (by omega) beside).mpr acrossEq
      · exact (add_emod_eq_iff y (by omega) below).mpr downEq
  unfold coverage
  split
  · next set =>
      have alone :
          covering width height sprite x y column row = {(down, across)} := by
        ext spot
        rw [only, Finset.mem_singleton, and_iff_left set]
      rw [alone, Finset.card_singleton]
  · next unset =>
      refine Finset.card_eq_zero.mpr (Finset.eq_empty_iff_forall_notMem.mpr ?_)
      exact fun spot member => unset ((only spot).mp member).2

/-- A sprite that fits on the screen turns over the pixels under its set bits. -/
theorem Sized.isLit_draw_of_fits
    {screen : Screen} (sized : screen.Sized width height)
    {sprite : List Int} {column row : Nat} (x y : Int)
    (wide : 8 ≤ width) (high : sprite.length ≤ height)
    (beside : column < width) (below : row < height) :
    let across := ((column - x) % width).toNat
    let down := ((row - y) % height).toNat
    (screen.draw sprite x y).screen.isLit column row =
      if across < 8 ∧ down < sprite.length then
        screen.isLit column row ^^ (sprite.getD down 0).testBit (7 - across)
      else screen.isLit column row := by
  intro across down
  have covered := coverage_of_fits x y wide high beside below
  rw [sized.isLit_draw sprite x y beside below, covered]
  by_cases inside : across < 8 ∧ down < sprite.length
  · rw [if_pos inside]
    cases (sprite.getD down 0).testBit (7 - across) with
    | true => rw [if_pos ⟨inside.1, inside.2, rfl⟩]; rfl
    | false => rw [if_neg fun set => Bool.false_ne_true set.2.2]; rfl
  · rw [if_neg inside, if_neg fun set => inside ⟨set.1, set.2.1⟩]
    exact Bool.xor_false _

/-- A drawing that covers no pixel twice has switched a lit pixel off exactly if
one that was lit before is dark afterwards. -/
theorem Sized.erased_draw_iff_dark
    {screen : Screen} (sized : screen.Sized width height)
    {sprite : List Int} {x y : Int}
    (once : ∀ column row, column < width → row < height →
      coverage width height sprite x y column row ≤ 1) :
    (screen.draw sprite x y).erased = true ↔
      ∃ column row, column < width ∧ row < height ∧
        screen.isLit column row = true ∧
          (screen.draw sprite x y).screen.isLit column row = false := by
  rw [sized.erased_draw]
  refine exists_congr fun column => exists_congr fun row => ?_
  refine and_congr_right fun beside => and_congr_right fun below => ?_
  have atMost := once column row beside below
  rw [sized.isLit_draw sprite x y beside below]
  generalize coverage width height sprite x y column row = times at atMost ⊢
  cases screen.isLit column row <;> simp <;> omega

end Screen

/-! ## The instruction -/

namespace Processor

variable (processor : Processor)

/-- A byte of memory is found at its address modulo the memory size. -/
theorem read_eq_getD (address : Int) :
    processor.read address =
      processor.memory.toArray.getD (address % 4096).toNat 0 := by
  have inside : (address % 4096).toNat < processor.memory.toArray.size :=
    processor.memory.size_toArray.symm ▸ (cell address).isLt
  rw [Array.getD_eq_getD_getElem?, Array.getElem?_eq_getElem inside]
  rfl

/-- The rows of a sprite are the bytes from the index on. -/
theorem getD_sprite
    {rows down : Nat} (inside : down < rows) (index : Int) :
    ((processor.readRange index rows).map Int.ofNat).getD down 0 =
      processor.read (index + down) := by
  have listed : down < (processor.readRange index rows).length := by
    rw [length_readRange, Int.toNat_natCast]
    exact inside
  rw [List.getD_eq_getElem _ _ (by rwa [List.length_map]), List.getElem_map]
  simp [readRange]

end Processor

namespace Machine

theorem executeWord_draw (machine : Machine) (x y : Register) (rows : Fin 16) :
    machine.executeWord
        ((0xD000 + 0x100 * x.val + 0x10 * y.val + rows.val : Nat) : Int) =
      machine.drawSprite x y rows.val := by
  rw [executeWord_of_spells _ (.draw x y rows)]
  rfl

/-- Drawing a sprite from memory on a screen that it fits on.  A pixel whose
distance from the corner lies in the sprite is turned over if the bit there is
set, and all other pixels stay.  The flag register tells whether a pixel that was
lit is dark now, also if it held a coordinate before; memory, index and the other
registers stay as they are. -/
theorem draw_of_memory
    {machine : Machine} {width height : Nat}
    (sized : machine.screen.Sized width height)
    (wide : 8 ≤ width) (high : 15 ≤ height) (x y : Register) (rows : Fin 16) :
    let word : Nat := 0xD000 + 0x100 * x.val + 0x10 * y.val + rows.val
    let outcome := machine.executeWord word
    let before := machine.processor
    let after := outcome.machine.processor
    let drawn := outcome.machine.screen
    let wentDark : Prop := ∃ column row, column < width ∧ row < height ∧
      machine.screen.isLit column row = true ∧ drawn.isLit column row = false
    outcome.result = .ok () ∧ drawn.Sized width height ∧
      (∀ column row, column < width → row < height →
        let across := (((column : Int) - before.register x) % width).toNat
        let down := (((row : Int) - before.register y) % height).toNat
        let line := before.memory.toArray.getD
          ((before.index + down) % 4096).toNat 0
        drawn.isLit column row =
          if across < 8 ∧ down < rows.val then
            machine.screen.isLit column row ^^ line.testBit (7 - across)
          else machine.screen.isLit column row) ∧
      (wentDark → after.register 15 = 1) ∧
      (¬ wentDark → after.register 15 = 0) ∧
      after.memory = before.memory ∧ after.index = before.index ∧
      ∀ number : Register, number ≠ 15 →
        after.register number = before.register number := by
  intro word outcome before after drawn wentDark
  let sprite := (before.readRange before.index rows.val).map Int.ofNat
  let drawing :=
    machine.screen.draw sprite (before.register x) (before.register y)
  have length : sprite.length = rows.val := by
    simp [sprite]
  have executed : outcome = machine.drawSprite x y rows.val :=
    machine.executeWord_draw x y rows
  have isDrawing : drawn = drawing.screen := by
    simp only [drawn, executed]
    rfl
  have flagged : after =
      before.setRegister Processor.flagRegister
        (if drawing.erased then 1 else 0) := by
    simp only [after, executed]
    rfl
  have fits : sprite.length ≤ height := by omega
  have once (column row : Nat) (beside : column < width) (below : row < height) :
      Screen.coverage width height sprite (before.register x) (before.register y)
        column row ≤ 1 := by
    rw [Screen.coverage_of_fits _ _ wide fits beside below]
    split <;> decide
  have dark : drawing.erased = true ↔ wentDark := by
    simp only [wentDark, isDrawing]
    exact sized.erased_draw_iff_dark once
  refine ⟨by rw [executed]; rfl, isDrawing ▸ sized.draw _ _ _, ?_, ?_, ?_,
    by rw [flagged]; rfl, by rw [flagged]; rfl, ?_⟩
  · intro column row beside below across down line
    rw [isDrawing, sized.isLit_draw_of_fits _ _ wide fits beside below, length]
    refine ite_congr rfl (fun inside => ?_) fun _ => rfl
    rw [before.getD_sprite inside.2, before.read_eq_getD]
    rfl
  · intro went
    rw [flagged, dark.mpr went]
    exact before.register_setRegister _ _ _
  · intro stayed
    rw [flagged, Bool.eq_false_iff.mpr fun erased => stayed (dark.mp erased)]
    exact before.register_setRegister _ _ _
  · intro number different
    rw [flagged]
    exact before.register_setRegister_of_ne different _

/-- A machine whose flag register holds a column, with a sprite that begins in the
last memory cell and goes on in the first, and one pixel lit. -/
def stencil : Machine where
  processor :=
    { ((Processor.starting (Vector.replicate memorySize 0)).write (-1) 0xC1).write
        0 0x80 with
      registers := ((Vector.replicate 16 0).set 15 250).set 1 30
      index := 0xFFFF }
  screen := ⟨8, 15, (Array.replicate 120 false).setIfInBounds 2 true, false⟩
  random := .ofSeed 0
  speed := 1

/-- The sprite goes around the edge on the right, and switches the pixel off. -/
theorem draw_of_memory_stencil :
    let outcome := stencil.executeWord 0xDF12
    stencil.screen.Sized 8 15 ∧ outcome.result = .ok () ∧
      stencil.screen.isLit 2 0 = true ∧
      outcome.machine.screen.isLit 2 0 = false ∧
      outcome.machine.screen.isLit 1 0 = true ∧
      outcome.machine.screen.isLit 2 1 = true ∧
      outcome.machine.processor.register 15 = 1 ∧
      outcome.machine.processor.register 1 = 30 := by
  intro outcome
  have sized : stencil.screen.Sized 8 15 :=
    ⟨rfl, rfl, by decide, by decide, by simp [stencil]⟩
  obtain ⟨result, -, pixels, dark, -, -, -, others⟩ :=
    draw_of_memory sized (by decide) (by decide) 15 1 2
  have corner : outcome.machine.screen.isLit 2 0 = false :=
    (pixels 2 0 (by decide) (by decide)).trans (by decide +kernel)
  have around : outcome.machine.screen.isLit 1 0 = true :=
    (pixels 1 0 (by decide) (by decide)).trans (by decide +kernel)
  have below : outcome.machine.screen.isLit 2 1 = true :=
    (pixels 2 1 (by decide) (by decide)).trans (by decide +kernel)
  exact ⟨sized, result, by decide +kernel, corner, around, below,
    dark ⟨2, 0, by decide, by decide, by decide +kernel, corner⟩,
    others 1 (by decide)⟩

end Machine

end Chip8

import Mathlib.Algebra.BigOperators.Intervals
import Mathlib.Data.Int.Bitwise
import Chip8.Proofs.Pixels

/-!
# How often a sprite covers a pixel

A sprite that is wider or taller than the picture meets itself again, so one
pixel may be under several of its bits.

* `coverage` counts the set bits of a sprite that fall on a pixel, and
  `count_hits` says that a drawing turns the pixel over as often;
* `Blit.isLit_foldl_toggle` and `Blit.erased_foldl_toggle` say what turning over
  some pixels, the same ones several times perhaps, comes to;
* `draw_covered` puts both together: the parity of the count decides about a
  pixel, and a lit pixel was switched off if one was covered that was lit before
  or is covered twice.
-/

namespace Chip8

namespace Screen

/-! ## Counting bits -/

/-- The rows of a sprite and the columns of eight whose bits are set and fall on a
pixel, if the corner of the sprite is at `x` and `y` of a grid that wraps
around. -/
def covering (width height : Nat) (sprite : List Int) (x y : Int)
    (column row : Nat) : Finset (Nat × Nat) :=
  (Finset.range sprite.length ×ˢ Finset.range 8).filter fun spot =>
    (sprite.getD spot.1 0).testBit (7 - spot.2) = true ∧
      (x + spot.2) % width = column ∧ (y + spot.1) % height = row

/-- The number of set bits of a sprite that fall on a pixel. -/
def coverage (width height : Nat) (sprite : List Int) (x y : Int)
    (column row : Nat) : Nat :=
  (covering width height sprite x y column row).card

/-- The columns of a sprite row are its lowest eight bits, read as in two's
complement. -/
theorem bit_eq_testBit (line : Int) (column : Nat) :
    bit line column = line.testBit (7 - column) := by
  unfold bit
  generalize 7 - column = place
  have positive : (0 : Int) < Nat.pow 2 place :=
    Int.natCast_pos.mpr (Nat.pow_pos (by decide))
  cases line with
  | ofNat number =>
      rw [Int.testBit, Nat.testBit_eq_decide_div_mod_eq]
      simp only [Int.ofNat_eq_natCast, ← Nat.pow_eq]
      apply decide_eq_decide.mpr
      norm_cast
  | negSucc number =>
      -- A negative number has the opposite bits of its predecessor's opposite.
      rw [Int.testBit, Nat.testBit_eq_decide_div_mod_eq,
        Int.negSucc_ediv number positive, ← decide_not]
      apply decide_eq_decide.mpr
      change -((number : Int) / (Nat.pow 2 place : Nat) + 1) % 2 = 1 ↔ _
      rw [Nat.pow_eq, ← Int.natCast_ediv]
      omega

variable {width height : Nat} {screen : Screen}

theorem hits_eq (screen : Screen) (sprite : List Int) (x y : Int) :
    screen.hits sprite x y =
      (List.range sprite.length).flatMap fun down =>
        (setColumns (sprite.getD down 0)).map fun across : Nat =>
          screen.wrap (x + across) (y + down) := by
  have numbered : sprite.zipIdx =
      (List.range sprite.length).map fun down => (sprite.getD down 0, down) := by
    apply List.ext_getElem
    · simp
    · intro down bound _
      rw [List.length_zipIdx] at bound
      simp [bound]
  rw [hits, numbered, List.flatMap_map]

theorem Sized.wrap_eq_iff
    (sized : screen.Sized width height) (x y : Int) (column row : Nat) :
    screen.wrap x y = (column, row) ↔
      x % width = column ∧ y % height = row := by
  have wide := sized.width_pos
  have high := sized.height_pos
  have across : 0 ≤ x % width := Int.emod_nonneg x (by omega)
  have down : 0 ≤ y % height := Int.emod_nonneg y (by omega)
  rw [wrap, sized.width_eq, sized.height_eq, Prod.mk.injEq]
  omega

/-- A drawing turns a pixel over once for every set bit that falls on it. -/
theorem Sized.count_hits
    (sized : screen.Sized width height) (sprite : List Int) (x y : Int)
    (column row : Nat) :
    (screen.hits sprite x y).count (column, row) =
      coverage width height sprite x y column row := by
  have inOneRow (down : Nat) :
      ((setColumns (sprite.getD down 0)).map fun across : Nat =>
          screen.wrap (x + across) (y + down)).count (column, row) =
        ∑ across ∈ Finset.range 8,
          if (sprite.getD down 0).testBit (7 - across) = true ∧
            (x + across) % width = column ∧ (y + down) % height = row
          then 1 else 0 := by
    rw [← Finset.card_filter, List.count, List.countP_map, setColumns,
      List.countP_filter, List.countP_eq_length_filter]
    change _ = ((List.range 8).filter _).length
    congr 2
    funext across
    simp only [Function.comp_apply, bit_eq_testBit, ← sized.wrap_eq_iff,
      Bool.decide_and, Bool.decide_eq_true, beq_eq_decide, Bool.and_comm]
  rw [hits_eq, List.count_flatMap, coverage, covering, Finset.card_filter,
    Finset.sum_product]
  simp only [Function.comp_def, inOneRow]
  rfl

/-! ## Turning pixels over -/

/-- Whether a pixel is lit so far. -/
def Blit.isLit (width : Nat) (blit : Blit) (spot : Nat × Nat) : Bool :=
  blit.pixels.getD (place width spot.1 spot.2) false

namespace Blit

variable {blit : Blit} {spot tested : Nat × Nat} {spots : List (Nat × Nat)}

/-- Only the pixel that is turned over changes. -/
theorem isLit_toggle
    (size : blit.pixels.size = width * height)
    (spotInside : spot.1 < width ∧ spot.2 < height)
    (testedInside : tested.1 < width ∧ tested.2 < height) :
    (blit.toggle width spot).isLit width tested =
      (blit.isLit width tested ^^ decide (spot = tested)) := by
  have listed : place width spot.1 spot.2 < blit.pixels.size :=
    size ▸ place_lt spotInside.1 spotInside.2
  have same : place width spot.1 spot.2 = place width tested.1 tested.2 ↔
      spot = tested := by
    rw [eq_place_iff spotInside.1, place_mod testedInside.1,
      place_div testedInside.1, ← Prod.ext_iff]
  simp only [isLit, toggle, Array.getD_eq_getD_getElem?,
    Array.getElem?_setIfInBounds, same, listed, if_true]
  by_cases here : spot = tested
  · simp [here]
  · simp [here]

/-- Turning over some pixels leaves each of them at the parity of the number of
times. -/
theorem isLit_foldl_toggle
    (size : blit.pixels.size = width * height)
    (inside : ∀ spot ∈ spots, spot.1 < width ∧ spot.2 < height)
    (testedInside : tested.1 < width ∧ tested.2 < height) :
    (spots.foldl (toggle width) blit).isLit width tested =
      (blit.isLit width tested ^^ decide (spots.count tested % 2 = 1)) := by
  induction spots generalizing blit with
  | nil =>
      simp
  | cons spot rest inductionHypothesis =>
      obtain ⟨spotInside, restInside⟩ := List.forall_mem_cons.mp inside
      rw [List.foldl_cons,
        inductionHypothesis (by rw [size_toggle, size]) restInside,
        isLit_toggle size spotInside testedInside, List.count_cons,
        Bool.xor_assoc]
      congr 1
      by_cases here : spot = tested
      · simp only [here, beq_self_eq_true, if_true, decide_true, Bool.true_xor,
          ← decide_not]
        apply decide_eq_decide.mpr
        omega
      · simp [here]

/-- A lit pixel was switched off if one was turned over that was lit before, or
that was turned over twice. -/
theorem erased_foldl_toggle
    (size : blit.pixels.size = width * height)
    (inside : ∀ spot ∈ spots, spot.1 < width ∧ spot.2 < height) :
    (spots.foldl (toggle width) blit).erased = true ↔
      blit.erased = true ∨
        ∃ tested ∈ spots,
          blit.isLit width tested = true ∨ 2 ≤ spots.count tested := by
  induction spots generalizing blit with
  | nil =>
      simp
  | cons spot rest inductionHypothesis =>
      obtain ⟨spotInside, restInside⟩ := List.forall_mem_cons.mp inside
      have next : (blit.toggle width spot).erased = true ↔
          blit.erased = true ∨ blit.isLit width spot = true :=
        Bool.or_eq_true_iff
      rw [List.foldl_cons,
        inductionHypothesis (by rw [size_toggle, size]) restInside, next,
        or_assoc]
      refine or_congr_right ?_
      constructor
      · rintro (lit | ⟨tested, member, later⟩)
        · exact ⟨spot, List.mem_cons_self, .inl lit⟩
        · refine ⟨tested, List.mem_cons_of_mem spot member, ?_⟩
          rw [isLit_toggle size spotInside (restInside tested member)] at later
          rw [List.count_cons]
          by_cases here : spot = tested
          · have again := List.count_pos_iff.mpr member
            simp only [here, beq_self_eq_true, if_true]
            omega
          · simpa [here] using later
      · rintro ⟨tested, member, lit | twice⟩
        · by_cases here : spot = tested
          · exact .inl (here ▸ lit)
          · have later := (List.mem_cons.mp member).resolve_left (Ne.symm here)
            refine .inr ⟨tested, later, .inl ?_⟩
            rw [isLit_toggle size spotInside (restInside tested later)]
            simp [here, lit]
        · rw [List.count_cons] at twice
          by_cases here : spot = tested
          · -- Turned over for the second time, it is lit from the first one.
            subst here
            simp only [beq_self_eq_true, if_true] at twice
            have again : spot ∈ rest := List.count_pos_iff.mp (by omega)
            cases lit : blit.isLit width spot with
            | true => exact .inl rfl
            | false =>
                refine .inr ⟨spot, again, .inl ?_⟩
                rw [isLit_toggle size spotInside spotInside, lit]
                simp
          · have later := (List.mem_cons.mp member).resolve_left (Ne.symm here)
            refine .inr ⟨tested, later, .inr ?_⟩
            simpa [here] using twice

end Blit

/-! ## Drawing -/

namespace Sized

variable {column row : Nat}

/-- What is shown at the column and the row of a pixel. -/
theorem isLit_eq
    (sized : screen.Sized width height)
    (beside : column < width) (below : row < height) :
    screen.isLit column row =
      screen.pixels.getD (place width column row) false := by
  simp only [isLit, wrap, sized.width_eq, sized.height_eq, ← Int.natCast_emod,
    Int.toNat_natCast, Nat.mod_eq_of_lt beside, Nat.mod_eq_of_lt below]

theorem blit_eq
    (sized : screen.Sized width height) (sprite : List Int) (x y : Int) :
    screen.blit sprite x y =
      (screen.hits sprite x y).foldl (Blit.toggle width)
        ⟨screen.pixels, false, []⟩ := by
  rw [blit, sized.width_eq]

theorem isLit_draw
    (sized : screen.Sized width height) (sprite : List Int) (x y : Int)
    (beside : column < width) (below : row < height) :
    (screen.draw sprite x y).screen.isLit column row =
      (screen.isLit column row ^^
        decide (coverage width height sprite x y column row % 2 = 1)) := by
  rw [(sized.draw sprite x y).isLit_eq beside below,
    sized.isLit_eq beside below, ← sized.count_hits]
  change (screen.blit sprite x y).isLit width (column, row) = _
  rw [sized.blit_eq]
  exact Blit.isLit_foldl_toggle sized.size_eq
    (fun _ member => sized.hits_inside member) ⟨beside, below⟩

theorem erased_draw
    (sized : screen.Sized width height) (sprite : List Int) (x y : Int) :
    (screen.draw sprite x y).erased = true ↔
      ∃ column row, column < width ∧ row < height ∧
        1 ≤ coverage width height sprite x y column row ∧
          (screen.isLit column row = true ∨
            2 ≤ coverage width height sprite x y column row) := by
  change (screen.blit sprite x y).erased = true ↔ _
  rw [sized.blit_eq, Blit.erased_foldl_toggle sized.size_eq
    fun _ member => sized.hits_inside member]
  constructor
  · rintro (before | ⟨⟨column, row⟩, member, covered⟩)
    · contradiction
    · obtain ⟨beside, below⟩ := sized.hits_inside member
      refine ⟨column, row, beside, below, ?_⟩
      rw [sized.isLit_eq beside below, ← sized.count_hits]
      exact ⟨List.count_pos_iff.mpr member, covered⟩
  · rintro ⟨column, row, beside, below, once, covered⟩
    rw [sized.isLit_eq beside below, ← sized.count_hits] at covered
    rw [← sized.count_hits] at once
    exact .inr ⟨(column, row), List.count_pos_iff.mp once, covered⟩

end Sized

/-- What a drawing does to a picture of any size, wherever it is drawn.  Each
pixel is turned over if it is covered an odd number of times, and the drawing
tells that a lit pixel was switched off exactly if one is covered that was lit
before, or that is covered at least twice. -/
theorem draw_covered
    (sized : screen.Sized width height) (sprite : List Int) (x y : Int) :
    let drawing := screen.draw sprite x y
    let covered := coverage width height sprite x y
    drawing.screen.Sized width height ∧
      (∀ column row, column < width → row < height →
        drawing.screen.isLit column row =
          (screen.isLit column row ^^ decide (covered column row % 2 = 1))) ∧
      (drawing.erased = true ↔
        ∃ column row, column < width ∧ row < height ∧
          1 ≤ covered column row ∧
            (screen.isLit column row = true ∨ 2 ≤ covered column row)) :=
  ⟨sized.draw sprite x y,
    fun _ _ beside below => sized.isLit_draw sprite x y beside below,
    sized.erased_draw sprite x y⟩

/-- Drawn from beyond the edges of a picture of three columns and two rows, a
sprite of three rows covers a pixel up to four times.  It switches off the only
one that was lit. -/
theorem draw_covered_folded :
    let screen : Screen :=
      ⟨3, 2, #[false, true, false, false, false, false], false⟩
    let sprite := [-1, 0x3C0, -0x80]
    let drawing := screen.draw sprite (-2) 5
    let covered := coverage 3 2 sprite (-2) 5
    screen.Sized 3 2 ∧
      (covered 1 0 = 1 ∧ drawing.screen.isLit 1 0 = false) ∧
      (covered 1 1 = 4 ∧ drawing.screen.isLit 1 1 = false) ∧
      (covered 2 1 = 3 ∧ drawing.screen.isLit 2 1 = true) ∧
      drawing.erased = true := by
  intro screen sprite drawing covered
  have sized : screen.Sized 3 2 := ⟨rfl, rfl, by decide, by decide, rfl⟩
  obtain ⟨-, lit, erased⟩ := draw_covered sized sprite (-2) 5
  have first := lit 1 0 (by decide) (by decide)
  have second := lit 1 1 (by decide) (by decide)
  have third := lit 2 1 (by decide) (by decide)
  refine ⟨sized, ⟨by decide, first.trans (by decide)⟩,
    ⟨by decide, second.trans (by decide)⟩,
    ⟨by decide, third.trans (by decide)⟩, erased.mpr ?_⟩
  exact ⟨1, 0, by decide, by decide, by decide, .inl (by decide)⟩

end Screen

end Chip8

import Mathlib.Algebra.BigOperators.Group.List.Basic
import Chip8.Proofs.Coverage

/-!
# Drawings one after the other

Drawing turns pixels over, so it makes no difference in which order sprites are
drawn, and drawing them once more undoes it.

* `isLit_drawAll` says that a pixel ends at the parity of what all the sprites of
  a list cover it, a sum that does not depend on their order;
* `coverage_append` says that the rows of a sprite may be drawn in two parts;
* `draws_commute_and_cancel` collects what follows for pictures, and what the
  drawings tell.
-/

namespace Chip8

/-- A sprite, and the coordinates that its corner goes to. -/
structure Stamp where
  sprite : List Int
  x : Int
  y : Int

namespace Screen

/-- Draw some sprites one after the other. -/
def drawAll (screen : Screen) (stamps : List Stamp) : Screen :=
  stamps.foldl
    (fun current stamp => (current.draw stamp.sprite stamp.x stamp.y).screen)
    screen

/-- The number of set bits of some sprites that fall on a pixel. -/
def coverageAll (width height : Nat) (stamps : List Stamp)
    (column row : Nat) : Nat :=
  (stamps.map fun stamp =>
    coverage width height stamp.sprite stamp.x stamp.y column row).sum

variable {width height column row : Nat} {screen other : Screen}
variable {first second : List Stamp}

/-! ## The order of drawings -/

/-- A sum is odd if one of its summands is odd and the other is not. -/
theorem decide_odd_add (a b : Nat) :
    (decide (a % 2 = 1) ^^ decide (b % 2 = 1)) = decide ((a + b) % 2 = 1) := by
  rcases Nat.mod_two_eq_zero_or_one a with even | odd <;>
    rcases Nat.mod_two_eq_zero_or_one b with otherEven | otherOdd <;>
    simp [Nat.add_mod, *]

/-- A pixel that is turned over by two drawings is switched off if the first one
does so, or if the second one does to what the first one left. -/
theorem goesDark_add (lit : Bool) (a b : Nat) :
    (1 ≤ a + b ∧ (lit = true ∨ 2 ≤ a + b)) ↔
      (1 ≤ a ∧ (lit = true ∨ 2 ≤ a)) ∨
        1 ≤ b ∧ ((lit ^^ decide (a % 2 = 1)) = true ∨ 2 ≤ b) := by
  cases lit <;> simp <;> omega

theorem coverageAll_perm (perm : first.Perm second) :
    coverageAll width height first = coverageAll width height second := by
  funext column row
  exact (perm.map _).sum_eq

@[simp]
theorem coverageAll_pair (first second : Stamp) (column row : Nat) :
    coverageAll width height [first, second] column row =
      coverage width height first.sprite first.x first.y column row +
        coverage width height second.sprite second.x second.y column row := by
  simp [coverageAll]

namespace Sized

theorem drawAll (sized : screen.Sized width height) (stamps : List Stamp) :
    (screen.drawAll stamps).Sized width height := by
  unfold Screen.drawAll
  exact List.foldlRecOn
    (motive := fun current : Screen => current.Sized width height)
    _ _ sized fun _ kept _ _ => kept.draw _ _ _

/-- Pictures of one size with the same pixels lit hold the same list of pixels. -/
theorem pixels_ext
    (sized : screen.Sized width height) (otherSized : other.Sized width height)
    (same : ∀ column row, column < width → row < height →
      screen.isLit column row = other.isLit column row) :
    screen.pixels = other.pixels := by
  apply Array.ext
  · rw [sized.size_eq, otherSized.size_eq]
  · intro number listed otherListed
    have numbered : number < width * height := sized.size_eq ▸ listed
    have beside := Nat.mod_lt number sized.width_pos
    have below : number / width < height := Nat.div_lt_of_lt_mul numbered
    have lit := same _ _ beside below
    rw [sized.isLit_eq beside below, otherSized.isLit_eq beside below,
      place_of_number, Array.getD_eq_getD_getElem?, Array.getD_eq_getD_getElem?,
      Array.getElem?_eq_getElem listed, Array.getElem?_eq_getElem otherListed]
      at lit
    exact lit

/-- Some drawings turn a pixel over if they cover it an odd number of times all
together. -/
theorem isLit_drawAll
    (sized : screen.Sized width height) (stamps : List Stamp)
    (beside : column < width) (below : row < height) :
    (screen.drawAll stamps).isLit column row =
      (screen.isLit column row ^^
        decide (coverageAll width height stamps column row % 2 = 1)) := by
  induction stamps generalizing screen with
  | nil =>
      simp [Screen.drawAll, coverageAll]
  | cons stamp rest inductionHypothesis =>
      have next := inductionHypothesis
        (sized.draw stamp.sprite stamp.x stamp.y)
      rw [sized.isLit_draw _ _ _ beside below, Bool.xor_assoc] at next
      refine next.trans (congrArg (screen.isLit column row ^^ ·) ?_)
      exact decide_odd_add _ _

theorem pixels_drawAll_perm
    (sized : screen.Sized width height) (perm : first.Perm second) :
    (screen.drawAll first).pixels = (screen.drawAll second).pixels := by
  refine (sized.drawAll first).pixels_ext (sized.drawAll second) ?_
  intro column row beside below
  rw [sized.isLit_drawAll first beside below,
    sized.isLit_drawAll second beside below, coverageAll_perm perm]

/-- Drawing some sprites again, in any order, undoes their drawing. -/
theorem pixels_drawAll_drawAll
    (sized : screen.Sized width height) (perm : first.Perm second) :
    ((screen.drawAll first).drawAll second).pixels = screen.pixels := by
  refine ((sized.drawAll first).drawAll second).pixels_ext sized ?_
  intro column row beside below
  rw [(sized.drawAll first).isLit_drawAll second beside below,
    sized.isLit_drawAll first beside below, coverageAll_perm perm,
    Bool.xor_assoc, Bool.xor_self, Bool.xor_false]

/-! ## Sprites in two parts -/

theorem hits_append
    (screen : Screen) (upper lower : List Int) (x y : Int) :
    screen.hits (upper ++ lower) x y =
      screen.hits upper x y ++ screen.hits lower x (y + upper.length) := by
  rw [hits_eq, hits_eq, hits_eq, List.length_append, List.range_add,
    List.flatMap_append, List.flatMap_map]
  refine congrArg₂ (· ++ ·) ?_ ?_
  · refine List.flatMap_congr fun down member => ?_
    rw [List.getD_append _ _ _ _ (List.mem_range.mp member)]
  · refine List.flatMap_congr fun down _ => ?_
    rw [List.getD_append_right _ _ _ _ (Nat.le_add_right _ _),
      Nat.add_sub_cancel_left]
    simp only [Int.natCast_add, Int.add_assoc]

theorem coverage_append
    (sized : screen.Sized width height) (upper lower : List Int) (x y : Int)
    (column row : Nat) :
    coverage width height (upper ++ lower) x y column row =
      coverage width height upper x y column row +
        coverage width height lower x (y + upper.length) column row := by
  simp only [← sized.count_hits, hits_append, List.count_append]

/-- The lower part of a sprite may be drawn after the upper one. -/
theorem pixels_draw_append
    (sized : screen.Sized width height) (upper lower : List Int) (x y : Int) :
    (screen.draw (upper ++ lower) x y).screen.pixels =
      ((screen.draw upper x y).screen.draw lower x
        (y + upper.length)).screen.pixels := by
  have topSized := sized.draw upper x y
  refine (sized.draw _ x y).pixels_ext (topSized.draw _ _ _) ?_
  intro column row beside below
  rw [sized.isLit_draw _ _ _ beside below,
    topSized.isLit_draw _ _ _ beside below, sized.isLit_draw _ _ _ beside below,
    Bool.xor_assoc, decide_odd_add, sized.coverage_append]

/-! ## What drawings tell -/

/-- Of two drawings one tells that a lit pixel was switched off exactly if one
that is covered by either of them was lit before, or is covered twice. -/
theorem erased_draw_draw
    (sized : screen.Sized width height) (first second : Stamp) :
    let covered := coverageAll width height [first, second]
    let once := screen.draw first.sprite first.x first.y
    let twice := once.screen.draw second.sprite second.x second.y
    (once.erased || twice.erased) = true ↔
      ∃ column row, column < width ∧ row < height ∧
        1 ≤ covered column row ∧
          (screen.isLit column row = true ∨ 2 ≤ covered column row) := by
  intro covered once twice
  have onceSized : once.screen.Sized width height := sized.draw _ _ _
  rw [Bool.or_eq_true, sized.erased_draw, onceSized.erased_draw]
  constructor
  · rintro (⟨column, row, beside, below, dark⟩ |
      ⟨column, row, beside, below, dark⟩)
    · refine ⟨column, row, beside, below, ?_⟩
      simp only [covered, coverageAll_pair, goesDark_add]
      exact .inl dark
    · rw [sized.isLit_draw _ _ _ beside below] at dark
      refine ⟨column, row, beside, below, ?_⟩
      simp only [covered, coverageAll_pair, goesDark_add]
      exact .inr dark
  · rintro ⟨column, row, beside, below, dark⟩
    simp only [covered, coverageAll_pair, goesDark_add] at dark
    refine dark.imp ?_ ?_
    · exact fun now => ⟨column, row, beside, below, now⟩
    · intro later
      rw [← sized.isLit_draw _ _ _ beside below] at later
      exact ⟨column, row, beside, below, later⟩

/-- A sprite switches a lit pixel off if one of its parts does, the lower part
being drawn after the upper one. -/
theorem erased_append
    (sized : screen.Sized width height) (upper lower : List Int) (x y : Int) :
    let top := screen.draw upper x y
    let bottom := top.screen.draw lower x (y + upper.length)
    (screen.draw (upper ++ lower) x y).erased =
      (top.erased || bottom.erased) := by
  intro top bottom
  have either := sized.erased_draw_draw
    ⟨upper, x, y⟩ ⟨lower, x, y + upper.length⟩
  rw [Bool.eq_iff_iff, sized.erased_draw]
  refine Iff.trans ?_ either.symm
  simp only [coverageAll_pair, sized.coverage_append]

/-- Some pixel is covered if one of the low eight bits of a sprite row is set. -/
theorem exists_covered_iff
    (sized : screen.Sized width height) (sprite : List Int) (x y : Int) :
    (∃ column row, column < width ∧ row < height ∧
        1 ≤ coverage width height sprite x y column row) ↔
      ∃ line ∈ sprite, ∃ place < 8, line.testBit place = true := by
  constructor
  · rintro ⟨column, row, -, -, covered⟩
    obtain ⟨⟨down, across⟩, member⟩ := Finset.card_pos.mp covered
    simp only [covering, Finset.mem_filter, Finset.mem_product,
      Finset.mem_range] at member
    obtain ⟨⟨downInside, acrossInside⟩, set, -⟩ := member
    rw [List.getD_eq_getElem _ _ downInside] at set
    exact ⟨_, List.getElem_mem downInside, 7 - across, by omega, set⟩
  · rintro ⟨line, member, place, low, set⟩
    obtain ⟨down, downInside, rfl⟩ := List.getElem_of_mem member
    obtain ⟨beside, below⟩ :=
      sized.wrap_inside (x + (7 - place : Nat)) (y + down)
    refine ⟨_, _, beside, below, Finset.card_pos.mpr ⟨(down, 7 - place), ?_⟩⟩
    simp only [covering, Finset.mem_filter, Finset.mem_product,
      Finset.mem_range]
    refine ⟨⟨downInside, by omega⟩, ?_, (sized.wrap_eq_iff _ _ _ _).mp rfl⟩
    rw [List.getD_eq_getElem _ _ downInside]
    rwa [show 7 - (7 - place) = place by omega]

/-- One of two drawings of the same sprite in the same place switches a lit pixel
off, unless the sprite is empty. -/
theorem erased_twice_iff
    (sized : screen.Sized width height) (sprite : List Int) (x y : Int) :
    let once := screen.draw sprite x y
    let twice := once.screen.draw sprite x y
    (once.erased || twice.erased) = true ↔
      ∃ line ∈ sprite, ∃ place < 8, line.testBit place = true := by
  intro once twice
  have either := sized.erased_draw_draw ⟨sprite, x, y⟩ ⟨sprite, x, y⟩
  rw [← sized.exists_covered_iff sprite x y]
  refine either.trans ?_
  refine exists_congr fun column => exists_congr fun row => ?_
  refine and_congr_right fun _ => and_congr_right fun _ => ?_
  simp only [coverageAll_pair]
  omega

end Sized

/-- Drawings on a picture of any size.  The order in which sprites are drawn
makes no difference to the pixels, and drawing them again, in any order, undoes
it.  A sprite may be drawn in two parts, one below the other, and switches a lit
pixel off if one of its parts does.  And of two drawings of one sprite in one
place, one switches a lit pixel off exactly if some row has a low bit that is
set. -/
theorem draws_commute_and_cancel
    (sized : screen.Sized width height) :
    (∀ first second : List Stamp, first.Perm second →
      (screen.drawAll first).pixels = (screen.drawAll second).pixels ∧
        ((screen.drawAll first).drawAll second).pixels = screen.pixels) ∧
      (∀ (upper lower : List Int) (x y : Int),
        let whole := screen.draw (upper ++ lower) x y
        let top := screen.draw upper x y
        let bottom := top.screen.draw lower x (y + upper.length)
        whole.screen.pixels = bottom.screen.pixels ∧
          whole.erased = (top.erased || bottom.erased)) ∧
      ∀ (sprite : List Int) (x y : Int),
        let once := screen.draw sprite x y
        let twice := once.screen.draw sprite x y
        once.erased = true ∨ twice.erased = true ↔
          ∃ line ∈ sprite, ∃ place < 8, line.testBit place = true := by
  refine ⟨fun first second perm => ?_, fun upper lower x y => ?_,
    fun sprite x y => ?_⟩
  · exact ⟨sized.pixels_drawAll_perm perm, sized.pixels_drawAll_drawAll perm⟩
  · exact ⟨sized.pixels_draw_append upper lower x y,
      sized.erased_append upper lower x y⟩
  · intro once twice
    rw [← Bool.or_eq_true]
    exact sized.erased_twice_iff sprite x y

/-- Sprites that meet themselves and each other on a picture of three columns and
two rows, one of them with a row that has no low bit. -/
theorem draws_commute_and_cancel_crossing :
    let screen : Screen :=
      ⟨3, 2, #[false, true, false, false, false, false], true⟩
    let first : List Stamp := [⟨[-1, 0x3C0], -2, 5⟩, ⟨[0x100, 0xA1], 1, 0⟩]
    let second : List Stamp := [⟨[0x100, 0xA1], 1, 0⟩, ⟨[-1, 0x3C0], -2, 5⟩]
    let upper := screen.draw [-1] 7 (-4)
    let lower := upper.screen.draw [0x100, 3] 7 (-3)
    screen.Sized 3 2 ∧ first.Perm second ∧
      (screen.drawAll first).pixels = (screen.drawAll second).pixels ∧
      ((screen.drawAll first).drawAll second).pixels = screen.pixels ∧
      (screen.draw [-1, 0x100, 3] 7 (-4)).screen.pixels = lower.screen.pixels ∧
      ((screen.draw [0x80] 0 0).erased = true ∨
        ((screen.draw [0x80] 0 0).screen.draw [0x80] 0 0).erased = true) := by
  intro screen first second upper lower
  have sized : screen.Sized 3 2 := ⟨rfl, rfl, by decide, by decide, rfl⟩
  obtain ⟨orders, parts, twice⟩ := draws_commute_and_cancel sized
  have perm : first.Perm second := .swap _ _ _
  obtain ⟨same, undone⟩ := orders first second perm
  refine ⟨sized, perm, same, undone, (parts [-1] [0x100, 3] 7 (-4)).1, ?_⟩
  exact (twice [0x80] 0 0).mpr ⟨0x80, by decide, 7, by decide, by decide⟩

end Screen

end Chip8

import Chip8.Screen

/-!
# Places in the picture

The pixels of a picture are listed row by row.  Columns and rows wrap around, so
whatever the coordinates are, a drawing finds its pixels in the list.

* A number is the place of one column and one row (`eq_place_iff`);
* `Screen.Sized` says that the list has the length that width and height ask
  for;
* `Sized.draw` and `Sized.clear` say that it keeps that length;
* `PixelChange.Inside` says that a change falls on a listed pixel
  (`Sized.place_lt`), and every change that a drawing or a clearing reports does
  (`changes_draw`, `clearChanges_inside`).
-/

namespace Chip8

/-- A picture of a width and a height that are positive, with as many pixels. -/
structure Screen.Sized (width height : Nat) (screen : Screen) : Prop where
  width_eq : screen.width = width
  height_eq : screen.height = height
  width_pos : 0 < width
  height_pos : 0 < height
  size_eq : screen.pixels.size = width * height

/-- A pixel change that falls into a picture of a width and a height. -/
structure PixelChange.Inside (width height : Nat) (change : PixelChange) :
    Prop where
  column : change.x < width
  row : change.y < height

namespace Screen

/-! ## Places -/

theorem place_mod
    {width column : Nat} (inside : column < width) (row : Nat) :
    place width column row % width = column := by
  rw [place, Nat.mul_add_mod_of_lt inside]

theorem place_div
    {width column : Nat} (inside : column < width) (row : Nat) :
    place width column row / width = row := by
  have positive : 0 < width := Nat.zero_lt_of_lt inside
  rw [place, Nat.mul_comm, Nat.mul_add_div positive, Nat.div_eq_of_lt inside,
    Nat.add_zero]

/-- Every number is the place of its column and its row. -/
theorem place_of_number (width number : Nat) :
    place width (number % width) (number / width) = number :=
  Nat.div_add_mod' number width

/-- A number is the place of one column and one row only. -/
theorem eq_place_iff
    {width column row number : Nat} (inside : column < width) :
    place width column row = number ↔
      column = number % width ∧ row = number / width := by
  constructor
  · rintro rfl
    exact ⟨(place_mod inside row).symm, (place_div inside row).symm⟩
  · rintro ⟨rfl, rfl⟩
    exact place_of_number width number

theorem Sized.place_lt
    {width height : Nat} {screen : Screen} {change : PixelChange}
    (sized : screen.Sized width height)
    (inside : change.Inside width height) :
    place screen.width change.x change.y < screen.pixels.size := by
  rw [sized.size_eq, sized.width_eq]
  exact Screen.place_lt inside.column inside.row

/-- No pixel of a new picture is lit. -/
theorem getD_blank (width height number : Nat) :
    (blank width height).pixels.getD number false = false := by
  rw [blank, Array.getD_eq_getD_getElem?, Array.getElem?_replicate]
  split <;> rfl

/-- A picture that can be created has the size asked for. -/
theorem sized_of_create?
    {width height : Int} {screen : Screen}
    (created : create? width height = some screen) :
    screen.Sized width.toNat height.toNat := by
  unfold create? at created
  split at created
  · next positive =>
      cases created
      exact ⟨rfl, rfl, by omega, by omega, by simp [blank]⟩
  · contradiction

namespace Sized

variable {width height : Nat} {screen : Screen}

/-! ## Clearing -/

theorem clear (sized : screen.Sized width height) :
    screen.clear.Sized width height where
  width_eq := sized.width_eq
  height_eq := sized.height_eq
  width_pos := sized.width_pos
  height_pos := sized.height_pos
  size_eq := by
    simp [Screen.clear, blank, sized.width_eq, sized.height_eq]

theorem clearChanges_inside
    (sized : screen.Sized width height) {change : PixelChange}
    (member : change ∈ screen.clearChanges) :
    change.Inside width height := by
  simp only [clearChanges, List.mem_filterMap, List.mem_range] at member
  obtain ⟨number, bound, found⟩ := member
  rw [sized.size_eq] at bound
  split at found
  · cases found
    rw [sized.width_eq]
    exact ⟨Nat.mod_lt number sized.width_pos,
      Nat.div_lt_of_lt_mul bound⟩
  · contradiction

/-! ## Drawing -/

theorem wrap_inside (sized : screen.Sized width height) (x y : Int) :
    (screen.wrap x y).1 < width ∧ (screen.wrap x y).2 < height := by
  have wide : 0 < width := sized.width_pos
  have high : 0 < height := sized.height_pos
  simp only [wrap, sized.width_eq, sized.height_eq]
  constructor
  · have bound := Int.emod_lt_of_pos x (Int.natCast_pos.mpr wide)
    omega
  · have bound := Int.emod_lt_of_pos y (Int.natCast_pos.mpr high)
    omega

/-- The set bits of a sprite fall into the picture. -/
theorem hits_inside
    (sized : screen.Sized width height) {sprite : List Int} {x y : Int}
    {spot : Nat × Nat} (member : spot ∈ screen.hits sprite x y) :
    spot.1 < width ∧ spot.2 < height := by
  simp only [hits, List.mem_flatMap, List.mem_map] at member
  obtain ⟨line, -, across, -, equality⟩ := member
  rw [← equality]
  exact sized.wrap_inside _ _

/-- Turning pixels over keeps their number, and reports the pixels turned
over. -/
theorem blit_inside
    (sized : screen.Sized width height) (sprite : List Int) (x y : Int) :
    (screen.blit sprite x y).pixels.size = width * height ∧
      ∀ change ∈ (screen.blit sprite x y).changes,
        change.Inside width height := by
  unfold blit
  refine List.foldlRecOn
    (motive := fun result : Blit =>
      result.pixels.size = width * height ∧
        ∀ change ∈ result.changes, change.Inside width height)
    _ _ ?_ ?_
  · exact ⟨sized.size_eq, by simp⟩
  · intro current invariant spot member
    obtain ⟨size, changes⟩ := invariant
    obtain ⟨column, row⟩ := sized.hits_inside member
    refine ⟨by rw [Blit.size_toggle, size], ?_⟩
    intro change changed
    rcases List.mem_cons.mp changed with latest | before
    · rw [latest]
      exact ⟨column, row⟩
    · exact changes change before

theorem draw
    (sized : screen.Sized width height) (sprite : List Int) (x y : Int) :
    (screen.draw sprite x y).screen.Sized width height :=
  { sized with size_eq := (sized.blit_inside sprite x y).1 }

theorem changes_draw
    (sized : screen.Sized width height) {sprite : List Int} {x y : Int}
    {change : PixelChange}
    (member : change ∈ (screen.draw sprite x y).changes) :
    change.Inside width height :=
  (sized.blit_inside sprite x y).2 change (List.mem_reverse.mp member)

end Sized

end Screen

end Chip8

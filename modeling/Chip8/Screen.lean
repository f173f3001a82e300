/-!
# The picture

A picture is a grid of lit and dark pixels that wraps around on both axes.

* `draw` turns over every pixel that a set bit of a sprite falls on, row by
  row and from the left, and tells whether a lit pixel was switched off;
* `clear` switches every pixel off;
* both list the pixels they changed, in the order in which they changed.

Each change is reported with the new status of the pixel, so replaying the
changes on a dark grid gives the picture.
-/

namespace Chip8

/-- A pixel that was switched, with its new status. -/
structure PixelChange where
  x : Nat
  y : Nat
  lit : Bool
  deriving DecidableEq, Repr

/-- A grid of pixels, row by row.  It is `dirty` when it may have changed since
it was last shown. -/
structure Screen where
  width : Nat
  height : Nat
  pixels : Array Bool
  dirty : Bool
  deriving DecidableEq, Repr

/-- The usual width of the picture. -/
def screenWidth : Nat := 64

/-- The usual height of the picture. -/
def screenHeight : Nat := 32

/-- The text that refuses a picture without pixels. -/
def Screen.sizeMessage : String := "display dimensions must be positive"

namespace Screen

/-- A dark picture that has not been shown yet. -/
def blank (width height : Nat) : Screen where
  width := width
  height := height
  pixels := Array.replicate (width * height) false
  dirty := true

/-- A dark picture, if both dimensions are positive. -/
def create? (width height : Int) : Option Screen :=
  if 0 < width ∧ 0 < height then
    some (blank width.toNat height.toNat)
  else
    none

/-- The column and row of the grid that a pair of coordinates falls on. -/
def wrap (screen : Screen) (x y : Int) : Nat × Nat :=
  ((x % screen.width).toNat, (y % screen.height).toNat)

/-- The place of a column and a row in the row-by-row list of pixels. -/
def place (width column row : Nat) : Nat :=
  row * width + column

/-- The places of the columns and rows of a grid lie inside its list. -/
theorem place_lt
    {width height column row : Nat}
    (columnInside : column < width)
    (rowInside : row < height) :
    place width column row < width * height := by
  calc place width column row
      < row * width + width := Nat.add_lt_add_left columnInside _
    _ = (row + 1) * width := (Nat.succ_mul row width).symm
    _ ≤ height * width := Nat.mul_le_mul_right width rowInside
    _ = width * height := Nat.mul_comm height width

/-- Whether the pixel at a pair of coordinates is lit. -/
def isLit (screen : Screen) (x y : Int) : Bool :=
  let (column, row) := screen.wrap x y
  screen.pixels.getD (place screen.width column row) false

/-- The pixels of the row with this number. -/
def row (screen : Screen) (number : Nat) : List Bool :=
  (List.range screen.width).map fun column =>
    screen.pixels.getD (place screen.width column number) false

/-- The pixels, row by row from the top. -/
def rows (screen : Screen) : List (List Bool) :=
  (List.range screen.height).map screen.row

/-! ## Clearing -/

/-- One change for every lit pixel, which goes dark. -/
def clearChanges (screen : Screen) : List PixelChange :=
  (List.range screen.pixels.size).filterMap fun number =>
    if screen.pixels.getD number false then
      some ⟨number % screen.width, number / screen.width, false⟩
    else
      none

/-- The picture with every pixel dark. -/
def clear (screen : Screen) : Screen :=
  blank screen.width screen.height

/-! ## Drawing -/

/-- Whether a sprite row lights the column `column` of eight.  The leftmost
column is the highest bit, and negative numbers are read as two's
complement. -/
def bit (line : Int) (column : Nat) : Bool :=
  line / Nat.pow 2 (7 - column) % 2 = 1

/-- The columns of a sprite row that are set, from the left. -/
def setColumns (line : Int) : List Nat :=
  (List.range 8).filter (bit line)

/-- The columns and rows of the grid that the set bits of a sprite fall on when
its corner is at `x` and `y`, row by row and from the left. -/
def hits (screen : Screen) (sprite : List Int) (x y : Int) :
    List (Nat × Nat) :=
  sprite.zipIdx.flatMap fun (line, down) =>
    (setColumns line).map fun across : Nat =>
      screen.wrap (x + across) (y + down)

/-- A sprite being drawn: the pixels so far, whether a lit pixel was switched
off, and the changes with the latest first. -/
structure Blit where
  pixels : Array Bool
  erased : Bool
  changes : List PixelChange
  deriving DecidableEq, Repr

/-- Turn over the pixel in one column and row. -/
def Blit.toggle (width : Nat) (blit : Blit) (spot : Nat × Nat) : Blit :=
  let number := place width spot.1 spot.2
  let lit := blit.pixels.getD number false
  { pixels := blit.pixels.setIfInBounds number (!lit)
    erased := blit.erased || lit
    changes := ⟨spot.1, spot.2, !lit⟩ :: blit.changes }

@[simp]
theorem Blit.size_toggle (width : Nat) (blit : Blit) (spot : Nat × Nat) :
    (blit.toggle width spot).pixels.size = blit.pixels.size := by
  simp only [Blit.toggle, Array.size_setIfInBounds]

/-- Turn over the pixels under a sprite. -/
def blit (screen : Screen) (sprite : List Int) (x y : Int) : Blit :=
  (screen.hits sprite x y).foldl (Blit.toggle screen.width)
    ⟨screen.pixels, false, []⟩

/-- What drawing a sprite gives: the picture, whether a lit pixel was switched
off, and the changes in order. -/
structure Drawing where
  screen : Screen
  erased : Bool
  changes : List PixelChange
  deriving DecidableEq, Repr

/-- Draw a sprite with its corner at `x` and `y`. -/
def draw (screen : Screen) (sprite : List Int) (x y : Int) : Drawing :=
  let result := screen.blit sprite x y
  { screen := { screen with pixels := result.pixels, dirty := true }
    erased := result.erased
    changes := result.changes.reverse }

end Screen

end Chip8

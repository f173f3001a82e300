import Chip8.Datum

/-!
# Grids

A list whose items are lists of one length, whose items are lists of one length
again, and so on, is a grid.  Its shape gives the lengths from the outermost
list inwards, and its cells are what the innermost lists hold, in order.  A
value that is no list is a grid of one cell without dimensions.

* Lists of different lengths beside each other, or a list beside a value that is
  none, are irregular: they are no grid.
* A grid has at most 32 dimensions.
-/

namespace Chip8

/-- So many groups of items, each of a size. -/
def groups {α : Type} (size : Nat) : Nat → List α → List (List α)
  | 0, _ => []
  | count + 1, items =>
      items.take size :: groups size count (items.drop size)

/-- The number of cells of a shape. -/
def cellCount (shape : List Nat) : Nat :=
  shape.foldl (· * ·) 1

/-- Cells in order, and the lengths of the lists that hold them. -/
structure Grid (α : Type) where
  shape : List Nat
  cells : List α
  deriving DecidableEq, Repr

/-- Why a value is no grid: beyond some dimensions it is irregular, or it has
too many of them. -/
inductive GridError where
  | irregular (shape : List Nat)
  | tooDeep
  deriving DecidableEq, Repr

namespace Grid

/-- The number of dimensions that a grid may have. -/
def dimensionLimit : Nat := 32

/-- The same grid with other cells. -/
def map {α β : Type} (change : α → β) (grid : Grid α) : Grid β :=
  ⟨grid.shape, grid.cells.map change⟩

/-- The length of the innermost lists. -/
def width {α : Type} (grid : Grid α) : Nat :=
  grid.shape.getLastD 1

/-- The innermost lists. -/
def rows {α : Type} (grid : Grid α) : List (List α) :=
  groups grid.width (cellCount grid.shape.dropLast) grid.cells

/-! ## Values as grids -/

/-- The length of a value that is a list. -/
def length? : Datum → Option Nat
  | .list items => some items.length
  | _ => none

/-- The items of a value that is a list. -/
def items : Datum → List Datum
  | .list items => items
  | _ => []

/-- The grid of the values at one depth, given the shape above them and the
number of dimensions that may follow. -/
def ofLevel (shape : List Nat) :
    Nat → List Datum → Except GridError (Grid Datum)
  | 0, level =>
      if level.any fun value => (length? value).isSome then .error .tooDeep
      else .ok ⟨shape, level⟩
  | _ + 1, [] => .ok ⟨shape, []⟩
  | limit + 1, first :: rest =>
      if rest.any fun value => length? value ≠ length? first then
        .error (.irregular shape)
      else
        match length? first with
        | some length =>
            ofLevel (shape ++ [length]) limit ((first :: rest).flatMap items)
        | none => .ok ⟨shape, first :: rest⟩

/-- The grid that a value is. -/
def ofDatum (value : Datum) : Except GridError (Grid Datum) :=
  ofLevel [] dimensionLimit [value]

end Grid

namespace GridError

/-- A shape in brackets. -/
def shapeText (separator : String) : List Nat → String
  | [length] => s!"({length},)"
  | shape => "(" ++ separator.intercalate (shape.map toString) ++ ")"

/-- The text that reports the error. -/
def message (error : GridError) : String :=
  "setting an array element with a sequence. The requested array " ++
    match error with
    | .irregular shape =>
        s!"has an inhomogeneous shape after {shape.length} dimensions. " ++
          "The detected shape was " ++ shapeText ", " shape ++
          " + inhomogeneous part."
    | .tooDeep =>
        "would exceed the maximum number of dimension of " ++
          s!"{Grid.dimensionLimit}."

end GridError

end Chip8

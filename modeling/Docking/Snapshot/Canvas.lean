import Docking.Colour

namespace Docking

/-! A grid of pixels painted over from back to front. -/

structure Cell where
  x : Nat
  y : Nat
deriving DecidableEq, Inhabited

/-- The columns from `left` up to `right` and the rows from `top` up to `bottom`, the
upper bounds excluded. -/
structure Region where
  left : Nat
  top : Nat
  right : Nat
  bottom : Nat
deriving DecidableEq, Inhabited

namespace Region

def cells (region : Region) : List Cell :=
  (List.range' region.top (region.bottom - region.top)).flatMap fun y =>
    (List.range' region.left (region.right - region.left)).map fun x => ⟨x, y⟩

theorem mem_cells (region : Region) (cell : Cell) :
    cell ∈ region.cells ↔
      (region.left ≤ cell.x ∧ cell.x < region.right) ∧
        region.top ≤ cell.y ∧ cell.y < region.bottom := by
  obtain ⟨x, y⟩ := cell
  simp only [cells, List.mem_flatMap, List.mem_map, List.mem_range'_1, Cell.mk.injEq]
  constructor
  · rintro ⟨row, row_bounds, column, column_bounds, rfl, rfl⟩
    omega
  · intro bounds
    exact ⟨y, by omega, x, by omega, rfl, rfl⟩

end Region

/-- A picture with four bytes for each cell, row by row. -/
structure Canvas where
  width : Nat
  height : Nat
  bytes : Array UInt8
deriving DecidableEq, Inhabited

namespace Canvas

def blank (width height : Nat) : Canvas :=
  ⟨width, height, Array.replicate (width * height * 4) 0⟩

def offset (canvas : Canvas) (cell : Cell) : Nat :=
  (cell.y * canvas.width + cell.x) * 4

/-- Paints one cell; bytes beyond the end of the canvas are dropped. -/
def put (pixel : Pixel) (canvas : Canvas) (cell : Cell) : Canvas :=
  let start := canvas.offset cell
  { canvas with
    bytes := (((canvas.bytes.setIfInBounds start pixel.red).setIfInBounds
      (start + 1) pixel.green).setIfInBounds (start + 2) pixel.blue).setIfInBounds
      (start + 3) pixel.alpha }

def paint (canvas : Canvas) (pixel : Pixel) (cells : List Cell) : Canvas :=
  cells.foldl (put pixel) canvas

/-- The cells covered by a rectangle in pixel coordinates, clipped to the canvas. A far end below
zero needs no maximum, since the word that it is rounded up to is zero then. -/
def clip (canvas : Canvas) (position extent : Point) : Region where
  left := floorWord (larger position.x 0)
  top := floorWord (larger position.y 0)
  right := min (ceilWord (position.x + extent.x)) canvas.width
  bottom := min (ceilWord (position.y + extent.y)) canvas.height

/-- Paints a rectangle; a colour without opacity leaves the canvas as it is. -/
def fill (canvas : Canvas) (position extent : Point) (colour : Colour) : Canvas :=
  if colour.alpha ≤ 0 then canvas
  else canvas.paint colour.toPixel (canvas.clip position extent).cells

/-- The outermost cells: both ends of each column, then both ends of each row. -/
def frame (canvas : Canvas) : List Cell :=
  ((List.range canvas.width).flatMap fun x => [⟨x, 0⟩, ⟨x, canvas.height - 1⟩]) ++
    (List.range canvas.height).flatMap fun y => [⟨0, y⟩, ⟨canvas.width - 1, y⟩]

def border (canvas : Canvas) (colour : Colour) : Canvas :=
  canvas.paint colour.toPixel canvas.frame

end Canvas
end Docking

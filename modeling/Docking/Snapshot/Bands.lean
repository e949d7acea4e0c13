import Docking.Colour
import Docking.Desktop.Window

namespace Docking

/-! A picture in short form: runs of equal pixels within a row, and bands of equal rows. -/

def runs [DecidableEq α] : List α → List (Nat × α)
  | [] => []
  | item :: rest =>
      match runs rest with
      | (count, first) :: later =>
          if first = item then (count + 1, first) :: later
          else (1, item) :: (count, first) :: later
      | [] => [(1, item)]

namespace CursorImage

/-- The pixel in a column and a row; pixels beyond the picture are transparent. -/
def pixelAt (image : CursorImage) (x y : Nat) : Pixel :=
  let start := (y * image.width + x) * 4
  ⟨image.rgba.getD start 0, image.rgba.getD (start + 1) 0,
    image.rgba.getD (start + 2) 0, image.rgba.getD (start + 3) 0⟩

def row (image : CursorImage) (y : Nat) : List Pixel :=
  (List.range image.width).map fun x => image.pixelAt x y

def bands (image : CursorImage) : List (Nat × List (Nat × Pixel)) :=
  runs ((List.range image.height).map fun y => runs (image.row y))

end CursorImage
end Docking

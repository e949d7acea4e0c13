namespace Docking

/-! Binary32 geometry. Positions are logical pixels; a rectangle is kept by its
top-left corner and its extent, and nothing is normalised. -/

/-- The larger of two numbers; a number that is not comparable gives way to the other. -/
def larger (first second : Float32) : Float32 :=
  if first.isNaN then second else if first < second then second else first

def smaller (first second : Float32) : Float32 :=
  if first.isNaN then second else if second < first then second else first

/-- Moves a number into the interval from 0 to 1 and leaves an incomparable one alone. -/
def clampUnit (value : Float32) : Float32 :=
  let raised := if value < 0 then 0 else value
  if 1 < raised then 1 else raised

structure Point where
  x : Float32
  y : Float32
deriving BEq, DecidableEq, Inhabited

namespace Point

def zero : Point := ⟨0, 0⟩

instance : Add Point := ⟨fun first second => ⟨first.x + second.x, first.y + second.y⟩⟩

instance : Sub Point := ⟨fun first second => ⟨first.x - second.x, first.y - second.y⟩⟩

def scale (point : Point) (factor : Float32) : Point :=
  ⟨point.x * factor, point.y * factor⟩

def length (point : Point) : Float32 :=
  (point.x * point.x + point.y * point.y).sqrt

@[simp] theorem add_x (first second : Point) : (first + second).x = first.x + second.x :=
  rfl

@[simp] theorem add_y (first second : Point) : (first + second).y = first.y + second.y :=
  rfl

@[simp] theorem sub_x (first second : Point) : (first - second).x = first.x - second.x :=
  rfl

@[simp] theorem sub_y (first second : Point) : (first - second).y = first.y - second.y :=
  rfl

end Point

structure Size where
  width : Float32
  height : Float32
deriving BEq, DecidableEq, Inhabited

namespace Size

def ofPoint (point : Point) : Size := ⟨point.x, point.y⟩

def toPoint (size : Size) : Point := ⟨size.width, size.height⟩

def longestEdge (size : Size) : Float32 := larger size.width size.height

end Size

structure Rect where
  x : Float32
  y : Float32
  width : Float32
  height : Float32
deriving BEq, DecidableEq, Inhabited

namespace Rect

def zero : Rect := ⟨0, 0, 0, 0⟩

def placedAt (position extent : Point) : Rect :=
  ⟨position.x, position.y, extent.x, extent.y⟩

def position (rect : Rect) : Point := ⟨rect.x, rect.y⟩

def extent (rect : Rect) : Point := ⟨rect.width, rect.height⟩

def size (rect : Rect) : Size := ⟨rect.width, rect.height⟩

/-- All four edges belong to the rectangle. -/
def contains (rect : Rect) (point : Point) : Bool :=
  rect.x ≤ point.x && point.x ≤ rect.x + rect.width &&
    rect.y ≤ point.y && point.y ≤ rect.y + rect.height

def translate (rect : Rect) (offset : Point) : Rect :=
  { rect with x := rect.x + offset.x, y := rect.y + offset.y }

@[simp] theorem extent_translate (rect : Rect) (offset : Point) :
    (rect.translate offset).extent = rect.extent :=
  rfl

@[simp] theorem position_translate (rect : Rect) (offset : Point) :
    (rect.translate offset).position = rect.position + offset :=
  rfl

end Rect
end Docking

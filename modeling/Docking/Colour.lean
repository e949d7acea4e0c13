import Docking.Geometry
import Docking.Rounding

namespace Docking

/-! Colours with binary32 components, and the four bytes that show them. -/

structure Colour where
  red : Float32
  green : Float32
  blue : Float32
  alpha : Float32
deriving BEq, DecidableEq, Inhabited

structure Pixel where
  red : UInt8
  green : UInt8
  blue : UInt8
  alpha : UInt8
deriving DecidableEq, Inhabited

def Pixel.bytes (pixel : Pixel) : List UInt8 :=
  [pixel.red, pixel.green, pixel.blue, pixel.alpha]

@[simp] theorem Pixel.length_bytes (pixel : Pixel) : pixel.bytes.length = 4 :=
  rfl

namespace Colour

def opaqueOf (red green blue : Float32) : Colour := ⟨red, green, blue, 1⟩

def white : Colour := opaqueOf 1 1 1

def black : Colour := opaqueOf 0 0 0

def transparent : Colour := ⟨0, 0, 0, 0⟩

def ofPixel (pixel : Pixel) : Colour where
  red := pixel.red.toFloat32 / 255
  green := pixel.green.toFloat32 / 255
  blue := pixel.blue.toFloat32 / 255
  alpha := pixel.alpha.toFloat32 / 255

/-- Reads the low 24 bits as red, green and blue bytes, with full opacity. -/
def ofHex (code : UInt32) : Colour :=
  ofPixel ⟨(code >>> 16).toUInt8, (code >>> 8).toUInt8, code.toUInt8, 255⟩

def quantise (component : Float32) : UInt8 :=
  nearestByte (clampUnit component * 255)

def toPixel (colour : Colour) : Pixel :=
  ⟨quantise colour.red, quantise colour.green, quantise colour.blue,
    quantise colour.alpha⟩

def darken (colour : Colour) (amount : Float32) : Colour :=
  let kept := 1 - clampUnit amount
  { colour with
    red := colour.red * kept
    green := colour.green * kept
    blue := colour.blue * kept }

@[simp] theorem alpha_darken (colour : Colour) (amount : Float32) :
    (colour.darken amount).alpha = colour.alpha :=
  rfl

end Colour
end Docking

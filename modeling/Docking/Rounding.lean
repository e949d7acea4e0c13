namespace Docking

/-! Binary32 numbers brought to whole numbers. The rounding is done on the rational number that a
finite number stands for, and the result is taken into the range of the wanted type. -/

inductive Reading where
  | undefined
  | infinite (negative : Bool)
  | finite (value : Rat)
deriving DecidableEq

def reading (number : Float32) : Reading :=
  match number.toModel.unpack with
  | .notANumber => .undefined
  | .infinity .positive => .infinite false
  | .infinity .negative => .infinite true
  | .zero _ => .finite 0
  | .finite sign mantissa exponent _ => .finite (sign.apply mantissa * 2 ^ exponent)

/-- The nearest whole number, a half going away from zero. -/
def nearest (value : Rat) : Int :=
  if value < 0 then -(-value + 1 / 2).floor else (value + 1 / 2).floor

namespace Reading

/-- Rounds, and moves what lies beyond zero or `limit` to that end of the range. What is not a
number becomes zero. -/
def saturate (rounding : Rat → Int) (limit : Nat) : Reading → Nat
  | undefined => 0
  | infinite negative => if negative then 0 else limit
  | finite value => min (rounding value).toNat limit

end Reading

def floorWord (number : Float32) : Nat :=
  (reading number).saturate Rat.floor (UInt32.size - 1)

def ceilWord (number : Float32) : Nat :=
  (reading number).saturate Rat.ceil (UInt32.size - 1)

def nearestByte (number : Float32) : UInt8 :=
  UInt8.ofNat ((reading number).saturate nearest (UInt8.size - 1))

end Docking

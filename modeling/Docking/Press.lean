import Docking.Event.Basic

namespace Docking

/-! The pointer between a press and its release. Travel is the length of the whole path,
so that small movements to and fro add up. -/

structure Press where
  start : Point
  last : Point
  travelled : Float32
deriving DecidableEq, Inhabited

namespace Press

def startingAt (root : Point) : Press := ⟨root, root, 0⟩

def moveTo (press : Press) (root : Point) : Press :=
  { press with last := root, travelled := press.travelled + (root - press.last).length }

def exceeds (press : Press) (threshold : Float32) : Bool :=
  threshold < press.travelled

end Press

/-- What a pointer event means for the drag of a dockable. -/
inductive Gesture
  | ignored
  /-- The primary button went down; a press is tracked from here. -/
  | pressed (root : Point)
  /-- The pointer moved while pressed, or while the dockable is in flight. -/
  | motion (root : Point)
  | released (root : Point)
deriving DecidableEq, Inhabited

namespace Gesture

def name : Gesture → String
  | .ignored => "Ignored"
  | .pressed _ => "Pressed"
  | .motion _ => "Motion"
  | .released _ => "Released"

def root? : Gesture → Option Point
  | .ignored => none
  | .pressed root | .motion root | .released root => some root

end Gesture

def Press.track (press : Option Press) (inFlight : Bool) : Event → Option Press × Gesture
  | .pointerDown .primary root => (some (Press.startingAt root), .pressed root)
  | .pointerMove root =>
      match press with
      | some current => (some (current.moveTo root), .motion root)
      | none => (none, if inFlight then .motion root else .ignored)
  | .pointerUp .primary root =>
      (none, if press.isSome || inFlight then .released root else .ignored)
  | _ => (press, .ignored)

end Docking

import Docking.Desktop.Window

namespace Docking

/-! The closed vocabulary of events. Native input, the compositor's drag-and-drop
notifications and docking's own notifications travel through the same entry points.
All positions are in root coordinates. -/

inductive Event
  | pointerDown (button : PointerButton) (root : Point)
  | pointerMove (root : Point)
  | pointerUp (button : PointerButton) (root : Point)
  | focusLost (window : WindowId)
  /-- The windowing system took the pointer grab away. -/
  | grabLost
  | closeRequested (window : WindowId)
  | dndEnter (root : Point) (mimeTypes : List String)
  | dndMotion (root : Point)
  | dndLeave
  | dndDrop (root : Point)
  /-- Tells the source of a system drag that the session is over. -/
  | dndFinished (accepted : Bool)
  | dockEnter (root : Point)
  | dockDrag (root : Point)
  | dockLeave
  | dockRelease (root : Point)
  /-- Tells a container that a dockable was torn out of it. -/
  | undock (dockable : NodeId)
deriving DecidableEq, Inhabited

namespace Event

def isSynthetic : Event → Bool
  | .dockEnter _ | .dockDrag _ | .dockLeave | .dockRelease _ | .undock _ => true
  | _ => false

def isSystemDrag : Event → Bool
  | .dndEnter .. | .dndMotion _ | .dndLeave | .dndDrop _ | .dndFinished _ => true
  | _ => false

def name : Event → String
  | .pointerDown .. => "PointerDown"
  | .pointerMove _ => "PointerMove"
  | .pointerUp .. => "PointerUp"
  | .focusLost _ => "FocusLost"
  | .grabLost => "GrabLost"
  | .closeRequested _ => "CloseRequested"
  | .dndEnter .. => "DndEnter"
  | .dndMotion _ => "DndMotion"
  | .dndLeave => "DndLeave"
  | .dndDrop _ => "DndDrop"
  | .dndFinished _ => "DndFinished"
  | .dockEnter _ => "DockEnter"
  | .dockDrag _ => "DockDrag"
  | .dockLeave => "DockLeave"
  | .dockRelease _ => "DockRelease"
  | .undock _ => "Undock"

def root? : Event → Option Point
  | .pointerDown _ root | .pointerMove root | .pointerUp _ root => some root
  | .dndEnter root _ | .dndMotion root | .dndDrop root => some root
  | .dockEnter root | .dockDrag root | .dockRelease root => some root
  | _ => none

def isMotion : Event → Bool
  | .pointerMove _ => true
  | _ => false

theorem isMotion_iff (event : Event) :
    event.isMotion = true ↔ ∃ root, event = .pointerMove root := by
  cases event <;> simp [isMotion]

def isWindowLevel : Event → Bool
  | .closeRequested _ | .focusLost _ | .grabLost => true
  | _ => false

theorem isWindowLevel_iff (event : Event) :
    event.isWindowLevel = true ↔
      (∃ window, event = .closeRequested window ∨ event = .focusLost window) ∨
        event = .grabLost := by
  cases event <;> simp [isWindowLevel]

end Event

/-- What an entry point made of an event: whether docking recognised it as its business,
and whether nothing else should act on it. -/
structure Status where
  understood : Bool
  handled : Bool
deriving DecidableEq, Inhabited

namespace Status

def ignored : Status := ⟨false, false⟩

/-- Recognised, but left to the widget's own handling. -/
def understoodOnly : Status := ⟨true, false⟩

def handledFully : Status := ⟨true, true⟩

/-- The flags as a number, 1 for understood and 2 for handled. -/
def bits (status : Status) : Nat :=
  (if status.understood then 1 else 0) + (if status.handled then 2 else 0)

def ofBits (bits : Nat) : Status := ⟨bits % 2 = 1, bits / 2 % 2 = 1⟩

def names (status : Status) : List String :=
  (if status.understood then ["UNDERSTOOD"] else []) ++
    (if status.handled then ["HANDLED"] else [])

theorem ofBits_bits (status : Status) : ofBits status.bits = status := by
  obtain ⟨understood, handled⟩ := status
  cases understood <;> cases handled <;> rfl

end Status
end Docking

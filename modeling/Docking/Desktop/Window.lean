import Docking.Geometry
import Docking.Ident

namespace Docking

/-! What passes between docking and a windowing system: window descriptions, the
pointer, drag cursors, drag payloads and failures. -/

structure Capabilities where
  reposition : Bool
  systemDrag : Bool
  cursorImage : Bool
  interactiveResize : Bool
deriving DecidableEq, Inhabited

namespace Capabilities

def all : Capabilities := ⟨true, true, true, true⟩

def none : Capabilities := ⟨false, false, false, false⟩

def names (capabilities : Capabilities) : List String :=
  (if capabilities.reposition then ["REPOSITION"] else []) ++
    (if capabilities.systemDrag then ["SYSTEM_DRAG"] else []) ++
    (if capabilities.cursorImage then ["CURSOR_IMAGE"] else []) ++
    (if capabilities.interactiveResize then ["INTERACTIVE_RESIZE"] else [])

def ofNames (names : List String) : Capabilities where
  reposition := names.contains "REPOSITION"
  systemDrag := names.contains "SYSTEM_DRAG"
  cursorImage := names.contains "CURSOR_IMAGE"
  interactiveResize := names.contains "INTERACTIVE_RESIZE"

end Capabilities

inductive PointerButton
  | primary
  | secondary
  | middle
deriving DecidableEq, Inhabited

namespace PointerButton

def all : List PointerButton := [.primary, .secondary, .middle]

def name : PointerButton → String
  | .primary => "Primary"
  | .secondary => "Secondary"
  | .middle => "Middle"

def ofName? (name : String) : Option PointerButton :=
  all.find? fun button => button.name = name

end PointerButton

structure HeldButtons where
  primary : Bool
  secondary : Bool
  middle : Bool
deriving DecidableEq, Inhabited

namespace HeldButtons

def none : HeldButtons := ⟨false, false, false⟩

def set (held : HeldButtons) (pressed : Bool) : PointerButton → HeldButtons
  | .primary => { held with primary := pressed }
  | .secondary => { held with secondary := pressed }
  | .middle => { held with middle := pressed }

def holds (held : HeldButtons) : PointerButton → Bool
  | .primary => held.primary
  | .secondary => held.secondary
  | .middle => held.middle

def names (held : HeldButtons) : List String :=
  (if held.primary then ["PRIMARY"] else []) ++
    (if held.secondary then ["SECONDARY"] else []) ++
    (if held.middle then ["MIDDLE"] else [])

def ofNames (names : List String) : HeldButtons where
  primary := names.contains "PRIMARY"
  secondary := names.contains "SECONDARY"
  middle := names.contains "MIDDLE"

theorem holds_set (held : HeldButtons) (pressed : Bool) (button other : PointerButton) :
    (held.set pressed button).holds other =
      if other = button then pressed else held.holds other := by
  cases button <;> cases other <;> rfl

end HeldButtons

structure Modifiers where
  shift : Bool
  control : Bool
  alt : Bool
  super : Bool
deriving DecidableEq, Inhabited

namespace Modifiers

def none : Modifiers := ⟨false, false, false, false⟩

def names (modifiers : Modifiers) : List String :=
  (if modifiers.shift then ["SHIFT"] else []) ++
    (if modifiers.control then ["CONTROL"] else []) ++
    (if modifiers.alt then ["ALT"] else []) ++
    (if modifiers.super then ["SUPER"] else [])

def ofNames (names : List String) : Modifiers where
  shift := names.contains "SHIFT"
  control := names.contains "CONTROL"
  alt := names.contains "ALT"
  super := names.contains "SUPER"

end Modifiers

/-- The pointer in root coordinates, those of the whole screen. -/
structure PointerState where
  root : Point
  buttons : HeldButtons
  modifiers : Modifiers
deriving DecidableEq, Inhabited

def PointerState.initial : PointerState := ⟨.zero, .none, .none⟩

inductive ResizeEdge
  | top
  | bottom
  | left
  | right
  | topLeft
  | topRight
  | bottomLeft
  | bottomRight
deriving DecidableEq, Inhabited

namespace ResizeEdge

def all : List ResizeEdge :=
  [.top, .bottom, .left, .right, .topLeft, .topRight, .bottomLeft, .bottomRight]

def name : ResizeEdge → String
  | .top => "Top"
  | .bottom => "Bottom"
  | .left => "Left"
  | .right => "Right"
  | .topLeft => "TopLeft"
  | .topRight => "TopRight"
  | .bottomLeft => "BottomLeft"
  | .bottomRight => "BottomRight"

def ofName? (name : String) : Option ResizeEdge :=
  all.find? fun edge => edge.name = name

end ResizeEdge

/-- What a new top-level window is to look like; without a position the windowing
system chooses one. -/
structure WindowDescriptor where
  title : String
  position : Option Point
  size : Size
  decorated : Bool
  resizable : Bool
deriving DecidableEq, Inhabited

namespace WindowDescriptor

def standard : WindowDescriptor := ⟨"Tether Window", none, ⟨320, 240⟩, true, true⟩

def borderless (title : String) (position : Option Point) (size : Size) :
    WindowDescriptor :=
  ⟨title, position, size, false, true⟩

end WindowDescriptor

/-- A picture shown in place of the pointer, four bytes for each pixel, row by row. -/
structure CursorImage where
  width : Nat
  height : Nat
  rgba : Array UInt8
  hotspot : Nat × Nat
deriving DecidableEq, Inhabited

def CursorImage.blank (width height : Nat) : CursorImage :=
  ⟨width, height, Array.replicate (width * height * 4) 0, (0, 0)⟩

structure DragPayload where
  mimeType : String
  data : List UInt8
deriving DecidableEq, Inhabited

inductive DesktopError
  | unsupported (operation : String)
  | windowNotFound (window : WindowId)
  | system (report : String)
deriving DecidableEq, Inhabited

namespace DesktopError

def name : DesktopError → String
  | .unsupported _ => "Unsupported"
  | .windowNotFound _ => "WindowNotFound"
  | .system _ => "Os"

def message : DesktopError → String
  | .unsupported operation => operation ++ " is not supported by this host"
  | .windowNotFound window => window.text ++ " not found"
  | .system report => "windowing system error: " ++ report

end DesktopError

end Docking

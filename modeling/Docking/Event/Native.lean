import Docking.Event.Basic
import Docking.Table

namespace Docking

/-! Notifications of a native windowing toolkit, which speak of one window and of
physical pixels within it, and their reading as docking events in root coordinates. -/

inductive NativeButton
  | left
  | right
  | middle
  | other (number : Nat)
deriving DecidableEq, Inhabited

def NativeButton.ofName? : String → Option NativeButton
  | "Left" => some .left
  | "Right" => some .right
  | "Middle" => some .middle
  | "Back" => some (.other 8)
  | "Forward" => some (.other 9)
  | _ => none

def NativeButton.toPointerButton? : NativeButton → Option PointerButton
  | .left => some .primary
  | .right => some .secondary
  | .middle => some .middle
  | .other _ => none

inductive NativeEvent
  /-- The cursor moved to a position in physical pixels within the window. -/
  | cursorMoved (x y : Float)
  | mouseInput (button : NativeButton) (pressed : Bool)
  | modifiersChanged (modifiers : Modifiers)
  | focused (on : Bool)
  | closeRequested
  | unrelated
deriving DecidableEq, Inhabited

structure EventTranslator where
  pointer : PointerState
deriving DecidableEq, Inhabited

namespace EventTranslator

def initial : EventTranslator := ⟨.initial⟩

/-- A physical position in logical pixels: divided in binary64, then rounded. -/
def logicalPosition (x y scaleFactor : Float) : Point :=
  ⟨(x / scaleFactor).toFloat32, (y / scaleFactor).toFloat32⟩

def cursorMoved (translator : EventTranslator) (root : Point) :
    EventTranslator × Event :=
  ({ translator with pointer := { translator.pointer with root } }, .pointerMove root)

/-- A button changes where the cursor was seen last. -/
def buttonChanged (translator : EventTranslator) (button : PointerButton)
    (pressed : Bool) : EventTranslator × Event :=
  let root := translator.pointer.root
  let buttons := translator.pointer.buttons.set pressed button
  ({ translator with pointer := { translator.pointer with buttons } },
    if pressed then .pointerDown button root else .pointerUp button root)

/-- Reads one notification for `window`, whose client area begins at `origin`. -/
def translate (translator : EventTranslator) (window : WindowId) (origin : Point)
    (scaleFactor : Float) : NativeEvent → EventTranslator × Option Event
  | .cursorMoved x y =>
      let moved := translator.cursorMoved (origin + logicalPosition x y scaleFactor)
      (moved.1, some moved.2)
  | .mouseInput button pressed =>
      match button.toPointerButton? with
      | none => (translator, none)
      | some button =>
          let changed := translator.buttonChanged button pressed
          (changed.1, some changed.2)
  | .modifiersChanged modifiers =>
      ({ translator with pointer := { translator.pointer with modifiers } }, none)
  | .focused on => (translator, if on then none else some (.focusLost window))
  | .closeRequested => (translator, some (.closeRequested window))
  | .unrelated => (translator, none)

end EventTranslator

structure NativeWindow where
  window : WindowId
  origin : Point
  scaleFactor : Float
deriving DecidableEq, Inhabited

/-- The native windows known by their handles, with one translator for all of them. -/
structure WindowDirectory where
  known : Table Nat NativeWindow
  translator : EventTranslator

namespace WindowDirectory

def empty : WindowDirectory := ⟨.empty, .initial⟩

def windowId? (directory : WindowDirectory) (handle : Nat) : Option WindowId :=
  (directory.known.get? handle).map NativeWindow.window

def windowIds (directory : WindowDirectory) : List WindowId :=
  directory.known.values.map NativeWindow.window

def translate (directory : WindowDirectory) (handle : Nat) (event : NativeEvent) :
    WindowDirectory × Option (WindowId × Event) :=
  match directory.known.get? handle with
  | none => (directory, none)
  | some native =>
      let translated := directory.translator.translate native.window native.origin
        native.scaleFactor event
      ({ directory with translator := translated.1 },
        translated.2.map fun event => (native.window, event))

end WindowDirectory
end Docking

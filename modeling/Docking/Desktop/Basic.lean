import Docking.Desktop.Window
import Docking.Table

namespace Docking

/-! An in-memory windowing system. It keeps every request made of it and every call that
had an effect, refuses what its capabilities leave out, and can be told to fail any
request. -/

structure Window where
  position : Option Point
  size : Size
deriving DecidableEq, Inhabited

/-- A call that had an effect on the windowing system or its user. -/
inductive DesktopCall
  | createWindow (window : WindowId) (descriptor : WindowDescriptor)
  | destroyWindow (window : WindowId)
  | moveWindow (window : WindowId) (position : Point)
  | startSystemDrag (window : WindowId) (payload : DragPayload)
  | setDragCursor (width height : Nat) (hotspot : Nat × Nat)
  | clearDragCursor
  | startInteractiveResize (window : WindowId) (edge : ResizeEdge)
  | confirm (title message : String)
deriving DecidableEq, Inhabited

namespace DesktopCall

def isCreation : DesktopCall → Bool
  | .createWindow .. => true
  | _ => false

def isDestruction : DesktopCall → Bool
  | .destroyWindow _ => true
  | _ => false

def isMove : DesktopCall → Bool
  | .moveWindow .. => true
  | _ => false

def isQuestion : DesktopCall → Bool
  | .confirm .. => true
  | _ => false

end DesktopCall

inductive Request
  | createWindow (descriptor : WindowDescriptor)
  | moveWindow (window : WindowId) (position : Point)
  | startSystemDrag (window : WindowId) (payload : DragPayload)
  | setDragCursor (image : CursorImage)
  | startInteractiveResize (window : WindowId) (edge : ResizeEdge)
deriving DecidableEq, Inhabited

def Request.isCreation : Request → Bool
  | .createWindow _ => true
  | _ => false

/-- For each request and the requests made before it, the report with which it fails, if
it does. -/
def Faults := Request → List Request → Option String

namespace Faults

def none : Faults := fun _ _ => .none

def onCreate (report : String) : Faults := fun request _ =>
  if request.isCreation then some report else .none

end Faults

structure Desktop where
  capabilities : Capabilities
  windows : Table WindowId Window
  nextNumber : Nat
  pointer : PointerState
  confirmAnswer : Bool
  cursor : Option CursorImage
  calls : List DesktopCall
  faults : Faults
  /-- The requests made so far, oldest first, whether they failed or not. -/
  requests : List Request

namespace Desktop

def withCapabilities (capabilities : Capabilities) : Desktop where
  capabilities
  windows := .empty
  nextNumber := 1
  pointer := .initial
  confirmAnswer := true
  cursor := none
  calls := []
  faults := .none
  requests := []

def repositioning : Desktop :=
  withCapabilities ⟨true, false, true, true⟩

/-- A windowing system whose compositor runs drags but refuses moves. -/
def compositing : Desktop :=
  withCapabilities ⟨false, true, true, true⟩

def cursorOnly : Desktop :=
  withCapabilities ⟨false, false, true, false⟩

def record (desktop : Desktop) (call : DesktopCall) : Desktop :=
  { desktop with calls := desktop.calls ++ [call] }

def attempt (desktop : Desktop) (request : Request) : Desktop × Option String :=
  ({ desktop with requests := desktop.requests ++ [request] },
    desktop.faults request desktop.requests)

def hasWindow (desktop : Desktop) (window : WindowId) : Bool :=
  desktop.windows.contains window

def windowPosition? (desktop : Desktop) (window : WindowId) : Option Point :=
  (desktop.windows.get? window).bind Window.position

def addWindow (desktop : Desktop) (position : Point) (size : Size) :
    Desktop × WindowId :=
  let window : WindowId := ⟨desktop.nextNumber⟩
  ({ desktop with
      windows := desktop.windows.insert window ⟨some position, size⟩
      nextNumber := desktop.nextNumber + 1 },
    window)

def createWindow (desktop : Desktop) (descriptor : WindowDescriptor) :
    Desktop × Except DesktopError WindowId :=
  match desktop.attempt (.createWindow descriptor) with
  | (desktop, some report) => (desktop, .error (.system report))
  | (desktop, none) =>
      let window : WindowId := ⟨desktop.nextNumber⟩
      let opened := { desktop with
        windows := desktop.windows.insert window ⟨descriptor.position, descriptor.size⟩
        nextNumber := desktop.nextNumber + 1 }
      (opened.record (.createWindow window descriptor), .ok window)

/-- Destroys a window; nothing happens when there is none. -/
def destroyWindow (desktop : Desktop) (window : WindowId) : Desktop :=
  if desktop.hasWindow window then
    { desktop with windows := desktop.windows.erase window }.record
      (.destroyWindow window)
  else
    desktop

def moveWindow (desktop : Desktop) (window : WindowId) (position : Point) :
    Desktop × Except DesktopError Unit :=
  match desktop.attempt (.moveWindow window position) with
  | (desktop, some report) => (desktop, .error (.system report))
  | (desktop, none) =>
      if !desktop.capabilities.reposition then
        (desktop, .error (.unsupported "window repositioning"))
      else if !desktop.hasWindow window then
        (desktop, .error (.windowNotFound window))
      else
        let moved := { desktop with
          windows := desktop.windows.modify window fun data =>
            { data with position := some position } }
        (moved.record (.moveWindow window position), .ok ())

def startSystemDrag (desktop : Desktop) (window : WindowId) (payload : DragPayload) :
    Desktop × Except DesktopError Unit :=
  match desktop.attempt (.startSystemDrag window payload) with
  | (desktop, some report) => (desktop, .error (.system report))
  | (desktop, none) =>
      if !desktop.capabilities.systemDrag then
        (desktop, .error (.unsupported "system drag-and-drop"))
      else if !desktop.hasWindow window then
        (desktop, .error (.windowNotFound window))
      else
        (desktop.record (.startSystemDrag window payload), .ok ())

def setDragCursor (desktop : Desktop) (image : CursorImage) :
    Desktop × Except DesktopError Unit :=
  match desktop.attempt (.setDragCursor image) with
  | (desktop, some report) => (desktop, .error (.system report))
  | (desktop, none) =>
      if !desktop.capabilities.cursorImage then
        (desktop, .error (.unsupported "image cursors"))
      else
        let shown := { desktop with cursor := some image }
        (shown.record (.setDragCursor image.width image.height image.hotspot), .ok ())

def clearDragCursor (desktop : Desktop) : Desktop :=
  { desktop with cursor := none }.record .clearDragCursor

def startInteractiveResize (desktop : Desktop) (window : WindowId) (edge : ResizeEdge) :
    Desktop × Except DesktopError Unit :=
  match desktop.attempt (.startInteractiveResize window edge) with
  | (desktop, some report) => (desktop, .error (.system report))
  | (desktop, none) =>
      if !desktop.capabilities.interactiveResize then
        (desktop, .error (.unsupported "interactive resize"))
      else if !desktop.hasWindow window then
        (desktop, .error (.windowNotFound window))
      else
        (desktop.record (.startInteractiveResize window edge), .ok ())

def confirm (desktop : Desktop) (title message : String) : Desktop × Bool :=
  (desktop.record (.confirm title message), desktop.confirmAnswer)

def countCalls (desktop : Desktop) (sort : DesktopCall → Bool) : Nat :=
  desktop.calls.countP sort

def lastMove? (desktop : Desktop) : Option (WindowId × Point) :=
  desktop.calls.reverse.findSome? fun
    | .moveWindow window position => some (window, position)
    | _ => none

end Desktop
end Docking

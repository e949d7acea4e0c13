import Docking.Colour

namespace Docking

/-! The widgets a tree holds. Docking needs no more of a widget than a label and a
background, through which the phase of a dockable is shown. -/

inductive Widget
  /-- A container, a drag handle or the body of a dockable. -/
  | panel (label : String) (background : Colour)
  | targetBox (label : String) (background : Colour)
  | plain
deriving DecidableEq, Inhabited

namespace Widget

def panelColour : Colour := .ofHex 0x2B2D31

def targetBoxColour : Colour := .ofPixel ⟨100, 150, 255, 80⟩

def newPanel (label : String) : Widget := .panel label panelColour

def newTargetBox : Widget := .targetBox "Dock here" targetBoxColour

def kindName : Widget → String
  | .panel .. => "Panel"
  | .targetBox .. => "DockingTargetBox"
  | .plain => "Plain"

def kindNames : List String := ["Panel", "DockingTargetBox", "Plain"]

def label : Widget → String
  | .panel label _ => label
  | .targetBox label _ => label
  | .plain => ""

def background : Widget → Colour
  | .panel _ background => background
  | .targetBox _ background => background
  | .plain => .transparent

def setLabel (label : String) : Widget → Widget
  | .panel _ background => .panel label background
  | .targetBox _ background => .targetBox label background
  | .plain => .plain

def setBackground (background : Colour) : Widget → Widget
  | .panel label _ => .panel label background
  | .targetBox label _ => .targetBox label background
  | .plain => .plain

def isPanel : Widget → Bool
  | .panel .. => true
  | _ => false

def isTargetBox : Widget → Bool
  | .targetBox .. => true
  | _ => false

@[simp] theorem isTargetBox_setLabel (label : String) (widget : Widget) :
    (widget.setLabel label).isTargetBox = widget.isTargetBox := by
  cases widget <;> rfl

@[simp] theorem isTargetBox_setBackground (background : Colour) (widget : Widget) :
    (widget.setBackground background).isTargetBox = widget.isTargetBox := by
  cases widget <;> rfl

end Widget
end Docking

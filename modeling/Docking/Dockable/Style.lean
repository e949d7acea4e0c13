import Docking.Colour
import Docking.Dockable.Phase

namespace Docking

/-! The looks through which the phase of a dockable is shown. -/

/-- A colour and, unless the widget keeps its own, a label. -/
structure Style where
  label : Option String
  colour : Colour
deriving BEq, DecidableEq, Inhabited

def Style.ofColour (colour : Colour) : Style := ⟨none, colour⟩

/-- The looks of a dockable; being over a target looks the same as being dragged. -/
structure Styles where
  undocked : Style
  dragging : Style
  docked : Style
deriving BEq, DecidableEq, Inhabited

namespace Styles

def standard : Styles where
  undocked := .ofColour (.ofHex 0x3A3D44)
  dragging := .ofColour (.ofHex 0x4A6FA5)
  docked := .ofColour (.ofHex 0x2B2D31)

def uniform (style : Style) : Styles := ⟨style, style, style⟩

def forPhase (styles : Styles) : Phase → Style
  | .undocked => styles.undocked
  | .dragging | .hovering => styles.dragging
  | .docked => styles.docked

def setPhase (styles : Styles) (phase : Phase) (style : Style) : Styles :=
  match phase with
  | .undocked => { styles with undocked := style }
  | .dragging | .hovering => { styles with dragging := style }
  | .docked => { styles with docked := style }

@[simp] theorem forPhase_setPhase (styles : Styles) (phase : Phase) (style : Style) :
    (styles.setPhase phase style).forPhase phase = style := by
  cases phase <;> rfl

end Styles
end Docking

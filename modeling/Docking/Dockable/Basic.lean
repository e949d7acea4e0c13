import Docking.Carrier.Basic
import Docking.Dockable.Style

namespace Docking

/-! A dockable: the state of a widget that can be torn out and docked. The widget itself
lives in the tree, under the node that names the dockable. -/

structure Dockable where
  /-- The strip by which it is dragged, if it has one. -/
  handle : Option NodeId
  phase : Phase
  styles : Styles
  /-- The target under the pointer that accepts it. -/
  activeTarget : Option NodeId
  /-- The container it was torn out of in the current drag. -/
  originTarget : Option NodeId
  press : Option Press
  carrier : Carrier
deriving DecidableEq, Inhabited

namespace Dockable

def window (dockable : Dockable) : Option WindowId := dockable.carrier.window

def isInFlight (dockable : Dockable) : Bool := dockable.phase.isInFlight

def style (dockable : Dockable) : Style := dockable.styles.forPhase dockable.phase

/-- The widget that shows the style: the handle, or else the dockable itself. -/
def styledNode (dockable : Dockable) (node : NodeId) : NodeId :=
  dockable.handle.getD node

def pressExceeds (dockable : Dockable) (threshold : Float32) : Bool :=
  match dockable.press with
  | some press => press.exceeds threshold
  | none => false

/-- Changes the phase; coming to rest undocked ends the press. -/
def withPhase (dockable : Dockable) (phase : Phase) : Dockable :=
  { dockable with
    phase
    press := if phase = .undocked then none else dockable.press }

def paint (dockable : Dockable) (node : NodeId) (tree : Tree) : Tree :=
  let styled := dockable.styledNode node
  let painted := tree.setBackground styled dockable.style.colour
  match dockable.style.label with
  | some label => painted.setLabel styled label
  | none => painted

def optionalText : Option NodeId → String
  | some node => "Some(" ++ node.text ++ ")"
  | none => "None"

def describe (dockable : Dockable) (node : NodeId) : String :=
  "Dockable \x7b node: " ++ node.text ++
    ", handle: " ++ optionalText dockable.handle ++
    ", state: " ++ dockable.phase.name ++
    ", active_target: " ++ optionalText dockable.activeTarget ++
    ", origin_target: " ++ optionalText dockable.originTarget ++
    ", driver: " ++ dockable.carrier.kind.name ++ " \x7d"

end Dockable

structure DockablePlan where
  label : String
  /-- For a free dockable the position is where its window opens, in root coordinates. -/
  layout : Rect
  handleHeight : Option Float32
  styles : Styles
  /-- The container to start in, and the index there unless it is to come last. -/
  container : Option (NodeId × Option Nat)
deriving DecidableEq, Inhabited

namespace DockablePlan

def new (label : String) : DockablePlan :=
  ⟨label, ⟨0, 0, 240, 160⟩, none, .standard, none⟩

def withExtent (plan : DockablePlan) (extent : Point) : DockablePlan :=
  { plan with layout := .placedAt plan.layout.position extent }

/-- Asks for a handle; a height below zero counts as zero. -/
def withHandle (plan : DockablePlan) (height : Float32) : DockablePlan :=
  { plan with handleHeight := some (larger 0 height) }

def withStyle (plan : DockablePlan) (phase : Phase) (style : Style) : DockablePlan :=
  { plan with styles := plan.styles.setPhase phase style }

end DockablePlan
end Docking

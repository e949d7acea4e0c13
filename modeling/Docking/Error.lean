import Docking.Desktop.Window
import Docking.Dockable.Phase

namespace Docking

inductive DockError
  | nodeNotFound (node : NodeId)
  | notADockable (node : NodeId)
  | dragInProgress (node : NodeId)
  | invalidState (node : NodeId) (phase : Phase)
  | noWindow (node : NodeId)
  | desktop (cause : DesktopError)
deriving DecidableEq, Inhabited

namespace DockError

def name : DockError → String
  | .nodeNotFound _ => "NodeNotFound"
  | .notADockable _ => "NotADockable"
  | .dragInProgress _ => "DragInProgress"
  | .invalidState .. => "InvalidState"
  | .noWindow _ => "NoWindow"
  | .desktop _ => "Host"

def message : DockError → String
  | .nodeNotFound node => "Node " ++ node.text ++ " not found"
  | .notADockable node => "Node " ++ node.text ++ " is not a dockable"
  | .dragInProgress node => "Dockable " ++ node.text ++ " is already being dragged"
  | .invalidState node phase =>
      "Dockable " ++ node.text ++ " cannot do that while " ++ phase.text
  | .noWindow node => "Dockable " ++ node.text ++ " has no window"
  | .desktop cause => "Host error: " ++ cause.message

def cause? : DockError → Option DesktopError
  | .desktop cause => some cause
  | _ => none

end DockError
end Docking

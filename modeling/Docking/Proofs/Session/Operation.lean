import Docking.Proofs.Session.Evolution

namespace Docking

/-! Everything an application can do, one step at a time: the calls and events of docking,
changes of the tree behind its back, and the application's own use of the windowing
system. -/

inductive Desktop.Command
  | setPointer (pointer : PointerState)
  | setAnswer (keep : Bool)
  | setFaults (faults : Faults)
  | forgetCalls
  | addWindow (position : Point) (size : Size)
  | createWindow (descriptor : WindowDescriptor)
  | destroyWindow (window : WindowId)
  | moveWindow (window : WindowId) (position : Point)
  | startSystemDrag (window : WindowId) (payload : DragPayload)
  | setDragCursor (image : CursorImage)
  | clearDragCursor
  | startInteractiveResize (window : WindowId) (edge : ResizeEdge)
  | confirm (title message : String)

def Desktop.obey (desktop : Desktop) : Command → Desktop
  | .setPointer pointer => { desktop with pointer }
  | .setAnswer keep => { desktop with confirmAnswer := keep }
  | .setFaults faults => { desktop with faults }
  | .forgetCalls => { desktop with calls := [] }
  | .addWindow position size => (desktop.addWindow position size).1
  | .createWindow descriptor => (desktop.createWindow descriptor).1
  | .destroyWindow window => desktop.destroyWindow window
  | .moveWindow window position => (desktop.moveWindow window position).1
  | .startSystemDrag window payload => (desktop.startSystemDrag window payload).1
  | .setDragCursor image => (desktop.setDragCursor image).1
  | .clearDragCursor => desktop.clearDragCursor
  | .startInteractiveResize window edge => (desktop.startInteractiveResize window edge).1
  | .confirm title message => (desktop.confirm title message).1

namespace Session

inductive Operation
  | edit (change : Tree.Edit)
  | command (command : Desktop.Command)
  | create (plan : DockablePlan)
  | destroyDockable (node : NodeId)
  | destroyWidget (node : NodeId)
  | syncDestroyed
  | tearOut (node : NodeId) (root : Point)
  | forceUndocked (node : NodeId)
  | startInteractiveResize (node : NodeId) (edge : ResizeEdge)
  | payloadEvent (node : NodeId) (event : Event)
  | targetEvent (target : NodeId) (event : Event) (hooks : Hooks)
  | takeNotices

def perform (session : Session) : Operation → Session
  | .edit change => { session with tree := session.tree.apply change }
  | .command command => { session with desktop := session.desktop.obey command }
  | .create plan => (session.create plan).1
  | .destroyDockable node => (session.destroyDockable node).1
  | .destroyWidget node => session.destroyWidget node
  | .syncDestroyed => session.syncDestroyed
  | .tearOut node root => (session.tearOut node root).1
  | .forceUndocked node => (session.forceUndocked node).1
  | .startInteractiveResize node edge => (session.startInteractiveResize node edge).1
  | .payloadEvent node event => (session.payloadEvent node event).1
  | .targetEvent target event hooks => (session.targetEvent target event hooks).session
  | .takeNotices => session.takeNotices.1

def run (session : Session) (operations : List Operation) : Session :=
  operations.foldl perform session

@[simp] theorem run_nil (session : Session) : session.run [] = session :=
  rfl

@[simp] theorem run_cons (session : Session) (first : Operation) (rest : List Operation) :
    session.run (first :: rest) = (session.perform first).run rest :=
  rfl

theorem run_append (session : Session) (early late : List Operation) :
    session.run (early ++ late) = (session.run early).run late :=
  List.foldl_append

theorem evolves_perform (session : Session) (operation : Operation) :
    Tree.Evolves session.tree (session.perform operation).tree := by
  cases operation with
  | edit change => exact .apply session.tree change
  | command command => exact .refl _
  | create plan => exact session.evolves_create plan
  | destroyDockable node => exact session.evolves_destroyDockable node
  | destroyWidget node => exact session.evolves_destroyWidget node
  | syncDestroyed => exact session.evolves_syncDestroyed
  | tearOut node root => exact session.evolves_tearOut node root
  | forceUndocked node => exact session.evolves_forceUndocked node
  | startInteractiveResize node edge =>
      rw [perform, tree_startInteractiveResize]
      exact .refl _
  | payloadEvent node event => exact session.evolves_payloadEvent node event
  | targetEvent target event hooks => exact session.evolves_targetEvent target hooks event
  | takeNotices => exact .refl _

def Reachable (session : Session) : Prop :=
  ∃ desktop settings operations, session = (start desktop settings).run operations

theorem run_induction {motive : Session → Prop} {session : Session} (start : motive session)
    (step : ∀ session operation, motive session → motive (session.perform operation))
    (operations : List Operation) : motive (session.run operations) := by
  induction operations generalizing session with
  | nil => exact start
  | cons operation rest induction => exact induction (step session operation start)

end Session
end Docking

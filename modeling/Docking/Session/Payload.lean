import Docking.Session.Flight

namespace Docking.Session

/-! Events that hit a dockable or its handle. -/

def missesHandle (session : Session) (dockable : Dockable) (root : Point) : Bool :=
  match dockable.handle with
  | some handle => !session.hits handle root
  | none => false

/-- What an event means by itself, whatever the pointer gesture: the loss of the grab or
of the carrying window, a press beside the handle, the end of a system drag. -/
def interruption? (session : Session) (node : NodeId) (dockable : Dockable) :
    Event → Option (Session × Status)
  | .grabLost =>
      if dockable.isInFlight then
        some (session.settleUndocked node session.desktop.pointer.root, .handledFully)
      else none
  | .focusLost lost =>
      if dockable.isInFlight && dockable.window = some lost then
        some (session.settleUndocked node session.desktop.pointer.root, .handledFully)
      else none
  | .pointerDown .primary root =>
      if missesHandle session dockable root then
        some (session.update node fun dockable => { dockable with press := none },
          if dockable.phase = .docked then .understoodOnly else .ignored)
      else none
  | .closeRequested closed =>
      if dockable.window = some closed then
        some
          (if dockable.isInFlight then
              session.settleUndocked node session.desktop.pointer.root
            else if dockable.phase = .undocked then session.destroyWidget node
            else session,
            .handledFully)
      else none
  | .dndFinished _ =>
      if dockable.isInFlight then
        some (session.releaseUndocked node session.desktop.pointer.root, .handledFully)
      else none
  | _ => none

def respond (session : Session) (node : NodeId) (phase : Phase) :
    Gesture → Session × Status
  | .ignored => (session, .ignored)
  | .pressed _ =>
      (session, if phase = .docked then .understoodOnly else .handledFully)
  | .motion root =>
      match phase with
      | .docked => (session, .understoodOnly)
      | .undocked =>
          let armed := match session.dockable? node with
            | some dockable => dockable.pressExceeds session.settings.dragThreshold
            | none => false
          (if armed then (session.tearOut node root).1 else session, .handledFully)
      | .dragging | .hovering => (session, .handledFully)
  | .released root =>
      match phase with
      | .docked => (session, .understoodOnly)
      | .undocked => (session, .handledFully)
      | .dragging => (session.releaseUndocked node root, .handledFully)
      | .hovering =>
          match (session.dockable? node).bind Dockable.activeTarget with
          | some target => (session.notify target (.dockRelease root), .handledFully)
          | none => (session.releaseUndocked node root, .handledFully)

def gesture (session : Session) (node : NodeId) (dockable : Dockable)
    (event : Event) : Session × Status :=
  let (scene, press, gesture) := dockable.carrier.handle session.toScene dockable.press
    dockable.isInFlight event
  respond ({ session with toScene := scene }.update node fun dockable =>
    { dockable with press }) node dockable.phase gesture

/-- Handles an event that hit a dockable or its handle. An event that was understood but
not handled should go on to the container. -/
def payloadEvent (session : Session) (node : NodeId) (event : Event) : Session × Status :=
  match session.dockable? node with
  | none => (session, .ignored)
  | some dockable =>
      match interruption? session node dockable event with
      | some outcome => outcome
      | none => gesture session node dockable event

end Docking.Session

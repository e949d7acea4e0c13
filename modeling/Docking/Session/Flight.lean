import Docking.Session.Registry

namespace Docking.Session

/-! How a drag begins and how it ends other than by docking. -/

structure TearOut where
  root : Point
  /-- The pointer position within the dockable. -/
  grab : Point
  origin : Option NodeId
  /-- The parent and index it had, if it was already detached. -/
  slot : Option (NodeId × Nat)
deriving DecidableEq, Inhabited

def otherInFlight? (session : Session) (node : NodeId) : Option NodeId :=
  session.inFlight.filter fun other => other ≠ node

/-- Undoes a tear-out that failed: back into the former slot, or else to rest in a window
of its own. -/
def undoTearOut (session : Session) (node : NodeId) (layout : Rect)
    (former : Option (NodeId × Nat)) (root : Point) : Session :=
  let grounded := session.withCarrier node fun carrier scene =>
    carrier.beforeDock scene node
  match former with
  | some (parent, index) =>
      { grounded with
        tree := (grounded.tree.insertChild parent index node).place node layout }
  | none =>
      ((grounded.settleCarrier node root).withCarrier node Carrier.afterRelease).enterPhase
        node .undocked

/-- Detaches a dockable and hands it to its carrier, unless another is in flight. When
the carrier fails, the dockable goes back to where it was. -/
def beginDrag (session : Session) (node : NodeId) (tearOut : TearOut) :
    Session × Except DockError Unit :=
  match otherInFlight? session node, session.tree.layout? node with
  | some other, _ => (session, .error (.dragInProgress other))
  | none, none => (session, .error (.nodeNotFound node))
  | none, some layout =>
      let detached := session.tree.detach node
      let former := detached.2.or tearOut.slot
      let freed := { session with tree := detached.1 }
      match freed.tryCarrier node fun carrier scene =>
          carrier.undock scene session.settings node tearOut.root tearOut.grab with
      | (attempted, none) => (attempted, .error (.notADockable node))
      | (attempted, some (.error error)) =>
          (undoTearOut attempted node layout former tearOut.root, .error (.desktop error))
      | (attempted, some (.ok ())) =>
          let launched := attempted.update node fun dockable =>
            { dockable with activeTarget := none, originTarget := tearOut.origin }
          ({ launched.enterPhase node .dragging with inFlight := some node }, .ok ())

/-- Tears a dockable out into flight with the pointer at `root`; in flight it stays as it
is. From a container no placeholder is left behind. -/
def tearOut (session : Session) (node : NodeId) (root : Point) :
    Session × Except DockError Unit :=
  match session.dockable? node with
  | none => (session, .error (.notADockable node))
  | some dockable =>
      if dockable.isInFlight then (session, .ok ())
      else
        match session.screenRect? node with
        | none => (session, .error (.nodeNotFound node))
        | some rect =>
            session.beginDrag node
              { root
                grab := root - rect.position
                origin := if dockable.phase = .docked then session.tree.parent? node else none
                slot := none }

def leaveActiveTarget (session : Session) (node : NodeId) : Session :=
  match (session.dockable? node).bind Dockable.activeTarget with
  | none => session
  | some target =>
      (session.update node fun dockable => { dockable with activeTarget := none }).notify
        target .dockLeave

def settleUndocked (session : Session) (node : NodeId) (root : Point) : Session :=
  let settled := ((leaveActiveTarget session node).settleCarrier node root).withCarrier node
    Carrier.afterRelease
  let rested := (settled.update node fun dockable =>
    { dockable with originTarget := none }).enterPhase node .undocked
  if rested.inFlight = some node then { rested with inFlight := none } else rested

/-- Release over empty space: comes to rest and, if so set, asks whether to keep it. -/
def releaseUndocked (session : Session) (node : NodeId) (root : Point) : Session :=
  let settled := session.settleUndocked node root
  if settled.settings.confirmOnRelease then
    let asked := settled.desktop.confirm settled.settings.confirmTitle
      settled.settings.confirmMessage
    let answered := { settled with desktop := asked.1 }
    if asked.2 then answered else answered.destroyWidget node
  else
    settled

def forceUndocked (session : Session) (node : NodeId) : Session × Except DockError Unit :=
  match session.dockable? node with
  | none => (session, .error (.notADockable node))
  | some dockable =>
      match dockable.phase with
      | .undocked => (session, .ok ())
      | .docked => (session, .error (.invalidState node .docked))
      | .dragging | .hovering =>
          (session.settleUndocked node session.desktop.pointer.root, .ok ())

def startInteractiveResize (session : Session) (node : NodeId) (edge : ResizeEdge) :
    Session × Except DockError Unit :=
  match session.dockable? node with
  | none => (session, .error (.notADockable node))
  | some dockable =>
      if dockable.window.isNone then (session, .error (.noWindow node))
      else
        let (scene, result) := dockable.carrier.startInteractiveResize session.toScene edge
        ({ session with toScene := scene }, result.mapError .desktop)

end Docking.Session

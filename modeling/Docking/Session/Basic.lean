import Docking.Dockable.Basic
import Docking.Error
import Docking.Target.Hooks

namespace Docking

/-! The state of docking: the dockables, the one that is being dragged, and the
notifications that wait for delivery, on top of the tree and the windowing system. -/

/-- An event that waits to be handed to a target. -/
structure Notice where
  target : NodeId
  event : Event
deriving DecidableEq, Inhabited

structure Session extends Scene where
  settings : Settings
  /-- The live dockables under the nodes they consist of, in order of creation. -/
  dockables : Table NodeId Dockable
  inFlight : Option NodeId
  /-- Notifications not yet taken for delivery, oldest first. -/
  outbox : List Notice

namespace Session

def start (desktop : Desktop) (settings : Settings) : Session where
  tree := .empty
  desktop
  settings
  dockables := .empty
  inFlight := none
  outbox := []

def dockable? (session : Session) (node : NodeId) : Option Dockable :=
  session.dockables.get? node

def dockableForWindow? (session : Session) (window : WindowId) : Option NodeId :=
  session.dockables.findKey? fun _ dockable => dockable.window = some window

def notify (session : Session) (target : NodeId) (event : Event) : Session :=
  { session with outbox := session.outbox ++ [⟨target, event⟩] }

def takeNotices (session : Session) : Session × List Notice :=
  ({ session with outbox := [] }, session.outbox)

def update (session : Session) (node : NodeId) (change : Dockable → Dockable) : Session :=
  { session with dockables := session.dockables.modify node change }

def repaint (session : Session) (node : NodeId) : Session :=
  match session.dockable? node with
  | none => session
  | some dockable => { session with tree := dockable.paint node session.tree }

def enterPhase (session : Session) (node : NodeId) (phase : Phase) : Session :=
  (session.update node fun dockable => dockable.withPhase phase).repaint node

/-- Lets the carrier of a dockable act on the scene. -/
def withCarrier (session : Session) (node : NodeId)
    (action : Carrier → Scene → Carrier × Scene) : Session :=
  match session.dockable? node with
  | none => session
  | some dockable =>
      let left := action dockable.carrier session.toScene
      { session with toScene := left.2 }.update node fun dockable =>
        { dockable with carrier := left.1 }

def tryCarrier (session : Session) (node : NodeId)
    (action : Carrier → Scene → Carrier.Outcome (Except DesktopError Unit)) :
    Session × Option (Except DesktopError Unit) :=
  match session.dockable? node with
  | none => (session, none)
  | some dockable =>
      let outcome := action dockable.carrier session.toScene
      ({ session with toScene := outcome.scene }.update node fun dockable =>
          { dockable with carrier := outcome.carrier },
        some outcome.result)

def settleCarrier (session : Session) (node : NodeId) (root : Point) : Session :=
  (session.tryCarrier node fun carrier scene =>
    carrier.settle scene session.settings node root).1

end Session
end Docking

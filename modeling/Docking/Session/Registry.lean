import Docking.Session.Basic

namespace Docking.Session

/-! How dockables are registered and how they leave: creation, destruction, and catching
up with what was destroyed in the tree. -/

structure BuiltWidgets where
  tree : Tree
  body : NodeId
  handle : Option NodeId

def buildWidgets (tree : Tree) (plan : DockablePlan) : BuiltWidgets :=
  let body := tree.nextId
  let bodied := tree.add (.newPanel plan.label) plan.layout
  match plan.handleHeight with
  | none => ⟨bodied, body, none⟩
  | some height =>
      let handle := bodied.nextId
      let strip := { plan.layout with height := smaller height plan.layout.height }
      ⟨(bodied.add (.newPanel plan.label) strip).addChild body handle, body, some handle⟩

def newDockable (session : Session) (plan : DockablePlan)
    (handle : Option NodeId) : Dockable where
  handle
  phase := if plan.container.isSome then .docked else .undocked
  styles := plan.styles
  activeTarget := none
  originTarget := none
  press := none
  carrier := .new
    (.choose session.settings.forcedCarrier session.desktop.capabilities)

def giveFirstPlace (session : Session) (plan : DockablePlan) (node : NodeId) :
    Session :=
  match plan.container with
  | some (container, index) =>
      let last := (session.tree.children container).length
      { session with
        tree := session.tree.insertChild container (index.getD last) node }
  | none => session.settleCarrier node plan.layout.position

def build (session : Session) (plan : DockablePlan) : Session × NodeId :=
  let built := buildWidgets session.tree plan
  let registered := { session with
    tree := built.tree
    dockables := session.dockables.insert built.body
      (newDockable session plan built.handle) }
  ((giveFirstPlace registered plan built.body).repaint built.body, built.body)

/-- Makes a dockable. One planned for a container starts docked there; another starts
undocked in its own window, or without one when none can be opened. -/
def create (session : Session) (plan : DockablePlan) : Session × Except DockError NodeId :=
  match plan.container with
  | some (container, _) =>
      if session.tree.contains container then
        let built := session.build plan
        (built.1, .ok built.2)
      else
        (session, .error (.nodeNotFound container))
  | none =>
      let built := session.build plan
      (built.1, .ok built.2)

def forgetDockable (destroyed : List NodeId) (session : Session)
    (node : NodeId) : Session :=
  match session.dockable? node with
  | none => session
  | some dockable =>
      let released := dockable.carrier.release session.toScene node
      let left := { session with
        toScene := released.2
        dockables := session.dockables.erase node }
      if session.inFlight = some node then
        let landed := { left with inFlight := none }
        match dockable.activeTarget with
        | none => landed
        | some target =>
            if destroyed.contains target then landed else landed.notify target .dockLeave
      else
        left

def leadsInto (destroyed : List NodeId) : Option NodeId → Bool
  | some node => destroyed.contains node
  | none => false

def forgetTargets (destroyed : List NodeId) (session : Session)
    (node : NodeId) : Session :=
  match session.dockable? node with
  | none => session
  | some dockable =>
      let cleared := session.update node fun dockable =>
        { dockable with
          originTarget :=
            if leadsInto destroyed dockable.originTarget then none
            else dockable.originTarget
          activeTarget :=
            if leadsInto destroyed dockable.activeTarget then none
            else dockable.activeTarget }
      if leadsInto destroyed dockable.activeTarget && dockable.phase = .hovering then
        cleared.enterPhase node .dragging
      else
        cleared

/-- Catches up with the destructions recorded by the tree. Destroyed dockables leave,
with their windows; references to destroyed targets are cleared. -/
def syncDestroyed (session : Session) : Session :=
  match session.tree.destroyed with
  | [] => session
  | destroyed =>
      let taken := { session with tree := session.tree.forgetDestroyed }
      let left := destroyed.foldl (forgetDockable destroyed) taken
      left.dockables.keys.foldl (forgetTargets destroyed) left

def destroyWidget (session : Session) (node : NodeId) : Session :=
  { session with tree := (session.tree.destroy node).1 }.syncDestroyed

def destroyDockable (session : Session) (node : NodeId) :
    Session × Except DockError Unit :=
  if session.dockables.contains node then (session.destroyWidget node, .ok ())
  else (session, .error (.notADockable node))

end Docking.Session

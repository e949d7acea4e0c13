import Docking.Session.Flight

namespace Docking.Session

/-! Events that hit a docking target. -/

/-- What an event on a target led to, with the consultations of its hooks in order. -/
structure Reaction where
  session : Session
  status : Status
  consulted : List HookCall

/-- An event as the carrier in flight wants it understood. -/
def remap (session : Session) (event : Event) : Event :=
  if event.isSystemDrag then
    ((session.inFlight.bind session.dockable?).bind fun dockable =>
      dockable.carrier.remap? session.settings event).getD event
  else
    event

/-- Whether a target may never take a dockable: it is the dockable itself, lies below it,
or is the container it was just torn out of. -/
def refusesItself (session : Session) (target dragged : NodeId) : Bool :=
  target = dragged || session.tree.isAncestor dragged target ||
    ((session.dockable? dragged).bind Dockable.originTarget) = some target

def giveFeedback (session : Session) (hooks : Hooks) (target : NodeId)
    (shown : Bool) : Session × List HookCall :=
  let told := hooks.runFeedback session.tree target shown
  ({ session with tree := told.1 }, told.2)

/-- Whether the dockable may go to the target and the pointer is within it. The filter is
asked first, and the hit test only if the filter agrees. -/
def isCandidate (session : Session) (target dragged : NodeId) (root : Point)
    (hooks : Hooks) : Bool × List HookCall :=
  if session.refusesItself target dragged then (false, [])
  else
    let accepted := hooks.runAccept session.tree target dragged
    if accepted.1 then
      let hit := hooks.runHitTest session.toScene target root
      (hit.1, accepted.2 ++ hit.2)
    else
      (false, accepted.2)

def dropCandidate (session : Session) (dragged : NodeId) : Session :=
  (session.update dragged fun dockable =>
    { dockable with activeTarget := none }).enterPhase dragged .dragging

def takeOver (session : Session) (target dragged : NodeId)
    (previous : Option NodeId) : Session :=
  let told := match previous with
    | some previous => session.notify previous .dockLeave
    | none => session
  (told.update dragged fun dockable =>
    { dockable with activeTarget := some target }).enterPhase dragged .hovering

def targetMotion (session : Session) (target dragged : NodeId) (root : Point)
    (hooks : Hooks) : Reaction :=
  let candidate := isCandidate session target dragged root hooks
  match session.dockable? dragged with
  | none => ⟨session, .ignored, candidate.2⟩
  | some dockable =>
      if !candidate.1 then
        if dockable.activeTarget = some target then
          let told := giveFeedback session hooks target false
          ⟨dropCandidate told.1 dragged, .understoodOnly, candidate.2 ++ told.2⟩
        else
          ⟨session, .understoodOnly, candidate.2⟩
      else
        match dockable.activeTarget with
        | some current =>
            if current = target then ⟨session, .handledFully, candidate.2⟩
            else if session.tree.isAncestor target current then
              -- the nested target under the pointer keeps priority
              ⟨session, .understoodOnly, candidate.2⟩
            else
              let told := giveFeedback (takeOver session target dragged (some current))
                hooks target true
              ⟨told.1, .handledFully, candidate.2 ++ told.2⟩
        | none =>
            let told := giveFeedback (takeOver session target dragged none) hooks target
              true
            ⟨told.1, .handledFully, candidate.2 ++ told.2⟩

def targetLeave (session : Session) (target : NodeId) (hooks : Hooks) : Reaction :=
  let told := giveFeedback session hooks target false
  let left := match session.inFlight with
    | none => told.1
    | some dragged =>
        if (told.1.dockable? dragged).bind Dockable.activeTarget = some target then
          dropCandidate told.1 dragged
        else told.1
  ⟨left, .handledFully, told.2⟩

def turnAway (session : Session) (target dragged : NodeId) (root : Point)
    (hooks : Hooks) : Session × List HookCall :=
  let told := giveFeedback session hooks target false
  let cleared := told.1.update dragged fun dockable =>
    { dockable with activeTarget := none }
  (cleared.releaseUndocked dragged root, told.2)

def land (session : Session) (dragged : NodeId) : Session :=
  let released := session.withCarrier dragged Carrier.afterRelease
  let docked := (released.update dragged fun dockable =>
    { dockable with activeTarget := none, originTarget := none, press := none }).enterPhase
      dragged .docked
  { docked with inFlight := none }.syncDestroyed

/-- A release over the active target: the filter is asked once more and the dockable is
inserted. One that is left without a parent comes to rest undocked. -/
def dock (session : Session) (target dragged : NodeId) (root : Point)
    (hooks : Hooks) : Reaction :=
  let accepted := hooks.runAccept session.tree target dragged
  if accepted.1 then
    let freed := session.withCarrier dragged fun carrier scene =>
      carrier.beforeDock scene dragged
    let inserted := hooks.runInsert freed.tree target dragged
    let placed := { freed with tree := inserted.1 }
    match placed.tree.parent? dragged with
    | none =>
        let away := turnAway placed target dragged root hooks
        ⟨away.1, .handledFully, accepted.2 ++ inserted.2 ++ away.2⟩
    | some _ =>
        let told := giveFeedback placed hooks target false
        ⟨land told.1 dragged, .handledFully, accepted.2 ++ inserted.2 ++ told.2⟩
  else
    let away := turnAway session target dragged root hooks
    ⟨away.1, .handledFully, accepted.2 ++ away.2⟩

/-- The first registered dockable docked into `target` whose press has travelled past the
tear-out threshold. -/
def armedChild? (session : Session) (target : NodeId) : Option NodeId :=
  session.dockables.findKey? fun node dockable =>
    dockable.phase = .docked && session.tree.parent? node = some target &&
      dockable.pressExceeds session.settings.tearOutThreshold

/-- The placeholder that a removal left right behind the slot of a dockable. -/
def placeholderBehind? (tree : Tree) (node : NodeId)
    (slot : Option (NodeId × Nat)) : Option NodeId :=
  match slot with
  | none => none
  | some (parent, index) =>
      ((tree.children parent)[index + 1]?).filter fun sibling =>
        tree.isTargetBox sibling &&
          match tree.layout? sibling, tree.layout? node with
          | some left, some right => left == right
          | none, none => true
          | _, _ => false

def tearOutChild (session : Session) (target : NodeId) (root : Point)
    (hooks : Hooks) : Reaction :=
  match session.armedChild? target with
  | none => ⟨session, .ignored, []⟩
  | some node =>
      match session.screenRect? node with
      | none => ⟨session, .ignored, []⟩
      | some rect =>
          let slot := (session.tree.parent? node).bind fun parent =>
            (session.tree.indexOf? node).map fun index => (parent, index)
          let removed := hooks.runRemove session.tree target node
          let freed := { session with tree := (removed.1.detach node).1 }
          match freed.beginDrag node
              { root, grab := root - rect.position, origin := some target, slot } with
          | (flying, .ok ()) =>
              ⟨flying.notify target (.undock node), .handledFully, removed.2⟩
          | (failed, .error _) =>
              let calmed := failed.update node fun dockable =>
                { dockable with press := none }
              let tidied := match placeholderBehind? calmed.tree node slot with
                | some placeholder => calmed.destroyWidget placeholder
                | none => calmed
              ⟨tidied, .understoodOnly, removed.2⟩

/-- A release counts only on the active target. -/
def targetRelease (session : Session) (target dragged : NodeId) (root : Point)
    (hooks : Hooks) : Reaction :=
  if (session.dockable? dragged).bind Dockable.activeTarget = some target then
    dock session target dragged root hooks
  else
    ⟨session, .ignored, []⟩

def targetInFlight (session : Session) (target dragged : NodeId) (hooks : Hooks) :
    Event → Reaction
  | .pointerMove root => targetMotion session target dragged root hooks
  | .dockEnter root => targetMotion session target dragged root hooks
  | .dockDrag root => targetMotion session target dragged root hooks
  | .pointerUp .primary root => targetRelease session target dragged root hooks
  | .dockRelease root => targetRelease session target dragged root hooks
  | _ => ⟨session, .ignored, []⟩

def targetAtRest (session : Session) (target : NodeId) (hooks : Hooks) :
    Event → Reaction
  | .pointerMove root => tearOutChild session target root hooks
  | _ => ⟨session, .ignored, []⟩

def targetEvent (session : Session) (target : NodeId) (event : Event) (hooks : Hooks) :
    Reaction :=
  match session.remap event with
  | .undock _ => ⟨session, .understoodOnly, []⟩
  | .dockLeave => targetLeave session target hooks
  | meant =>
      match session.inFlight with
      | none => targetAtRest session target hooks meant
      | some dragged => targetInFlight session target dragged hooks meant

end Docking.Session

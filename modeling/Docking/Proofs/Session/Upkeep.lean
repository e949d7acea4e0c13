import Docking.Proofs.Session.Operation
import Docking.Proofs.Session.Reference

namespace Docking

/-! Every operation keeps track of the nodes that dockables refer to, unless the application or
a hook of its own empties the record of destructions. -/

open Docking.Tree (Retains Traces)

/-- The hooks leave the record of destructions alone, and only a target that is there is hit. -/
structure Hooks.KeepsRecord (hooks : Hooks) : Prop where
  feedback : ∀ feedback, hooks.feedback = some feedback →
    ∀ tree target shown, .forgetDestroyed ∉ feedback tree target shown
  insert : ∀ insert, hooks.insert = some insert →
    ∀ tree target node, .forgetDestroyed ∉ insert tree target node
  remove : ∀ remove, hooks.remove = some remove →
    ∀ tree target node, .forgetDestroyed ∉ remove tree target node
  hitTest : hooks.hitTest.getD Scene.hits = Scene.hits

theorem Hooks.keepsRecord_readyMade : Hooks.readyMade.KeepsRecord where
  feedback _ given := nomatch given
  insert insert given tree target node := by
    cases given
    exact tree.forgetDestroyed_not_mem_insertAtTarget target node
  remove remove given tree target node := by
    cases given
    exact tree.forgetDestroyed_not_mem_removeLeavingBox node
  hitTest := rfl

namespace Hooks.KeepsRecord

variable {hooks : Hooks} (keeps : hooks.KeepsRecord)
include keeps

theorem traces_runFeedback (tree : Tree) (target : NodeId) (shown : Bool) :
    Traces tree (hooks.runFeedback tree target shown).1 := by
  unfold runFeedback
  split
  · next feedback given =>
      split
      · exact tree.traces_edit (keeps.feedback feedback given tree target shown)
      · exact .refl tree
  · exact .refl tree

theorem traces_runInsert (tree : Tree) (target node : NodeId) :
    Traces tree (hooks.runInsert tree target node).1 := by
  unfold runInsert
  cases given : hooks.insert with
  | none => exact tree.traces_edit (tree.forgetDestroyed_not_mem_insertAtTarget target node)
  | some insert => exact tree.traces_edit (keeps.insert insert given tree target node)

theorem traces_runRemove (tree : Tree) (target node : NodeId) :
    Traces tree (hooks.runRemove tree target node).1 := by
  unfold runRemove
  cases given : hooks.remove with
  | none => exact (Retains.detach tree node).traces
  | some remove => exact tree.traces_edit (keeps.remove remove given tree target node)

end Hooks.KeepsRecord

namespace Session

variable {session : Session} {node target : NodeId} {hooks : Hooks}

theorem contains_of_isCandidate (keeps : hooks.KeepsRecord) {root : Point}
    (inside : (session.isCandidate target node root hooks).1 = true) :
    session.tree.contains target = true := by
  unfold isCandidate Hooks.runHitTest at inside
  rw [keeps.hitTest] at inside
  split at inside
  · cases inside
  · dsimp only at inside
    split at inside
    · unfold Scene.hits at inside
      split at inside
      · next rect shown =>
          obtain ⟨layout, placed, _⟩ := Option.map_eq_some_iff.mp shown
          exact Tree.contains_of_layout? placed
      · cases inside
    · cases inside

namespace Anchored

variable (anchored : session.Anchored)
include anchored

theorem tearOut (node : NodeId) (root : Point) : (session.tearOut node root).1.Anchored := by
  unfold Session.tearOut
  split
  · exact anchored
  · next dockable found =>
      split
      · exact anchored
      · split
        · exact anchored
        · refine anchored.beginDrag node _ fun reference origin => ?_
          dsimp only at origin
          split at origin
          · exact .inl (anchored.wellFormed.contains_parent origin)
          · cases origin

theorem forceUndocked (node : NodeId) : (session.forceUndocked node).1.Anchored := by
  unfold Session.forceUndocked
  split
  · exact anchored
  · split
    · exact anchored
    · exact anchored
    · exact anchored.settleUndocked node _
    · exact anchored.settleUndocked node _

theorem create (plan : DockablePlan) :
    (session.create plan).1.Anchored := by
  have bodied := Retains.add session.tree (.newPanel plan.label) plan.layout
  have retains := session.retains_build plan
  have built : (session.build plan).1.Anchored := by
    refine anchored.make _ (session.flight_build plan) (bodied.trans retains).traces ?_
    intro reference introduces
    cases introduces
    refine .inl (retains.contains (bodied.wellFormed anchored.wellFormed) _ ?_)
    rw [Tree.contains_eq_isSome, Tree.mooring?_add, if_pos rfl]
    rfl
  unfold Session.create
  split
  · split
    · exact built
    · exact anchored
  · exact built

theorem interruption? {dockable : Dockable} {event : Event} {outcome : Session × Status}
    (interrupted : session.interruption? node dockable event = some outcome) :
    outcome.1.Anchored := by
  unfold Session.interruption? at interrupted
  split at interrupted
  · split at interrupted
    · cases interrupted
      exact anchored.settleUndocked node _
    · cases interrupted
  · split at interrupted
    · cases interrupted
      exact anchored.settleUndocked node _
    · cases interrupted
  · split at interrupted
    · cases interrupted
      exact anchored.update node _ (fun _ => .inr rfl) fun _ => .inr rfl
    · cases interrupted
  · split at interrupted
    · cases interrupted
      dsimp only
      split
      · exact anchored.settleUndocked node _
      · split
        · exact anchored.destroyWidget node
        · exact anchored
    · cases interrupted
  · split at interrupted
    · cases interrupted
      exact anchored.releaseUndocked node _
    · cases interrupted
  · cases interrupted

theorem respond (phase : Phase) (gesture : Gesture) :
    (session.respond node phase gesture).1.Anchored := by
  cases gesture with
  | ignored => exact anchored
  | pressed root => exact anchored
  | motion root =>
      cases phase with
      | undocked =>
          dsimp only [Session.respond]
          split
          · split
            · exact anchored.tearOut node root
            · exact anchored
          · exact anchored
      | dragging => exact anchored
      | hovering => exact anchored
      | docked => exact anchored
  | released root =>
      cases phase with
      | undocked => exact anchored
      | dragging => exact anchored.releaseUndocked node root
      | hovering =>
          dsimp only [Session.respond]
          split
          · exact anchored.stay rfl (.refl _)
          · exact anchored.releaseUndocked node root
      | docked => exact anchored

theorem payloadEvent (node : NodeId) (event : Event) :
    (session.payloadEvent node event).1.Anchored := by
  unfold Session.payloadEvent
  split
  · exact anchored
  · next dockable found =>
      split
      · next interrupted => exact anchored.interruption? interrupted
      · have handled := dockable.carrier.tree_handle session.toScene dockable.press
          dockable.isInFlight event
        unfold Session.gesture
        generalize dockable.carrier.handle session.toScene dockable.press dockable.isInFlight
          event = outcome at handled ⊢
        obtain ⟨scene, press, gesture⟩ := outcome
        have moved : ({ session with toScene := scene } : Session).Anchored := by
          refine anchored.stay rfl ?_
          rw [handled]
          exact .refl _
        have pressed := moved.update node (fun dockable => { dockable with press })
          (fun _ => .inr rfl) fun _ => .inr rfl
        exact pressed.respond dockable.phase gesture

variable (keeps : hooks.KeepsRecord)
include keeps

theorem giveFeedback (target : NodeId) (shown : Bool) :
    (session.giveFeedback hooks target shown).1.Anchored :=
  anchored.stay rfl (keeps.traces_runFeedback session.tree target shown)

omit keeps in
theorem dropCandidate (node : NodeId) : (session.dropCandidate node).Anchored := by
  have cleared := anchored.update node (fun dockable =>
    { dockable with activeTarget := none }) (fun _ => .inl rfl) fun _ => .inr rfl
  exact cleared.enterPhase node .dragging

theorem targetLeave (target : NodeId) : (session.targetLeave target hooks).session.Anchored := by
  have told := anchored.giveFeedback keeps target false
  unfold Session.targetLeave
  dsimp only
  split
  · exact told
  · split
    · exact told.dropCandidate _
    · exact told

theorem targetMotion (node target : NodeId) (root : Point) :
    (session.targetMotion target node root hooks).session.Anchored := by
  have moved := session.moved_targetMotion node target hooks root
  generalize session.targetMotion target node root hooks = reaction at moved ⊢
  cases moved with
  | unknown missing => exact anchored
  | refused found outside elsewhere => exact anchored
  | left found outside aims => exact (anchored.giveFeedback keeps target false).dropCandidate node
  | kept found inside keepsAim => exact anchored
  | taken found inside takes =>
      have aims := session.activeTarget?_flight node
      rw [found, Option.bind_some] at aims
      have retains : Retains session.tree
          (session.takeOver target node (session.flight.activeTarget? node)).tree := by
        unfold takeOver
        split
        · exact retains_enterPhase ((session.notify _ .dockLeave).update node _) node .hovering
        · exact retains_enterPhase (session.update node _) node .hovering
      have hovering := anchored.make _ (flight_takeOver target session node) retains.traces
        fun reference introduces => by
          cases introduces
          exact .inl (retains.contains anchored.wellFormed _ (contains_of_isCandidate keeps inside))
      rw [aims] at hovering
      exact hovering.giveFeedback keeps target true

theorem turnAway (target node : NodeId) (root : Point) :
    (session.turnAway target node root hooks).1.Anchored := by
  have told := anchored.giveFeedback keeps target false
  have cleared := told.update node (fun dockable =>
    { dockable with activeTarget := none }) (fun _ => .inl rfl) fun _ => .inr rfl
  exact cleared.releaseUndocked node root

omit keeps in
theorem land (node : NodeId) : (session.land node).Anchored := by
  have released : (session.withCarrier node Carrier.afterRelease).Anchored := by
    refine anchored.stay (congrArg Flight.standing? (session.flight_withCarrier node _)) ?_
    rw [tree_withCarrier_afterRelease]
    exact .refl _
  have cleared := released.update node (fun dockable =>
    { dockable with activeTarget := none, originTarget := none, press := none })
    (fun _ => .inl rfl) fun _ => .inl rfl
  have docked := cleared.enterPhase node .docked
  unfold Session.land
  dsimp only
  refine Anchored.syncDestroyed ?_
  exact docked.stay rfl (.refl _)

theorem dock (target node : NodeId) (root : Point) :
    (session.dock target node root hooks).session.Anchored := by
  have freed : (session.withCarrier node fun carrier scene =>
      carrier.beforeDock scene node).Anchored :=
    anchored.stay (congrArg Flight.standing? (session.flight_withCarrier node _))
      (session.retains_beforeDock node).traces
  unfold Session.dock
  generalize session.withCarrier node (fun carrier scene => carrier.beforeDock scene node)
    = released at freed ⊢
  have placed : ({ released with
      tree := (hooks.runInsert released.tree target node).1 } : Session).Anchored :=
    freed.stay rfl (keeps.traces_runInsert released.tree target node)
  dsimp only
  split
  · split
    · exact placed.turnAway keeps target node root
    · exact (placed.giveFeedback keeps target false).land node
  · exact anchored.turnAway keeps target node root

theorem tearOutChild (target : NodeId) (root : Point) :
    (session.tearOutChild target root hooks).session.Anchored := by
  unfold Session.tearOutChild
  cases armed : session.armedChild? target with
  | none => exact anchored
  | some node =>
      dsimp only
      split
      · exact anchored
      · obtain ⟨dockable, found, docked, linked⟩ := docked_of_armedChild? target armed
        have traces := (keeps.traces_runRemove session.tree target node).trans
          (Retains.detach _ node).traces
        have freed : ({ session with
            tree := ((hooks.runRemove session.tree target node).1.detach node).1 } :
            Session).Anchored := anchored.stay rfl traces
        have origin : (hooks.runRemove session.tree target node).1.detach node |>.1.Accounts
            target :=
          traces.accounts anchored.wellFormed target
            (.inl (anchored.wellFormed.contains_parent linked))
        generalize asked : TearOut.mk root _ (some target) _ = tearOut
        have begun := freed.beginDrag node tearOut fun reference introduces => by
          rw [← asked] at introduces
          cases introduces
          exact origin
        split
        · next same =>
            rw [same] at begun
            exact begun.stay rfl (.refl _)
        · next same =>
            rw [same] at begun
            have calmed := begun.update node (fun dockable =>
              { dockable with press := none }) (fun _ => .inr rfl) fun _ => .inr rfl
            dsimp only
            split
            · exact calmed.destroyWidget _
            · exact calmed

theorem targetEvent (target : NodeId) (event : Event) :
    (session.targetEvent target event hooks).session.Anchored :=
  targetEvent_cases (motive := fun reaction => reaction.session.Anchored) (fun _ => anchored)
    (anchored.targetLeave keeps target) (fun _ root => anchored.tearOutChild keeps target root)
    (fun dragged root _ => anchored.targetMotion keeps dragged target root)
    (fun dragged root _ _ => anchored.dock keeps target dragged root) event

end Anchored

def Operation.KeepsRecord : Operation → Prop
  | .edit change => change ≠ .forgetDestroyed
  | .targetEvent _ _ hooks => hooks.KeepsRecord
  | _ => True

theorem Anchored.perform (anchored : session.Anchored) {operation : Operation}
    (keeps : operation.KeepsRecord) : (session.perform operation).Anchored := by
  cases operation with
  | edit change => exact anchored.stay rfl (session.tree.traces_apply keeps)
  | command command => exact anchored.stay rfl (.refl _)
  | create plan => exact anchored.create plan
  | destroyDockable node =>
      unfold Session.perform Session.destroyDockable
      dsimp only
      split
      · exact anchored.destroyWidget node
      · exact anchored
  | destroyWidget node => exact anchored.destroyWidget node
  | syncDestroyed => exact anchored.syncDestroyed
  | tearOut node root => exact anchored.tearOut node root
  | forceUndocked node => exact anchored.forceUndocked node
  | startInteractiveResize node edge =>
      refine anchored.stay
        (congrArg Flight.standing? (session.flight_startInteractiveResize node edge)) ?_
      unfold Session.perform
      rw [tree_startInteractiveResize]
      exact .refl _
  | payloadEvent node event => exact anchored.payloadEvent node event
  | targetEvent target event hooks => exact anchored.targetEvent keeps target event
  | takeNotices => exact anchored.stay rfl (.refl _)

theorem anchored_run (desktop : Desktop) (settings : Settings) {operations : List Operation}
    (keeps : ∀ operation ∈ operations, operation.KeepsRecord) :
    ((start desktop settings).run operations).Anchored := by
  have kept (session : Session) (anchored : session.Anchored) :
      (session.run operations).Anchored := by
    induction operations generalizing session with
    | nil => exact anchored
    | cons operation rest induction =>
        refine induction (fun other member => keeps other (List.mem_cons_of_mem _ member)) _ ?_
        exact anchored.perform (keeps operation List.mem_cons_self)
  exact kept _ (anchored_start desktop settings)

end Session
end Docking

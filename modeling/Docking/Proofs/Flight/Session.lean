import Docking.Proofs.Flight.Turn
import Docking.Proofs.Session.Evolution

namespace Docking

/-! What each part of a session's operations does to the flight. -/

namespace Flight

theorem adjust_congr {flight : Flight} {node : NodeId} {first second : Standing → Standing}
    (same : ∀ standing, flight.standing? node = some standing →
      first standing = second standing) :
    flight.adjust node first = flight.adjust node second := by
  simp only [adjust, mk.injEq, and_self, and_true]
  funext other
  split
  · cases found : flight.standing? node with
    | none => rfl
    | some standing => exact congrArg some (same standing found)
  · rfl

theorem adjust_id (flight : Flight) (node : NodeId) : flight.adjust node id = flight := by
  obtain ⟨standing?, inFlight, outbox⟩ := flight
  simp only [adjust, mk.injEq, and_self, and_true]
  funext other
  split
  · next at_node => rw [at_node, Option.map_id_fun, id]
  · rfl

theorem adjust_of_eq {flight : Flight} {node : NodeId} {change : Standing → Standing}
    (same : ∀ standing, flight.standing? node = some standing → change standing = standing) :
    flight.adjust node change = flight :=
  (adjust_congr same).trans (flight.adjust_id node)

end Flight

namespace Session

def flight (session : Session) : Flight :=
  ⟨fun node => (session.dockable? node).map Dockable.standing, session.inFlight,
    session.outbox⟩

variable (session : Session) (node : NodeId)

theorem standing?_of_dockable? {session : Session} {node : NodeId} {dockable : Dockable}
    (found : session.dockable? node = some dockable) :
    session.flight.standing? node = some dockable.standing :=
  congrArg (Option.map Dockable.standing) found

theorem dockable?_of_standing? {session : Session} {node : NodeId} {standing : Standing}
    (stands : session.flight.standing? node = some standing) :
    ∃ dockable, session.dockable? node = some dockable ∧ dockable.standing = standing :=
  Option.map_eq_some_iff.mp stands

theorem standing?_eq_none_iff :
    session.flight.standing? node = none ↔ session.dockable? node = none :=
  Option.map_eq_none_iff

theorem activeTarget?_flight :
    session.flight.activeTarget? node =
      (session.dockable? node).bind Dockable.activeTarget := by
  simp only [Flight.activeTarget?, flight, Option.bind_map]
  rfl

theorem dockable?_update (change : Dockable → Dockable) (other : NodeId) :
    (session.update node change).dockable? other =
      if other = node then (session.dockable? node).map change else session.dockable? other :=
  session.dockables.get?_modify node change other

theorem dockable?_enterPhase (phase : Phase) :
    (session.enterPhase node phase).dockable? node =
      (session.dockable? node).map fun dockable => dockable.withPhase phase := by
  have entered : (session.update node fun dockable => dockable.withPhase phase).dockable? node =
      (session.dockable? node).map fun dockable => dockable.withPhase phase := by
    rw [dockable?_update, if_pos rfl]
  unfold enterPhase repaint
  split
  · exact entered
  · exact entered

@[simp] theorem desktop_enterPhase (phase : Phase) :
    (session.enterPhase node phase).desktop = session.desktop := by
  unfold enterPhase repaint
  split <;> rfl

theorem flight_update {change : Dockable → Dockable} (stand : Standing → Standing)
    (stands : ∀ dockable, (change dockable).standing = stand dockable.standing) :
    (session.update node change).flight = session.flight.adjust node stand := by
  simp only [flight, Flight.adjust, Flight.mk.injEq]
  refine ⟨?_, rfl, rfl⟩
  funext other
  rw [dockable?_update]
  split
  · rw [Option.map_map, Option.map_map]
    exact congrFun (congrArg Option.map (funext stands)) _
  · rfl

theorem flight_update_of_eq {change : Dockable → Dockable}
    (same : ∀ dockable, (change dockable).standing = dockable.standing) :
    (session.update node change).flight = session.flight := by
  rw [session.flight_update node id same]
  exact Flight.adjust_of_eq fun _ _ => rfl

@[simp] theorem flight_repaint : (session.repaint node).flight = session.flight := by
  unfold repaint
  split <;> rfl

theorem flight_enterPhase (phase : Phase) :
    (session.enterPhase node phase).flight =
      session.flight.adjust node (Standing.enter phase) := by
  rw [enterPhase, flight_repaint]
  exact session.flight_update node _ fun _ => rfl

@[simp] theorem flight_withCarrier (action : Carrier → Scene → Carrier × Scene) :
    (session.withCarrier node action).flight = session.flight := by
  unfold withCarrier
  split
  · rfl
  · exact flight_update_of_eq _ node fun _ => rfl

@[simp] theorem flight_tryCarrier
    (action : Carrier → Scene → Carrier.Outcome (Except DesktopError Unit)) :
    (session.tryCarrier node action).1.flight = session.flight := by
  unfold tryCarrier
  split
  · rfl
  · exact flight_update_of_eq _ node fun _ => rfl

@[simp] theorem flight_settleCarrier (root : Point) :
    (session.settleCarrier node root).flight = session.flight :=
  session.flight_tryCarrier node _

@[simp] theorem flight_giveFeedback (hooks : Hooks) (target : NodeId) (shown : Bool) :
    (session.giveFeedback hooks target shown).1.flight = session.flight :=
  rfl

theorem flight_erase (scene : Scene) :
    { session with toScene := scene, dockables := session.dockables.erase node }.flight =
      session.flight.strike node := by
  simp only [flight, Flight.strike, Flight.mk.injEq, and_self, and_true]
  funext other
  rw [dockable?, Table.get?_erase]
  split <;> rfl

theorem flight_forgetDockable (destroyed : List NodeId) :
    (forgetDockable destroyed session node).flight =
      Flight.dismiss destroyed session.flight node := by
  unfold forgetDockable Flight.dismiss
  cases found : session.dockable? node with
  | none =>
      have unknown : session.flight.standing? node = none :=
        congrArg (Option.map Dockable.standing) found
      rw [unknown]
  | some dockable =>
      have left := session.flight_erase node (dockable.carrier.release session.toScene node).2
      simp only [standing?_of_dockable? found]
      by_cases flying : session.inFlight = some node
      · rw [if_pos flying, if_pos (show session.flight.inFlight = some node from flying), ← left]
        cases active : dockable.activeTarget with
        | none => simp only [Dockable.standing, active]; rfl
        | some target =>
            simp only [Dockable.standing, active]
            split <;> rfl
      · rw [if_neg flying, if_neg (show session.flight.inFlight ≠ some node from flying)]
        exact left

theorem flight_forgetTargets (destroyed : List NodeId) :
    (forgetTargets destroyed session node).flight =
      session.flight.adjust node (Standing.forget destroyed) := by
  unfold forgetTargets
  cases found : session.dockable? node with
  | none =>
      symm
      apply Flight.adjust_of_eq
      intro standing stands
      have unknown : session.flight.standing? node = none :=
        congrArg (Option.map Dockable.standing) found
      rw [unknown] at stands
      cases stands
  | some dockable =>
      have cleared : (session.update node fun dockable => { dockable with
          originTarget :=
            if leadsInto destroyed dockable.originTarget then none else dockable.originTarget
          activeTarget :=
            if leadsInto destroyed dockable.activeTarget then none
            else dockable.activeTarget }).flight =
          session.flight.adjust node fun standing =>
            { standing.forget destroyed with phase := standing.phase } :=
        session.flight_update node _ fun _ => rfl
      dsimp only
      split
      · next both =>
          rw [flight_enterPhase, cleared, Flight.adjust_adjust]
          apply Flight.adjust_congr
          intro standing stands
          rw [standing?_of_dockable? found] at stands
          cases stands
          exact congrArg (Standing.mk · _ _) (if_pos both).symm
      · next notBoth =>
          rw [cleared]
          apply Flight.adjust_congr
          intro standing stands
          rw [standing?_of_dockable? found] at stands
          cases stands
          exact congrArg (Standing.mk · _ _) (if_neg notBoth).symm

private theorem flight_foldl_forgetDockable (destroyed nodes : List NodeId)
    (session : Session) :
    (nodes.foldl (forgetDockable destroyed) session).flight =
      nodes.foldl (Flight.dismiss destroyed) session.flight := by
  induction nodes generalizing session with
  | nil => rfl
  | cons node rest induction =>
      rw [List.foldl_cons, induction, flight_forgetDockable]
      rfl

private theorem flight_foldl_forgetTargets (destroyed : List NodeId) {nodes : List NodeId}
    (nodup : nodes.Nodup) (session : Session) :
    (nodes.foldl (forgetTargets destroyed) session).flight =
      { session.flight with
        standing? := fun node =>
          if node ∈ nodes then (session.flight.standing? node).map (Standing.forget destroyed)
          else session.flight.standing? node } := by
  induction nodes generalizing session with
  | nil => simp
  | cons head rest induction =>
      obtain ⟨fresh, nodup⟩ := List.nodup_cons.mp nodup
      rw [List.foldl_cons, induction nodup, flight_forgetTargets]
      simp only [Flight.adjust, Flight.mk.injEq, and_self, and_true]
      funext node
      by_cases same : node = head
      · subst same
        simp [fresh]
      · simp [same]

theorem flight_syncDestroyed :
    session.syncDestroyed.flight = session.flight.forget session.tree.destroyed := by
  unfold syncDestroyed
  split
  · next nothing =>
      rw [nothing, Flight.forget_nil]
  · generalize session.tree.destroyed = destroyed
    have left := flight_foldl_forgetDockable destroyed destroyed
      { session with tree := session.tree.forgetDestroyed }
    dsimp only
    generalize destroyed.foldl (forgetDockable destroyed)
      { session with tree := session.tree.forgetDestroyed } = remaining at left ⊢
    have cleared := flight_foldl_forgetTargets destroyed remaining.dockables.keys_nodup remaining
    have kept : ({ session with tree := session.tree.forgetDestroyed } : Session).flight =
      session.flight := rfl
    rw [kept] at left
    rw [Flight.forget, ← left]
    refine cleared.trans ?_
    simp only [Flight.clearReferences, Flight.mk.injEq, and_self, and_true]
    funext node
    split
    · rfl
    · next unknown =>
        have absent := (remaining.dockables.get?_eq_none_iff node).mpr unknown
        simp only [flight, dockable?, absent, Option.map_none]

@[simp] theorem flight_giveFirstPlace (plan : DockablePlan) :
    (session.giveFirstPlace plan node).flight = session.flight := by
  unfold giveFirstPlace
  split
  · rfl
  · exact session.flight_settleCarrier node _

theorem body_buildWidgets (tree : Tree) (plan : DockablePlan) :
    (buildWidgets tree plan).body = tree.nextId := by
  unfold buildWidgets
  dsimp only
  split <;> rfl

theorem flight_build (plan : DockablePlan) :
    (session.build plan).1.flight =
      session.flight.make (.register session.tree.nextId
        (if plan.container.isSome then .docked else .undocked)) := by
  unfold build
  dsimp only
  rw [flight_repaint, flight_giveFirstPlace, body_buildWidgets]
  simp only [flight, Flight.make, Flight.mk.injEq, and_self, and_true]
  funext other
  rw [dockable?, Table.get?_insert]
  split <;> rfl

theorem flight_undoTearOut (layout : Rect) (former : Option (NodeId × Nat)) (root : Point) :
    (session.undoTearOut node layout former root).flight =
      if former.isSome then session.flight else session.flight.make (.ground node) := by
  unfold undoTearOut
  cases former with
  | some slot => exact session.flight_withCarrier node _
  | none =>
      dsimp only
      rw [flight_enterPhase, flight_withCarrier, flight_settleCarrier, flight_withCarrier]
      rfl

/-- No other dockable is in flight, and the one to be torn out has no place to go back to. -/
structure Homeless (tearOut : TearOut) : Prop where
  alone : ∀ other, session.inFlight = some other → other = node
  slotless : (session.tree.detach node).2.or tearOut.slot = none

theorem flight_beginDrag (tearOut : TearOut) :
    match session.beginDrag node tearOut with
    | (flying, .ok ()) =>
        (∃ dockable, session.dockable? node = some dockable) ∧
          (∀ other, session.inFlight = some other → other = node) ∧
          flying.flight = session.flight.make (.launch node tearOut.origin)
    | (failed, .error _) =>
        failed.flight = session.flight ∨
          session.Homeless node tearOut ∧
            failed.flight = session.flight.make (.ground node) := by
  have aloneOf (nobody : otherInFlight? session node = none) (other : NodeId)
      (flying : session.inFlight = some other) : other = node := by
    rw [otherInFlight?, flying] at nobody
    simpa using nobody
  have kept : (session.attemptFlight node tearOut).1.flight = session.flight :=
    flight_tryCarrier { session with tree := (session.tree.detach node).1 } node _
  have begun := session.dragBegun_beginDrag node tearOut
  generalize session.beginDrag node tearOut = outcome at begun ⊢
  cases begun with
  | declined hindered => exact .inl rfl
  | unknown alone missing => exact .inl rfl
  | @failed dockable attempted report layout alone placed found tried =>
      have undone := flight_undoTearOut attempted node layout
        ((session.tree.detach node).2.or tearOut.slot) tearOut.root
      rw [tried] at kept
      rw [kept] at undone
      dsimp only
      split at undone
      · exact .inl undone
      · next homeless =>
          rw [Bool.not_eq_true, Option.isSome_eq_false_iff, Option.isNone_iff_eq_none] at homeless
          exact .inr ⟨⟨aloneOf alone, homeless⟩, undone⟩
  | @launched dockable attempted alone found tried =>
      rw [tried] at kept
      refine ⟨⟨dockable, found⟩, aloneOf alone, ?_⟩
      have entered := flight_enterPhase (attempted.update node fun dockable =>
        { dockable with activeTarget := none, originTarget := tearOut.origin }) node .dragging
      rw [flight_update attempted node (fun standing =>
        { standing with activeTarget := none, originTarget := tearOut.origin })
        fun _ => rfl, kept, Flight.adjust_adjust] at entered
      exact congrArg (fun flight : Flight => { flight with inFlight := some node }) entered

theorem flight_leaveActiveTarget :
    (session.leaveActiveTarget node).flight =
      (session.flight.bidFarewell node).adjust node (Standing.aim none) := by
  unfold leaveActiveTarget Flight.bidFarewell
  rw [activeTarget?_flight]
  cases aiming : (session.dockable? node).bind Dockable.activeTarget with
  | none =>
      symm
      apply Flight.adjust_of_eq
      intro standing stands
      have noTarget := (session.activeTarget?_flight node).trans aiming
      rw [Flight.activeTarget?, stands, Option.bind_some] at noTarget
      rw [Standing.aim, ← noTarget]
  | some target =>
      exact congrArg (Flight.post · target .dockLeave)
        (session.flight_update node (Standing.aim none) fun _ => rfl)

theorem flight_settleUndocked (root : Point) :
    (session.settleUndocked node root).flight = session.flight.settle node := by
  have rested : ((((session.leaveActiveTarget node).settleCarrier node root).withCarrier node
      Carrier.afterRelease).update node fun dockable =>
        { dockable with originTarget := none }).flight =
      (session.flight.bidFarewell node).adjust node fun standing =>
        { standing.aim none with originTarget := none } := by
    rw [flight_update _ node (fun standing => { standing with originTarget := none })
      fun _ => rfl, flight_withCarrier, flight_settleCarrier, flight_leaveActiveTarget,
      Flight.adjust_adjust]
  have entered := flight_enterPhase ((((session.leaveActiveTarget node).settleCarrier node
    root).withCarrier node Carrier.afterRelease).update node fun dockable =>
      { dockable with originTarget := none }) node .undocked
  rw [rested, Flight.adjust_adjust] at entered
  have finished (session : Session) :
      (if session.inFlight = some node then { session with inFlight := none }
        else session).flight = session.flight.finish node := by
    by_cases flying : session.inFlight = some node
    · rw [if_pos flying]
      exact congrArg (Flight.mk session.flight.standing? · session.outbox)
        (if_pos flying).symm
    · rw [if_neg flying]
      exact congrArg (Flight.mk session.flight.standing? · session.outbox)
        (if_neg flying).symm
  unfold settleUndocked
  dsimp only
  rw [finished, entered]
  rfl

theorem flight_startInteractiveResize (edge : ResizeEdge) :
    (session.startInteractiveResize node edge).1.flight = session.flight := by
  unfold startInteractiveResize
  split
  · rfl
  · split <;> rfl

end Session
end Docking

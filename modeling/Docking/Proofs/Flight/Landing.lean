import Docking.Proofs.Flight.Dismissal
import Docking.Proofs.Flight.Leave
import Docking.Proofs.Session.Steady

namespace Docking

/-! What a release over the active target leads to. The filter and the insertion decide
between them whether the dockable lands or is turned away; its flight is over either way. -/

open Flight (Turn)

namespace Flight

variable {flight : Flight}

def Turn.EndsFlight (node : NodeId) : Turn → Prop
  | .settle other | .turnAway other _ | .land other _ => other = node
  | _ => False

theorem inFlight_make_of_endsFlight {turn : Turn} {node : NodeId} (ends : turn.EndsFlight node)
    (flying : flight.inFlight = some node) : (flight.make turn).inFlight = none := by
  have finished {earlier : Flight} (airborne : earlier.inFlight = some node) :
      (earlier.turnAway node).inFlight = none := if_pos airborne
  cases turn with
  | settle other =>
      cases ends
      exact finished ((flight.inFlight_bidFarewell node).trans flying)
  | turnAway other target =>
      cases ends
      exact finished flying
  | land other target => rfl
  | _ => cases ends

end Flight

namespace Session

theorem Follows.inFlight_eq_none {before : Flight} {turn : Turn} {after : Session}
    {node : NodeId} (follows : Follows before turn after) (ends : turn.EndsFlight node)
    (flying : before.inFlight = some node) : after.inFlight = none := by
  obtain ⟨gone, _, flight_eq⟩ := follows.flight_eq
  have landed := Flight.forget_of_grounded gone (Flight.inFlight_make_of_endsFlight ends flying)
  rw [← flight_eq] at landed
  exact landed.1

@[simp] theorem inFlight_enterPhase (session : Session) (node : NodeId) (phase : Phase) :
    (session.enterPhase node phase).inFlight = session.inFlight :=
  congrArg Flight.inFlight (session.flight_enterPhase node phase)

theorem inFlight_targetMotion (session : Session) (target dragged : NodeId) (root : Point)
    (hooks : Hooks) :
    (session.targetMotion target dragged root hooks).session.inFlight = session.inFlight := by
  have dropped (told : Session) : (told.dropCandidate dragged).inFlight = told.inFlight :=
    inFlight_enterPhase _ dragged .dragging
  have taken (previous : Option NodeId) :
      (session.takeOver target dragged previous).inFlight = session.inFlight := by
    cases previous <;> exact inFlight_enterPhase _ dragged .hovering
  have moved := session.moved_targetMotion dragged target hooks root
  generalize session.targetMotion target dragged root hooks = reaction at moved ⊢
  cases moved with
  | unknown missing => rfl
  | refused found outside elsewhere => rfl
  | left found outside aims => exact dropped _
  | kept found inside keeps => rfl
  | taken found inside takes => exact taken _

/-- The tree as the insertion leaves it when the dockable is released over the target. -/
def insertedTree (session : Session) (target dragged : NodeId) (hooks : Hooks) : Tree :=
  (hooks.runInsert (session.withCarrier dragged fun carrier scene =>
    carrier.beforeDock scene dragged).tree target dragged).1

/-- The filter agrees, and the insertion leaves the dockable below a parent. -/
structure Takes (session : Session) (target dragged : NodeId) (hooks : Hooks) : Prop where
  accepted : (hooks.runAccept session.tree target dragged).1 = true
  placed : ((session.insertedTree target dragged hooks).parent? dragged).isSome = true

theorem insertedTree_notify (session : Session) (other : NodeId) (event : Event)
    (target dragged : NodeId) (hooks : Hooks) :
    (session.notify other event).insertedTree target dragged hooks =
      session.insertedTree target dragged hooks := by
  have known : (session.notify other event).dockable? dragged = session.dockable? dragged := rfl
  unfold insertedTree withCarrier
  rw [known]
  split <;> rfl

theorem takes_notify (session : Session) (other : NodeId) (event : Event)
    (target dragged : NodeId) (hooks : Hooks) :
    (session.notify other event).Takes target dragged hooks ↔
      session.Takes target dragged hooks := by
  have inserted := session.insertedTree_notify other event target dragged hooks
  constructor
  · rintro ⟨accepted, placed⟩
    exact ⟨accepted, inserted ▸ placed⟩
  · rintro ⟨accepted, placed⟩
    exact ⟨accepted, inserted ▸ placed⟩

theorem evolves_insertedTree (session : Session) (target dragged : NodeId) (hooks : Hooks) :
    Tree.Evolves session.tree (session.insertedTree target dragged hooks) :=
  (session.evolves_withCarrier_beforeDock dragged).trans (.edit _ _)

theorem dock_of_takes {session : Session} {target dragged : NodeId} {hooks : Hooks}
    (takes : session.Takes target dragged hooks) (root : Point) :
    ∃ told, (session.dock target dragged root hooks).session = told.land dragged ∧
      told.flight = session.flight ∧ Steady session told ∧
      told.tree =
        (hooks.runFeedback (session.insertedTree target dragged hooks) target false).1 := by
  have freed := session.flight_withCarrier dragged fun carrier scene =>
    carrier.beforeDock scene dragged
  have steady := session.steady_beforeDock dragged
  obtain ⟨accepted, placed⟩ := takes
  unfold insertedTree at placed ⊢
  unfold dock
  generalize session.withCarrier dragged (fun carrier scene => carrier.beforeDock scene dragged)
    = released at freed steady placed ⊢
  dsimp only
  rw [if_pos accepted]
  split
  · next orphaned =>
      rw [orphaned] at placed
      cases placed
  · exact ⟨_, rfl, freed, steady.trans (.of_eq rfl rfl), rfl⟩

theorem dock_of_not_takes {session : Session} {target dragged : NodeId} {hooks : Hooks}
    (refuses : ¬ session.Takes target dragged hooks) (root : Point) :
    ∃ cleared, (session.dock target dragged root hooks).session =
        cleared.releaseUndocked dragged root ∧
      cleared.flight = session.flight.adjust dragged (Standing.aim none) ∧
      Steady session cleared ∧ Tree.Evolves session.tree cleared.tree := by
  have turned (away : Session) (kept : away.flight = session.flight)
      (steady : Steady session away) (evolves : Tree.Evolves session.tree away.tree) :
      ∃ cleared, (away.turnAway target dragged root hooks).1 =
          cleared.releaseUndocked dragged root ∧
        cleared.flight = session.flight.adjust dragged (Standing.aim none) ∧
        Steady session cleared ∧ Tree.Evolves session.tree cleared.tree := by
    refine ⟨_, rfl, ?_, steady.trans (.of_eq rfl rfl),
      evolves.trans (away.evolves_giveFeedback target hooks false)⟩
    rw [flight_update _ dragged (Standing.aim none) fun _ => rfl, flight_giveFeedback, kept]
  have freed := session.flight_withCarrier dragged fun carrier scene =>
    carrier.beforeDock scene dragged
  have steady := session.steady_beforeDock dragged
  have evolves := session.evolves_insertedTree target dragged hooks
  have orphaned (accepted : (hooks.runAccept session.tree target dragged).1 = true) :
      (session.insertedTree target dragged hooks).parent? dragged = none := by
    cases hangs : (session.insertedTree target dragged hooks).parent? dragged with
    | none => rfl
    | some parent => exact absurd ⟨accepted, hangs ▸ rfl⟩ refuses
  unfold insertedTree at evolves orphaned
  unfold dock
  generalize session.withCarrier dragged (fun carrier scene => carrier.beforeDock scene dragged)
    = released at freed steady evolves orphaned ⊢
  dsimp only
  split
  · next accepted =>
      specialize orphaned accepted
      split
      · exact turned { released with tree := (hooks.runInsert released.tree target dragged).1 }
          freed (steady.trans (.of_eq rfl rfl)) evolves
      · next hangs =>
          rw [orphaned] at hangs
          cases hangs
  · exact turned session rfl (.refl _) (.refl _)

section Dock

variable {session : Session} (wellFormed : session.tree.WellFormed) {target dragged : NodeId}
  {hooks : Hooks} (flying : session.inFlight = some dragged)
  (aiming : session.flight.activeTarget? dragged = some target) (root : Point)
include wellFormed flying aiming

theorem follows_dock_of_takes (takes : session.Takes target dragged hooks) :
    Follows session.flight (.land dragged target)
      (session.dock target dragged root hooks).session := by
  obtain ⟨told, same, kept, _, tree_eq⟩ := dock_of_takes takes root
  have evolves := (session.evolves_insertedTree target dragged hooks).trans
    (evolves_giveFeedback { session with tree := session.insertedTree target dragged hooks }
      target hooks false)
  rw [same]
  refine follows_land ?_ target kept flying aiming
  rw [tree_eq]
  exact evolves.wellFormed wellFormed

theorem follows_dock_of_not_takes (refuses : ¬ session.Takes target dragged hooks) :
    Follows session.flight (.turnAway dragged target)
      (session.dock target dragged root hooks).session := by
  obtain ⟨cleared, same, flight_eq, _, evolves⟩ := dock_of_not_takes refuses root
  rw [same]
  refine .releaseUndocked (evolves.wellFormed wellFormed) root ⟨flying, aiming⟩ ?_
  rw [flight_eq]
  exact session.flight.settle_adjust_aim dragged

theorem inFlight_dock :
    (session.dock target dragged root hooks).session.inFlight = none := by
  by_cases takes : session.Takes target dragged hooks
  · have landed := follows_dock_of_takes wellFormed flying aiming root takes
    exact landed.inFlight_eq_none rfl flying
  · have turned := follows_dock_of_not_takes wellFormed flying aiming root takes
    exact turned.inFlight_eq_none rfl flying

end Dock

end Session
end Docking

import Docking.Proofs.Flight.Operation
import Docking.Proofs.Tree.Geometry
import Docking.Proofs.Tree.Placement

namespace Docking

/-! Events on targets make one turn each, and the feedback that a target hears meanwhile is
the one that the turn calls for. -/

open Flight (Turn)

theorem Tree.Evolves.lost_of_not_contains {before after : Tree}
    (evolves : Tree.Evolves before after) (wellFormed : before.WellFormed) {node : NodeId}
    (earlier : before.contains node = true) (later : after.contains node = false) :
    after.Lost node :=
  ⟨Nat.lt_of_lt_of_le (wellFormed.index_lt node earlier) evolves.nextIndex_le, later⟩

theorem Flight.settle_adjust_aim (flight : Flight) (node : NodeId) :
    (flight.adjust node (Standing.aim none)).settle node = flight.turnAway node := by
  have aimless : (flight.adjust node (Standing.aim none)).activeTarget? node = none := by
    simp only [activeTarget?, adjust, if_true, Option.bind_map]
    cases flight.standing? node <;> rfl
  rw [settle, bidFarewell, aimless]
  dsimp only
  rw [adjust_adjust, turnAway]

def Event.motion? : Event → Option Point
  | .pointerMove root | .dockEnter root | .dockDrag root => some root
  | _ => none

namespace Session

theorem feedback?_runAccept (hooks : Hooks) (tree : Tree) (target dockable : NodeId) :
    (hooks.runAccept tree target dockable).2.filterMap HookCall.feedback? = [] := by
  unfold Hooks.runAccept
  split <;> rfl

theorem feedback?_isCandidate (session : Session) (target dragged : NodeId) (root : Point)
    (hooks : Hooks) :
    (session.isCandidate target dragged root hooks).2.filterMap HookCall.feedback? = [] := by
  have accepted := feedback?_runAccept hooks session.tree target dragged
  unfold isCandidate
  split
  · rfl
  · dsimp only
    split
    · rw [List.filterMap_append, accepted]
      rfl
    · exact accepted

/-- The feedback for a target reached its hook, unless the target has none or is gone. -/
def Hears (hooks : Hooks) (before after : Tree) (target : NodeId) (shown : Bool)
    (consulted : List HookCall) : Prop :=
  consulted.filterMap HookCall.feedback? = [(target, shown)] ∨
    consulted.filterMap HookCall.feedback? = [] ∧
      (hooks.feedback = none ∨ before.contains target = false ∨ after.Lost target)

theorem Hears.after_silence {hooks : Hooks} {before after : Tree} {target : NodeId}
    {shown : Bool} {first consulted : List HookCall}
    (hears : Hears hooks before after target shown consulted)
    (silent : first.filterMap HookCall.feedback? = []) :
    Hears hooks before after target shown (first ++ consulted) := by
  unfold Hears
  rw [List.filterMap_append, silent, List.nil_append]
  exact hears

theorem hears_giveFeedback {before after : Tree} (wellFormed : before.WellFormed)
    (session : Session) (hooks : Hooks) (target : NodeId) (shown : Bool)
    (earlier : Tree.Evolves before session.tree)
    (later : Tree.Evolves session.tree after) :
    Hears hooks before after target shown (session.giveFeedback hooks target shown).2 := by
  unfold Hears giveFeedback Hooks.runFeedback
  cases hooks.feedback with
  | none => exact .inr ⟨rfl, .inl rfl⟩
  | some feedback =>
      dsimp only
      split
      · exact .inl rfl
      · next absent =>
          refine .inr ⟨rfl, .inr ?_⟩
          rw [Bool.not_eq_true] at absent
          cases present : before.contains target with
          | false => exact .inl rfl
          | true =>
              have lost := earlier.lost_of_not_contains wellFormed present absent
              exact .inr (later.lost (earlier.wellFormed wellFormed) lost)

namespace Reaction

/-- The reaction of a target is one turn, which strands no dockable, and the target heard what
belongs to it. -/
structure Makes (session : Session) (target : NodeId) (hooks : Hooks) (turn : Turn)
    (reaction : Reaction) : Prop where
  follows : Follows session.flight turn reaction.session
  hears :
    turn.isQuiet = true ∧ reaction.consulted.filterMap HookCall.feedback? = [] ∨
      ∃ shown, turn.feedback? = some (target, shown) ∧
        Hears hooks session.tree reaction.session.tree target shown reaction.consulted
  safe : turn.strands = false

theorem Makes.quietly {session : Session} {target : NodeId} {hooks : Hooks}
    {reaction : Reaction} (follows : FollowsSafely session.flight reaction.session)
    (silent : reaction.consulted.filterMap HookCall.feedback? = []) :
    ∃ turn, Makes session target hooks turn reaction :=
  let ⟨turn, quiet, safe, follows⟩ := follows
  ⟨turn, follows, .inl ⟨quiet, silent⟩, safe⟩

end Reaction

open Reaction (Makes)

/-- All that an event on a target can mean, in the sense that the carrier in flight gives it. -/
inductive Heard (session : Session) (target : NodeId) (event : Event) (hooks : Hooks) :
    Reaction → Prop
  | ignored (status : Status) : Heard session target event hooks ⟨session, status, []⟩
  | left (leaves : session.remap event = .dockLeave) :
      Heard session target event hooks (session.targetLeave target hooks)
  | tornOut {root : Point} (grounded : session.inFlight = none) (moves : event = .pointerMove root) :
      Heard session target event hooks (session.tearOutChild target root hooks)
  | moved {dragged : NodeId} {root : Point} (flying : session.inFlight = some dragged)
      (moves : (session.remap event).motion? = some root) :
      Heard session target event hooks (session.targetMotion target dragged root hooks)
  | released {dragged : NodeId} {root : Point} (flying : session.inFlight = some dragged)
      (still : (session.remap event).motion? = none)
      (aiming : (session.dockable? dragged).bind Dockable.activeTarget = some target) :
      Heard session target event hooks (session.dock target dragged root hooks)

theorem remap_of_grounded {session : Session} (grounded : session.inFlight = none)
    (event : Event) : session.remap event = event := by
  rw [remap, grounded]
  split <;> rfl

theorem heard_targetEvent (session : Session) (target : NodeId) (event : Event) (hooks : Hooks) :
    session.Heard target event hooks (session.targetEvent target event hooks) := by
  have dropped (dragged : NodeId) (root : Point) (flying : session.inFlight = some dragged)
      (still : (session.remap event).motion? = none) :
      session.Heard target event hooks (session.targetRelease target dragged root hooks) := by
    unfold targetRelease
    split
    · next aiming => exact .released flying still aiming
    · exact .ignored _
  unfold targetEvent
  split
  · exact .ignored _
  · next leaves => exact .left leaves
  · split
    · next grounded =>
        rw [remap_of_grounded grounded]
        unfold targetAtRest
        split
        · exact .tornOut grounded rfl
        · exact .ignored _
    · next dragged flying =>
        unfold targetInFlight
        split
        · next moves => exact .moved flying (congrArg Event.motion? moves)
        · next moves => exact .moved flying (congrArg Event.motion? moves)
        · next moves => exact .moved flying (congrArg Event.motion? moves)
        · next drops => exact dropped dragged _ flying (congrArg Event.motion? drops)
        · next drops => exact dropped dragged _ flying (congrArg Event.motion? drops)
        · exact .ignored _

theorem targetEvent_cases {session : Session} {target : NodeId} {hooks : Hooks}
    {motive : Reaction → Prop} (ignored : ∀ status, motive ⟨session, status, []⟩)
    (left : motive (session.targetLeave target hooks))
    (tornOut : session.inFlight = none →
      ∀ root, motive (session.tearOutChild target root hooks))
    (moved : ∀ dragged root, session.inFlight = some dragged →
      motive (session.targetMotion target dragged root hooks))
    (released : ∀ dragged root, session.inFlight = some dragged →
      (session.dockable? dragged).bind Dockable.activeTarget = some target →
      motive (session.dock target dragged root hooks))
    (event : Event) : motive (session.targetEvent target event hooks) := by
  have heard := session.heard_targetEvent target event hooks
  generalize session.targetEvent target event hooks = reaction at heard ⊢
  cases heard with
  | ignored status => exact ignored status
  | left leaves => exact left
  | tornOut grounded moves => exact tornOut grounded _
  | moved flying moves => exact moved _ _ flying
  | released flying still aiming => exact released _ _ flying aiming

variable {session : Session} (wellFormed : session.tree.WellFormed) (target : NodeId)
  (hooks : Hooks)

theorem repaints_enterPhase (session : Session) (node : NodeId) (phase : Phase) :
    session.tree.Repaints (session.enterPhase node phase).tree := by
  unfold enterPhase repaint
  split
  · exact .refl _
  · next dockable _ => exact dockable.repaints_paint node session.tree

theorem flight_dropCandidate (session : Session) (dragged : NodeId) :
    (session.dropCandidate dragged).flight =
      session.flight.adjust dragged fun standing => (standing.aim none).enter .dragging := by
  rw [dropCandidate, flight_enterPhase,
    session.flight_update dragged (Standing.aim none) fun _ => rfl,
    Flight.adjust_adjust]

theorem flight_takeOver (session : Session) (dragged : NodeId) :
    (session.takeOver target dragged (session.flight.activeTarget? dragged)).flight =
      session.flight.make (.hover dragged target) := by
  have entered (told : Session) :
      ((told.update dragged fun dockable =>
        { dockable with activeTarget := some target }).enterPhase dragged .hovering).flight =
      told.flight.adjust dragged fun standing =>
        (standing.aim (some target)).enter .hovering := by
    rw [flight_enterPhase,
      told.flight_update dragged (Standing.aim (some target)) fun _ => rfl,
      Flight.adjust_adjust]
  unfold takeOver
  rw [entered, Flight.make, Flight.bidFarewell]
  cases session.flight.activeTarget? dragged <;> rfl

theorem flight_targetLeave (session : Session) :
    (session.targetLeave target hooks).session.flight = session.flight.make (.leave target) := by
  have aims (dragged : NodeId) := session.activeTarget?_flight dragged
  have told := session.flight_giveFeedback hooks target false
  have unchanged (dragged : NodeId) :
      (session.giveFeedback hooks target false).1.dockable? dragged =
        session.dockable? dragged := rfl
  unfold targetLeave
  dsimp only [Flight.make]
  cases flying : session.inFlight with
  | none =>
      have grounded : session.flight.inFlight = none := flying
      rw [grounded]
      rfl
  | some dragged =>
      have airborne : session.flight.inFlight = some dragged := flying
      rw [airborne]
      dsimp only
      rw [aims dragged, unchanged]
      split
      · rw [flight_dropCandidate, told]
      · rfl

include wellFormed

theorem makes_targetLeave :
    Makes session target hooks (.leave target) (session.targetLeave target hooks) where
  follows := .of_flight trivial (flight_targetLeave target hooks session)
  hears := .inr ⟨false, rfl, hears_giveFeedback wellFormed session hooks target false (.refl _)
    (session.evolves_targetLeave target hooks)⟩
  safe := rfl

theorem makes_targetMotion {dragged : NodeId} (flying : session.inFlight = some dragged)
    (root : Point) :
    ∃ turn, Makes session target hooks turn
      (session.targetMotion target dragged root hooks) := by
  have silent := session.feedback?_isCandidate target dragged root hooks
  have evolves := session.evolves_targetMotion dragged target hooks root
  have airborne : session.flight.inFlight = some dragged := flying
  have aims := session.activeTarget?_flight dragged
  have moved := session.moved_targetMotion dragged target hooks root
  generalize session.targetMotion target dragged root hooks = reaction at evolves moved ⊢
  cases moved with
  | unknown missing => exact Makes.quietly (.stay rfl) silent
  | refused found outside elsewhere => exact Makes.quietly (.stay rfl) silent
  | left found outside here =>
      rw [found, Option.bind_some, here] at aims
      refine ⟨.leave target, .of_flight trivial ?_, .inr ⟨false, rfl, ?_⟩, rfl⟩
      · rw [flight_dropCandidate, flight_giveFeedback]
        simp only [Flight.make, airborne, aims, if_true]
      · exact (hears_giveFeedback wellFormed session hooks target false (.refl _)
          evolves).after_silence silent
  | kept found inside keeps => exact Makes.quietly (.stay rfl) silent
  | taken found inside takes =>
      rw [found, Option.bind_some] at aims
      rw [← aims]
      refine ⟨.hover dragged target, .of_flight ⟨airborne, ?_, _, standing?_of_dockable? found⟩
        (flight_takeOver target session dragged), .inr ⟨true, rfl, ?_⟩, rfl⟩
      · rw [aims]
        exact fun same => takes (.inl same)
      · exact (hears_giveFeedback wellFormed _ hooks target true
          (session.evolves_takeOver dragged target _)
          (evolves_giveFeedback _ target hooks true)).after_silence silent

theorem makes_turnAway {before : Session} (beforeWellFormed : before.tree.WellFormed)
    (kept : session.flight = before.flight) (earlier : Tree.Evolves before.tree session.tree)
    {dragged : NodeId} (flying : before.inFlight = some dragged)
    (aiming : before.flight.activeTarget? dragged = some target) (root : Point)
    {first : List HookCall} (silent : first.filterMap HookCall.feedback? = []) :
    Makes before target hooks (.turnAway dragged target)
      ⟨(session.turnAway target dragged root hooks).1, .handledFully,
        first ++ (session.turnAway target dragged root hooks).2⟩ where
  follows := by
    refine .releaseUndocked ?_ root ⟨flying, aiming⟩ ?_
    · exact (session.evolves_giveFeedback target hooks false).wellFormed wellFormed
    · rw [flight_update _ dragged (Standing.aim none) fun _ => rfl,
        flight_giveFeedback, kept]
      exact before.flight.settle_adjust_aim dragged
  hears := .inr ⟨false, rfl, (hears_giveFeedback beforeWellFormed session hooks target false
    earlier (session.evolves_turnAway dragged target hooks root)).after_silence silent⟩
  safe := rfl

omit wellFormed in
/-- Destructions apart, a landing is one turn and moves nothing in the tree. -/
theorem land_eq (session : Session) (dragged : NodeId) :
    ∃ docked : Session, session.land dragged = docked.syncDestroyed ∧
      docked.flight = session.flight.make (.land dragged target) ∧
        session.tree.Repaints docked.tree := by
  have tree_eq := session.tree_withCarrier_afterRelease dragged
  have flight_eq := session.flight_withCarrier dragged Carrier.afterRelease
  unfold land
  generalize session.withCarrier dragged Carrier.afterRelease = released at tree_eq flight_eq ⊢
  have docked := flight_enterPhase (released.update dragged fun dockable =>
    { dockable with activeTarget := none, originTarget := none, press := none }) dragged .docked
  have painted := repaints_enterPhase (released.update dragged fun dockable =>
    { dockable with activeTarget := none, originTarget := none, press := none }) dragged .docked
  rw [flight_update _ dragged (fun standing => .atRest standing.phase) fun _ => rfl, flight_eq,
    Flight.adjust_adjust] at docked
  rw [tree_update, tree_eq] at painted
  exact ⟨_, rfl, congrArg (fun flight : Flight => { flight with inFlight := none }) docked, painted⟩

omit wellFormed in
theorem flight_land (session : Session) (dragged : NodeId) :
    (session.land dragged).flight =
      (session.flight.make (.land dragged target)).forget session.tree.destroyed := by
  obtain ⟨docked, landed, flight_eq, painted⟩ := land_eq target session dragged
  rw [landed, flight_syncDestroyed, flight_eq, painted.geometry.links.destroyed_eq]

theorem follows_land {before : Session} (kept : session.flight = before.flight)
    {dragged : NodeId} (flying : before.inFlight = some dragged)
    (aiming : before.flight.activeTarget? dragged = some target) :
    Follows before.flight (.land dragged target) (session.land dragged) := by
  refine ⟨⟨flying, aiming⟩, session.tree.destroyed, fun node member => ?_, ?_⟩
  · exact (session.evolves_land dragged).lost wellFormed
      (wellFormed.lost_of_destroyed node member)
  · rw [flight_land target, kept]

theorem makes_dock {dragged : NodeId} (flying : session.inFlight = some dragged)
    (aiming : session.flight.activeTarget? dragged = some target) (root : Point) :
    ∃ turn, Makes session target hooks turn (session.dock target dragged root hooks) := by
  have silent := feedback?_runAccept hooks session.tree target dragged
  have freed := session.flight_withCarrier dragged fun carrier scene =>
    carrier.beforeDock scene dragged
  have cleared := session.evolves_withCarrier_beforeDock dragged
  unfold dock
  generalize session.withCarrier dragged (fun carrier scene => carrier.beforeDock scene dragged)
    = released at freed cleared ⊢
  dsimp only
  split
  · have earlier : Tree.Evolves session.tree
        (hooks.runInsert released.tree target dragged).1 := cleared.trans (.edit _ _)
    have placed := earlier.wellFormed wellFormed
    have silent : ((hooks.runAccept session.tree target dragged).2 ++
        (hooks.runInsert released.tree target dragged).2).filterMap HookCall.feedback? = [] := by
      rw [List.filterMap_append, silent]
      rfl
    generalize hooks.runInsert released.tree target dragged = inserted at earlier placed silent ⊢
    split
    · exact ⟨_, @makes_turnAway { released with tree := inserted.1 } placed target hooks session
        wellFormed freed earlier dragged flying aiming root _ silent⟩
    · have told := evolves_giveFeedback { released with tree := inserted.1 } target hooks false
      have landed := @follows_land
        (giveFeedback { released with tree := inserted.1 } hooks target false).1
        (told.wellFormed placed) target session freed dragged flying aiming
      refine ⟨.land dragged target, landed, .inr ⟨false, rfl, ?_⟩, rfl⟩
      refine (hears_giveFeedback wellFormed _ hooks target false ?_ ?_).after_silence silent
      · exact earlier
      · exact told.trans (evolves_land _ dragged)
  · exact ⟨_, makes_turnAway wellFormed target hooks wellFormed rfl (.refl _) flying aiming root
      silent⟩

omit wellFormed in
theorem docked_of_armedChild? {node : NodeId}
    (armed : session.armedChild? target = some node) :
    ∃ dockable, session.dockable? node = some dockable ∧ dockable.phase = .docked ∧
      session.tree.parent? node = some target := by
  obtain ⟨dockable, found, chosen⟩ := Table.findKey?_sound armed
  rw [Bool.and_eq_true, Bool.and_eq_true, decide_eq_true_eq, decide_eq_true_eq] at chosen
  exact ⟨dockable, found, chosen.1⟩

omit wellFormed in
theorem exceeds_of_armedChild? {node : NodeId} {dockable : Dockable}
    (armed : session.armedChild? target = some node)
    (found : session.dockable? node = some dockable) :
    dockable.pressExceeds session.settings.tearOutThreshold = true := by
  obtain ⟨same, foundSame, chosen⟩ := Table.findKey?_sound armed
  cases found.symm.trans foundSame
  rw [Bool.and_eq_true] at chosen
  exact chosen.2

theorem makes_tearOutChild (root : Point) :
    ∃ turn, Makes session target hooks turn (session.tearOutChild target root hooks) := by
  unfold tearOutChild
  cases armed : session.armedChild? target with
  | none => exact Makes.quietly (.stay rfl) rfl
  | some node =>
      obtain ⟨dockable, found, docked, linked⟩ := docked_of_armedChild? target armed
      obtain ⟨index, indexed⟩ := wellFormed.indexOf?_of_parent? linked
      have standing := standing?_of_dockable? found
      have resting : dockable.standing.isInFlight = false := congrArg Phase.isInFlight docked
      dsimp only
      cases session.screenRect? node with
      | none => exact Makes.quietly (.stay rfl) rfl
      | some rect =>
          have removed := Tree.Evolves.edit session.tree (hooks.remove.getD
            (fun _ _ dockable => [.detach dockable]) session.tree target node)
          dsimp only
          rw [linked, indexed, Option.bind_some, Option.map_some]
          generalize asked : (⟨root, root - rect.position, some target, some (target, index)⟩ :
            TearOut) = tearOut
          have freed := removed.trans (.apply _ (.detach node))
          have begun := flight_beginDrag { session with
            tree := ((hooks.runRemove session.tree target node).1.detach node).1 } node tearOut
          have evolves := evolves_beginDrag { session with
            tree := ((hooks.runRemove session.tree target node).1.detach node).1 } node tearOut
          generalize beginDrag _ node tearOut = outcome at begun evolves ⊢
          obtain ⟨after, result⟩ := outcome
          cases result with
          | ok =>
              subst asked
              refine ⟨.pull node target, .of_flight ⟨⟨_, standing, resting⟩, begun.2.1⟩ ?_,
                .inl ⟨rfl, rfl⟩, rfl⟩
              exact congrArg (Flight.post · target (.undock node)) begun.2.2
          | error error =>
              have kept : after.tree.WellFormed := (freed.trans evolves).wellFormed wellFormed
              have calmed : (after.update node fun dockable =>
                  { dockable with press := none }).flight = after.flight :=
                after.flight_update_of_eq node fun _ => rfl
              -- the slot it had is known, so it went back there
              have unchanged : after.flight = session.flight := by
                refine begun.resolve_right fun ⟨homeless, _⟩ => ?_
                have slotless := homeless.slotless
                rw [← asked, Option.or_eq_none_iff] at slotless
                cases slotless.2
              refine Makes.quietly ⟨.stay, rfl, rfl, ?_⟩ rfl
              dsimp only
              split
              · refine .destroyWidget ?_ _ trivial (calmed.trans unchanged)
                exact kept
              · exact .of_flight trivial (calmed.trans unchanged)

theorem makes_targetEvent (event : Event) :
    ∃ turn, Makes session target hooks turn (session.targetEvent target event hooks) := by
  refine targetEvent_cases
    (motive := fun reaction => ∃ turn, Makes session target hooks turn reaction) ?_ ?_ ?_ ?_ ?_ event
  · exact fun _ => Makes.quietly (.stay rfl) rfl
  · exact ⟨_, makes_targetLeave wellFormed target hooks⟩
  · exact fun _ root => makes_tearOutChild wellFormed target hooks root
  · exact fun _ root flying => makes_targetMotion wellFormed target hooks flying root
  · intro dragged root flying aiming
    rw [← activeTarget?_flight] at aiming
    exact makes_dock wellFormed target hooks flying aiming root

end Session
end Docking

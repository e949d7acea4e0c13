import Docking.Proofs.Flight.Session
import Docking.Proofs.Session.Operation

namespace Docking

/-! Every operation of a session makes one turn of its flight and may make the flight catch
up with destructions afterwards. -/

open Flight (Turn)

def HookCall.feedback? : HookCall → Option (NodeId × Bool)
  | .feedback target shown => some (target, shown)
  | _ => none

namespace Session

/-- `after` is reached from `before` by a turn, and whatever is forgotten afterwards is no
longer in the tree. -/
structure Follows (before : Flight) (turn : Turn) (after : Session) : Prop where
  admitted : before.Admits turn
  flight_eq : ∃ gone, (∀ node ∈ gone, after.tree.Lost node) ∧
    after.flight = (before.make turn).forget gone

def FollowsQuietly (before : Flight) (after : Session) : Prop :=
  ∃ turn, turn.isQuiet = true ∧ Follows before turn after

/-- By a quiet turn, and no dockable is put down where there was no place for it. -/
def FollowsSafely (before : Flight) (after : Session) : Prop :=
  ∃ turn, turn.isQuiet = true ∧ turn.strands = false ∧ Follows before turn after

namespace Follows

variable {before : Flight} {turn : Turn} {session : Session}

theorem of_flight (admitted : before.Admits turn)
    (flight_eq : session.flight = before.make turn) : Follows before turn session := by
  refine ⟨admitted, [], fun _ member => (nomatch member), ?_⟩
  rw [Flight.forget_nil]
  exact flight_eq

theorem syncDestroyed (wellFormed : session.tree.WellFormed) (admitted : before.Admits turn)
    (flight_eq : session.flight = before.make turn) :
    Follows before turn session.syncDestroyed := by
  refine ⟨admitted, session.tree.destroyed, fun node member => ?_, ?_⟩
  · exact session.evolves_syncDestroyed.lost wellFormed
      (wellFormed.lost_of_destroyed node member)
  · rw [flight_syncDestroyed, flight_eq]

theorem destroyWidget (wellFormed : session.tree.WellFormed) (node : NodeId)
    (admitted : before.Admits turn) (flight_eq : session.flight = before.make turn) :
    Follows before turn (session.destroyWidget node) :=
  syncDestroyed (wellFormed.destroy node) admitted flight_eq

theorem releaseUndocked (wellFormed : session.tree.WellFormed) {node : NodeId} (root : Point)
    (admitted : before.Admits turn)
    (flight_eq : session.flight.settle node = before.make turn) :
    Follows before turn (session.releaseUndocked node root) := by
  have rested := (session.flight_settleUndocked node root).trans flight_eq
  have kept := (session.evolves_settleUndocked node root).wellFormed wellFormed
  unfold Session.releaseUndocked
  generalize session.settleUndocked node root = settled at rested kept ⊢
  dsimp only
  split
  · split
    · exact of_flight admitted rested
    · refine destroyWidget ?_ node admitted ?_
      · exact kept
      · exact rested
  · exact of_flight admitted rested

end Follows

namespace FollowsSafely

theorem quietly {before : Flight} {after : Session} (safely : FollowsSafely before after) :
    FollowsQuietly before after :=
  let ⟨turn, quiet, _, follows⟩ := safely
  ⟨turn, quiet, follows⟩

variable {session after : Session}

theorem stay (flight_eq : after.flight = session.flight) :
    FollowsSafely session.flight after :=
  ⟨.stay, rfl, rfl, .of_flight trivial flight_eq⟩

theorem syncDestroyed (wellFormed : session.tree.WellFormed) :
    FollowsSafely session.flight session.syncDestroyed :=
  ⟨.stay, rfl, rfl, .syncDestroyed wellFormed trivial rfl⟩

theorem destroyWidget (wellFormed : session.tree.WellFormed) (node : NodeId) :
    FollowsSafely session.flight (session.destroyWidget node) :=
  ⟨.stay, rfl, rfl, .destroyWidget wellFormed node trivial rfl⟩

variable {node : NodeId} {dockable : Dockable}

theorem settle (found : session.dockable? node = some dockable)
    (flying : dockable.isInFlight = true) (root : Point) :
    FollowsSafely session.flight (session.settleUndocked node root) :=
  ⟨.settle node, rfl, rfl, .of_flight ⟨dockable.standing, standing?_of_dockable? found, flying⟩
    (session.flight_settleUndocked node root)⟩

theorem release (wellFormed : session.tree.WellFormed)
    (found : session.dockable? node = some dockable) (flying : dockable.isInFlight = true)
    (root : Point) : FollowsSafely session.flight (session.releaseUndocked node root) :=
  ⟨.settle node, rfl, rfl, .releaseUndocked wellFormed root
    ⟨dockable.standing, standing?_of_dockable? found, flying⟩ rfl⟩

end FollowsSafely

variable (session : Session)

theorem follows_create (fresh : session.dockable? session.tree.nextId = none)
    (plan : DockablePlan) :
    (session.create plan).1 = session ∨
      session.tree.nextIndex < (session.create plan).1.tree.nextIndex ∧
        ∃ phase, Follows session.flight (.register session.tree.nextId phase)
          (session.create plan).1 := by
  have built : ∃ phase, Follows session.flight (.register session.tree.nextId phase)
      (session.build plan).1 := by
    refine ⟨if plan.container.isSome then .docked else .undocked,
      .of_flight ⟨congrArg (Option.map Dockable.standing) fresh, ?_⟩ (session.flight_build plan)⟩
    split <;> rfl
  have grown := session.nextIndex_lt_build plan
  unfold create
  split
  · split
    · exact .inr ⟨grown, built⟩
    · exact .inl rfl
  · exact .inr ⟨grown, built⟩

/-- The tear-out of a dockable at rest fails, and it has no place to go back to. -/
structure Strands (node : NodeId) (root : Point) : Prop where
  resting : ∃ dockable, session.dockable? node = some dockable ∧ dockable.isInFlight = false
  failed : ∃ error, (session.tearOut node root).2 = .error error
  alone : ∀ other, session.inFlight = some other → other = node
  rootless : (session.tree.detach node).2 = none
  flight_eq : (session.tearOut node root).1.flight = session.flight.make (.ground node)

theorem Strands.follows {session : Session} {node : NodeId} {root : Point}
    (strands : session.Strands node root) :
    Follows session.flight (.ground node) (session.tearOut node root).1 := by
  obtain ⟨dockable, found, resting⟩ := strands.resting
  exact .of_flight ⟨_, standing?_of_dockable? found, resting⟩ strands.flight_eq

theorem tearOut_cases (node : NodeId) (root : Point) :
    FollowsSafely session.flight (session.tearOut node root).1 ∨ session.Strands node root := by
  rcases session.staysPut_or_begins node root with ⟨result, stays⟩ | ⟨dockable, asked, begins⟩
  · rw [stays.unchanged]
    exact .inl (.stay rfl)
  · have standing := standing?_of_dockable? begins.found
    have begun := session.flight_beginDrag node asked
    rw [← begins.begun] at begun
    split at begun
    · next same =>
        rw [same]
        exact .inl ⟨.launch node asked.origin, rfl, rfl,
          .of_flight ⟨⟨_, standing, begins.resting⟩, begun.2.1⟩ begun.2.2⟩
    · next error same =>
        rcases begun with kept | ⟨homeless, grounded⟩
        · rw [same]
          exact .inl (.stay kept)
        · have rootless := homeless.slotless
          rw [begins.slotless, Option.or_none] at rootless
          refine .inr ⟨⟨dockable, begins.found, begins.resting⟩, ⟨error, ?_⟩, homeless.alone,
            rootless, ?_⟩
          · rw [same]
          · rw [same]
            exact grounded

theorem follows_tearOut_of_undocked {node : NodeId} {dockable : Dockable}
    (found : session.dockable? node = some dockable) (undocked : dockable.phase = .undocked)
    (root : Point) : FollowsSafely session.flight (session.tearOut node root).1 := by
  rcases session.tearOut_cases node root with safely | strands
  · exact safely
  · refine .stay (strands.flight_eq.trans (Flight.adjust_of_eq fun standing stands => ?_))
    rw [standing?_of_dockable? found] at stands
    cases stands
    rw [Standing.enter, ← undocked]
    rfl

theorem follows_tearOut (node : NodeId) (root : Point) :
    FollowsQuietly session.flight (session.tearOut node root).1 := by
  rcases session.tearOut_cases node root with safely | strands
  · exact safely.quietly
  · exact ⟨.ground node, rfl, strands.follows⟩

theorem follows_forceUndocked (node : NodeId) :
    FollowsSafely session.flight (session.forceUndocked node).1 := by
  unfold forceUndocked
  split
  · exact .stay rfl
  · next dockable found =>
      split
      · exact .stay rfl
      · exact .stay rfl
      · next phase => exact .settle found (congrArg Phase.isInFlight phase) _
      · next phase => exact .settle found (congrArg Phase.isInFlight phase) _

section Payload

variable {session} (wellFormed : session.tree.WellFormed) {node : NodeId}
  {dockable : Dockable} (found : session.dockable? node = some dockable)
include wellFormed found

theorem follows_interruption? {event : Event} {outcome : Session × Status}
    (interrupted : session.interruption? node dockable event = some outcome) :
    FollowsSafely session.flight outcome.1 := by
  unfold interruption? at interrupted
  split at interrupted
  · split at interrupted
    · next flying =>
        cases interrupted
        exact .settle found flying _
    · cases interrupted
  · split at interrupted
    · next flying =>
        cases interrupted
        rw [Bool.and_eq_true] at flying
        exact .settle found flying.1 _
    · cases interrupted
  · split at interrupted
    · cases interrupted
      exact .stay (session.flight_update_of_eq node fun _ => rfl)
    · cases interrupted
  · split at interrupted
    · cases interrupted
      dsimp only
      split
      · next flying => exact .settle found flying _
      · split
        · exact .destroyWidget wellFormed node
        · exact .stay rfl
    · cases interrupted
  · split at interrupted
    · next flying =>
        cases interrupted
        exact .release wellFormed found flying _
    · cases interrupted
  · cases interrupted

theorem follows_respond (gesture : Gesture) :
    FollowsSafely session.flight (session.respond node dockable.phase gesture).1 := by
  cases gesture with
  | ignored => exact .stay rfl
  | pressed root => exact .stay rfl
  | motion root =>
      cases phase : dockable.phase with
      | undocked =>
          dsimp only [respond]
          split
          · split
            · exact session.follows_tearOut_of_undocked found phase root
            · exact .stay rfl
          · exact .stay rfl
      | dragging => exact .stay rfl
      | hovering => exact .stay rfl
      | docked => exact .stay rfl
  | released root =>
      cases phase : dockable.phase with
      | undocked => exact .stay rfl
      | dragging => exact .release wellFormed found (congrArg Phase.isInFlight phase) root
      | hovering =>
          dsimp only [respond]
          split
          · next target _ => exact ⟨.passRelease target root, rfl, rfl, .of_flight trivial rfl⟩
          · exact .release wellFormed found (congrArg Phase.isInFlight phase) root
      | docked => exact .stay rfl

theorem follows_gesture (event : Event) :
    FollowsSafely session.flight (session.gesture node dockable event).1 := by
  have unmoved := dockable.carrier.tree_handle session.toScene dockable.press
    dockable.isInFlight event
  unfold Session.gesture
  generalize dockable.carrier.handle session.toScene dockable.press dockable.isInFlight
    event = handled at unmoved ⊢
  obtain ⟨scene, press, gesture⟩ := handled
  have kept : ({ session with toScene := scene }.update node fun dockable =>
      { dockable with press }).flight = session.flight :=
    flight_update_of_eq { session with toScene := scene } node fun _ => rfl
  have refound : ({ session with toScene := scene }.update node fun dockable =>
      { dockable with press }).dockable? node = some { dockable with press } := by
    rw [dockable?_update, if_pos rfl]
    exact congrArg (Option.map _) found
  rw [← kept]
  exact follows_respond (unmoved.symm ▸ wellFormed) refound gesture

end Payload

theorem follows_payloadEvent (wellFormed : session.tree.WellFormed) (node : NodeId)
    (event : Event) : FollowsSafely session.flight (session.payloadEvent node event).1 := by
  unfold payloadEvent
  split
  · exact .stay rfl
  · next dockable found =>
      split
      · next interrupted => exact follows_interruption? wellFormed found interrupted
      · exact follows_gesture wellFormed found event

def Operation.isQuiet : Operation → Bool
  | .create _ | .targetEvent .. | .takeNotices => false
  | _ => true

theorem followsSafely_perform (wellFormed : session.tree.WellFormed) {operation : Operation}
    (quiet : operation.isQuiet = true) (aloft : ∀ node root, operation ≠ .tearOut node root) :
    FollowsSafely session.flight (session.perform operation) := by
  cases operation with
  | edit change => exact .stay rfl
  | command command => exact .stay rfl
  | create plan => cases quiet
  | destroyDockable node =>
      unfold perform destroyDockable
      dsimp only
      split
      · exact .destroyWidget wellFormed node
      · exact .stay rfl
  | destroyWidget node => exact .destroyWidget wellFormed node
  | syncDestroyed => exact .syncDestroyed wellFormed
  | tearOut node root => exact absurd rfl (aloft node root)
  | forceUndocked node => exact session.follows_forceUndocked node
  | startInteractiveResize node edge =>
      exact .stay (session.flight_startInteractiveResize node edge)
  | payloadEvent node event => exact session.follows_payloadEvent wellFormed node event
  | targetEvent target event hooks => cases quiet
  | takeNotices => cases quiet

theorem followsQuietly_perform (wellFormed : session.tree.WellFormed) {operation : Operation}
    (quiet : operation.isQuiet = true) :
    FollowsQuietly session.flight (session.perform operation) := by
  by_cases aloft : ∀ node root, operation ≠ .tearOut node root
  · exact (session.followsSafely_perform wellFormed quiet aloft).quietly
  · push Not at aloft
    obtain ⟨node, root, rfl⟩ := aloft
    exact session.follows_tearOut node root

end Session
end Docking

import Docking.Proofs.Flight.Single
import Docking.Proofs.Flight.Target

namespace Docking.Session

/-! What is true of the flight after any run: any operations in any order, with any hooks,
on any windowing system. -/

open Flight (Turn)

structure Orderly (session : Session) : Prop where
  wellFormed : session.tree.WellFormed
  single : session.flight.Single
  index_lt : ∀ node standing, session.flight.standing? node = some standing →
    node.index < session.tree.nextIndex

namespace Orderly

variable {session : Session}

theorem start (desktop : Desktop) (settings : Settings) : (start desktop settings).Orderly where
  wellFormed := Tree.wellFormed_empty
  single := Flight.Single.empty []
  index_lt _ _ found := nomatch found

variable (orderly : session.Orderly)
include orderly

theorem fresh : session.dockable? session.tree.nextId = none := by
  cases found : session.dockable? session.tree.nextId with
  | none => rfl
  | some dockable =>
      exact absurd (orderly.index_lt _ _ (standing?_of_dockable? found)) (Nat.lt_irrefl _)

theorem dockable?_of_inFlight {node : NodeId} (flying : session.inFlight = some node) :
    ∃ dockable, session.dockable? node = some dockable ∧ dockable.isInFlight = true := by
  obtain ⟨standing, stands, inFlight⟩ := (orderly.single.inFlight_iff node).mp flying
  obtain ⟨dockable, found, rfl⟩ := Option.map_eq_some_iff.mp stands
  exact ⟨dockable, found, inFlight⟩

theorem follows {after : Session} {turn : Turn} (follows : Follows session.flight turn after)
    (evolves : Tree.Evolves session.tree after.tree)
    (newcomer : ∀ node phase, turn = .register node phase → node.index < after.tree.nextIndex) :
    after.Orderly where
  wellFormed := evolves.wellFormed orderly.wellFormed
  single := by
    obtain ⟨gone, _, flight_eq⟩ := follows.flight_eq
    rw [flight_eq]
    exact (orderly.single.make follows.admitted).forget gone
  index_lt node standing found := by
    obtain ⟨gone, _, flight_eq⟩ := follows.flight_eq
    rw [flight_eq] at found
    obtain ⟨earlier, made⟩ := Flight.registered_of_forget found
    rcases Flight.registered_of_make made with ⟨known, before⟩ | ⟨phase, registers⟩
    · exact Nat.lt_of_lt_of_le (orderly.index_lt node known before) evolves.nextIndex_le
    · exact newcomer node phase registers

theorem followsQuietly {after : Session} (quietly : FollowsQuietly session.flight after)
    (evolves : Tree.Evolves session.tree after.tree) : after.Orderly := by
  obtain ⟨turn, quiet, follows⟩ := quietly
  refine orderly.follows follows evolves fun node phase registers => ?_
  subst registers
  cases quiet

theorem create (plan : DockablePlan) : (session.create plan).1.Orderly := by
  rcases session.follows_create orderly.fresh plan with same | ⟨grown, phase, follows⟩
  · rw [same]
    exact orderly
  · refine orderly.follows follows (session.evolves_create plan) fun node phase registers => ?_
    cases registers
    exact grown

theorem targetEvent (target : NodeId) (event : Event) (hooks : Hooks) :
    (session.targetEvent target event hooks).session.Orderly := by
  obtain ⟨turn, follows, hears, _⟩ := makes_targetEvent orderly.wellFormed target hooks event
  refine orderly.follows follows (session.evolves_targetEvent target hooks event)
    fun node phase registers => ?_
  subst registers
  rcases hears with ⟨quiet, _⟩ | ⟨shown, told, _⟩
  · cases quiet
  · cases told

theorem takeNotices : session.takeNotices.1.Orderly where
  wellFormed := orderly.wellFormed
  single := orderly.single.transfer rfl rfl
  index_lt := orderly.index_lt

theorem perform (operation : Operation) : (session.perform operation).Orderly := by
  have quietly (quiet : operation.isQuiet = true) : (session.perform operation).Orderly :=
    orderly.followsQuietly (session.followsQuietly_perform orderly.wellFormed quiet)
      (session.evolves_perform operation)
  cases operation with
  | create plan => exact orderly.create plan
  | targetEvent target event hooks => exact orderly.targetEvent target event hooks
  | takeNotices => exact orderly.takeNotices
  | _ => exact quietly rfl

end Orderly

theorem orderly_run (desktop : Desktop) (settings : Settings) (operations : List Operation) :
    ((start desktop settings).run operations).Orderly :=
  run_induction (.start desktop settings) (fun _ operation orderly => orderly.perform operation)
    operations

theorem orderly_of_reachable {session : Session} (reachable : session.Reachable) :
    session.Orderly := by
  obtain ⟨desktop, settings, operations, rfl⟩ := reachable
  exact orderly_run desktop settings operations

/-- At most one dockable is in flight, it is the one the session knows of, it hovers exactly
while it has an active target, and no other remembers where it came from. -/
structure SingleFlight (session : Session) : Prop where
  inFlight_iff : ∀ node, session.inFlight = some node ↔
    ∃ dockable, session.dockable? node = some dockable ∧
      (dockable.phase = .dragging ∨ dockable.phase = .hovering)
  hovering_iff : ∀ node dockable, session.dockable? node = some dockable →
    (dockable.phase = .hovering ↔ dockable.activeTarget.isSome = true)
  inFlight_of_origin : ∀ node dockable, session.dockable? node = some dockable →
    dockable.originTarget.isSome = true → dockable.phase = .dragging ∨ dockable.phase = .hovering

theorem singleFlight_run (desktop : Desktop) (settings : Settings)
    (operations : List Operation) :
    ((start desktop settings).run operations).SingleFlight := by
  have single := (orderly_run desktop settings operations).single
  generalize (start desktop settings).run operations = session at single
  have isInFlight_iff (phase : Phase) :
      phase.isInFlight = true ↔ phase = .dragging ∨ phase = .hovering := by
    cases phase <;> decide
  constructor
  · intro node
    refine (single.inFlight_iff node).trans ⟨?_, ?_⟩
    · rintro ⟨standing, found, flying⟩
      obtain ⟨dockable, known, rfl⟩ := Option.map_eq_some_iff.mp found
      exact ⟨dockable, known, (isInFlight_iff _).mp flying⟩
    · rintro ⟨dockable, known, flying⟩
      exact ⟨_, standing?_of_dockable? known, (isInFlight_iff _).mpr flying⟩
  · intro node dockable known
    exact (single.sound node _ (standing?_of_dockable? known)).hovering_iff
  · intro node dockable known origin
    have sound := single.sound node _ (standing?_of_dockable? known)
    exact (isInFlight_iff _).mp (sound.inFlight_of_origin origin)

end Docking.Session

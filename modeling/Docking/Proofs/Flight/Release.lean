import Docking.Proofs.Flight.Landing

namespace Docking

/-! A release ends the drag. The dockable hears of the button first and passes the release on
to the target it hovers over; when the target has been told, the dockable is docked or rests
undocked, or it is gone and there is a reason for that. -/

open Flight (Turn)

namespace Flight

variable {flight : Flight} {node : NodeId}

def Turn.restingPhase : Turn → Phase
  | .land .. => .docked
  | _ => .undocked

theorem standing?_make_of_endsFlight {turn : Turn} (ends : turn.EndsFlight node)
    {standing : Standing} (known : flight.standing? node = some standing) :
    (flight.make turn).standing? node = some (.atRest turn.restingPhase) := by
  have adjusted {earlier : Flight} (same : earlier.standing? = flight.standing?)
      (phase : Phase) : (earlier.adjust node fun _ => .atRest phase).standing? node =
        some (.atRest phase) := by
    simp only [adjust, if_true, same, known, Option.map_some]
  cases turn with
  | settle other =>
      cases ends
      exact adjusted (flight.standing?_bidFarewell node) .undocked
  | turnAway other target =>
      cases ends
      exact adjusted rfl .undocked
  | land other target =>
      cases ends
      exact adjusted rfl .docked
  | _ => cases ends

theorem outbox_make_of_endsFlight {turn : Turn} (ends : turn.EndsFlight node)
    (told : turn = .settle node → flight.activeTarget? node = none) :
    (flight.make turn).outbox = flight.outbox := by
  cases turn with
  | settle other =>
      cases ends
      have quiet : flight.bidFarewell node = flight := by rw [bidFarewell, told rfl]
      rw [make, settle, quiet]
      rfl
  | turnAway other target => rfl
  | land other target => rfl
  | _ => cases ends

theorem forget_atRest (gone : List NodeId) (phase : Phase) :
    (Standing.atRest phase).forget gone = .atRest phase :=
  rfl

end Flight

namespace Session

theorem Follows.phase_of_endsFlight {before : Flight} {turn : Turn} {after : Session}
    {node : NodeId} (follows : Follows before turn after) (ends : turn.EndsFlight node)
    {standing : Standing} (known : before.standing? node = some standing) {rested : Dockable}
    (found : after.dockable? node = some rested) : rested.phase = turn.restingPhase := by
  obtain ⟨gone, _, flight_eq⟩ := follows.flight_eq
  have stands := standing?_of_dockable? found
  rw [flight_eq, Flight.standing?_forget, Flight.standing?_make_of_endsFlight ends known,
    Option.map_some, Flight.forget_atRest] at stands
  split at stands
  · cases stands
  · exact congrArg Standing.phase (Option.some.inj stands).symm

theorem Follows.outbox_of_endsFlight {before : Flight} {turn : Turn} {after : Session}
    {node : NodeId} (follows : Follows before turn after) (ends : turn.EndsFlight node)
    (flying : before.inFlight = some node)
    (told : turn = .settle node → before.activeTarget? node = none) :
    after.outbox = before.outbox := by
  obtain ⟨gone, _, flight_eq⟩ := follows.flight_eq
  have grounded := Flight.inFlight_make_of_endsFlight ends flying
  have kept := (Flight.forget_of_grounded gone grounded).2
  rw [← flight_eq, Flight.outbox_make_of_endsFlight ends told] at kept
  exact kept

def letGo (session : Session) (node : NodeId) : Session :=
  session.update node fun dockable => { dockable with press := none }

@[simp] theorem flight_letGo (session : Session) (node : NodeId) :
    (session.letGo node).flight = session.flight :=
  flight_update_of_eq session node fun _ => rfl

theorem Orderly.letGo {session : Session} (orderly : session.Orderly) (node : NodeId) :
    (session.letGo node).Orderly :=
  orderly.followsQuietly (FollowsSafely.stay (session.flight_letGo node)).quietly (.refl _)

def MeansRelease (session : Session) (event : Event) (root : Point) : Prop :=
  session.remap event = .pointerUp .primary root ∨ session.remap event = .dockRelease root

section Payload

variable {session : Session} {node target : NodeId} (root : Point)

theorem payloadEvent_pointerUp {dockable : Dockable}
    (found : session.dockable? node = some dockable) (flying : dockable.isInFlight = true) :
    session.payloadEvent node (.pointerUp .primary root) =
      (session.letGo node).respond node dockable.phase (.released root) := by
  unfold payloadEvent
  rw [found]
  simp only [interruption?, gesture, Carrier.handle, Press.track, flying, Bool.or_true, if_true]
  rfl

theorem payloadEvent_of_dragsFreely (free : session.DragsFreely node) :
    (session.payloadEvent node (.pointerUp .primary root)).1 =
      (session.letGo node).releaseUndocked node root := by
  obtain ⟨_, dockable, found, phase, _⟩ := free
  rw [payloadEvent_pointerUp root found (congrArg Phase.isInFlight phase), phase]
  rfl

theorem payloadEvent_of_hoversOver (hovers : session.HoversOver node target) :
    (session.payloadEvent node (.pointerUp .primary root)).1 =
      (session.letGo node).notify target (.dockRelease root) := by
  obtain ⟨_, dockable, found, phase, active⟩ := hovers
  have aims : ((session.letGo node).dockable? node).bind Dockable.activeTarget =
      some target := by
    rw [letGo, dockable?_update, if_pos rfl, found]
    exact active
  rw [payloadEvent_pointerUp root found (congrArg Phase.isInFlight phase), phase]
  unfold respond
  dsimp only
  rw [aims]

theorem targetEvent_of_meansRelease {event : Event} (hovers : session.HoversOver node target)
    (release : session.MeansRelease event root) (hooks : Hooks) :
    session.targetEvent target event hooks = session.dock target node root hooks := by
  obtain ⟨flying, dockable, found, _, active⟩ := hovers
  have aims : (session.dockable? node).bind Dockable.activeTarget = some target := by
    rw [found]
    exact active
  unfold targetEvent
  rcases release with meant | meant
  · rw [meant, flying]
    exact if_pos aims
  · rw [meant, flying]
    exact if_pos aims

end Payload

theorem HoversOver.letGo {session : Session} {node target : NodeId}
    (hovers : session.HoversOver node target) : (session.letGo node).HoversOver node target := by
  obtain ⟨flying, dockable, found, phase, active⟩ := hovers
  refine ⟨flying, { dockable with press := none }, ?_, phase, active⟩
  rw [Session.letGo, dockable?_update, if_pos rfl, found]
  rfl

theorem deliverWaiting_notify {session : Session} (nothing : session.outbox = [])
    (target : NodeId) (event : Event) (hooks : Hooks) (rounds : Nat) :
    ((session.notify target event).deliverWaiting hooks (rounds + 1)).1 =
      ((session.targetEvent target event hooks).session.deliverWaiting hooks rounds).1 := by
  have taken : (session.notify target event).takeNotices = (session, [⟨target, event⟩]) := by
    obtain ⟨scene, settings, dockables, inFlight, outbox⟩ := session
    cases nothing
    rfl
  rw [deliverWaiting, taken]
  rfl

section End

variable {before after : Session} {node : NodeId} {hooks : Hooks} {turn : Turn}

/-- Why a dockable that was released is no longer registered: it was not to be kept, or its
target destroyed it when it was told of the docking. -/
def LostFor (before released after : Session) (node : NodeId) (hooks : Hooks) : Prop :=
  before.Declines ∧ after.desktop.questions = before.desktop.questions ++ [before.question] ∨
    ∃ target, before.HoversOver node target ∧
      (released.insertedTree target node hooks).contains node = true ∧
      (hooks.runFeedback (released.insertedTree target node hooks) target false).1.contains
        node = false

/-- What has become of a dockable that was released once its target has been told. -/
structure CameToRest (before released after : Session) (node : NodeId) (hooks : Hooks) :
    Prop where
  inFlight_eq : after.inFlight = none
  outbox_eq : after.outbox = []
  resting : ∀ other dockable, after.dockable? other = some dockable →
    dockable.phase = .docked ∨ dockable.phase = .undocked
  docked_iff : ∀ dockable, after.dockable? node = some dockable →
    (dockable.phase = .docked ↔
      ∃ target, before.HoversOver node target ∧ released.Takes target node hooks)
  lost : after.dockable? node = none → LostFor before released after node hooks

theorem Orderly.resting (orderly : after.Orderly) (grounded : after.inFlight = none)
    {other : NodeId} {dockable : Dockable} (found : after.dockable? other = some dockable) :
    dockable.phase = .docked ∨ dockable.phase = .undocked := by
  have rests : dockable.isInFlight ≠ true := fun flies => by
    have flying := (orderly.single.inFlight_iff other).mpr
      ⟨_, standing?_of_dockable? found, flies⟩
    exact nomatch grounded.symm.trans flying
  cases phase : dockable.phase with
  | undocked => exact .inr rfl
  | docked => exact .inl rfl
  | dragging => exact absurd (congrArg Phase.isInFlight phase) rests
  | hovering => exact absurd (congrArg Phase.isInFlight phase) rests

theorem flight_releaseUndocked (session : Session) (node : NodeId) (root : Point)
    (keeps : ¬ session.Declines) :
    (session.releaseUndocked node root).flight = session.flight.settle node := by
  have steady := session.steady_settleUndocked node root
  have rested := session.flight_settleUndocked node root
  unfold releaseUndocked
  generalize session.settleUndocked node root = settled at steady rested ⊢
  dsimp only
  split
  · next asks =>
      split
      · exact rested
      · next declined =>
          refine absurd (steady.declines_iff.mp ⟨asks, ?_⟩) keeps
          rwa [Bool.not_eq_true] at declined
  · exact rested

theorem declined_of_releaseUndocked {session : Session} (steady : Steady before session)
    {root : Point} {dockable : Dockable} (found : session.dockable? node = some dockable)
    (gone : (session.releaseUndocked node root).dockable? node = none) :
    before.Declines ∧ (session.releaseUndocked node root).desktop.questions =
      before.desktop.questions ++ [before.question] := by
  have declines : session.Declines := by
    by_contra keeps
    have stands := congrArg (Flight.standing? · node)
      (session.flight_releaseUndocked node root keeps)
    have unknown : (session.releaseUndocked node root).flight.standing? node = none :=
      congrArg (Option.map Dockable.standing) gone
    have ends : Turn.EndsFlight node (.settle node) := rfl
    have made := Flight.standing?_make_of_endsFlight ends (standing?_of_dockable? found)
    rw [unknown] at stands
    exact nomatch stands.trans made
  refine ⟨steady.declines_iff.mp declines, ?_⟩
  rw [questions_releaseUndocked, if_pos declines.1, steady.desktop.questions_eq, question,
    steady.settings_eq]
  rfl

theorem CameToRest.of_follows {released : Session} (orderly : before.Orderly)
    (flying : before.inFlight = some node) (nothing : before.outbox = [])
    (follows : Follows before.flight turn after) (ends : turn.EndsFlight node)
    (told : turn = .settle node → before.flight.activeTarget? node = none)
    (settled : after.Orderly)
    (docked_iff : turn.restingPhase = .docked ↔
      ∃ target, before.HoversOver node target ∧ released.Takes target node hooks)
    (lost : after.dockable? node = none → LostFor before released after node hooks) :
    CameToRest before released after node hooks := by
  obtain ⟨standing, known⟩ := orderly.single.registered flying
  have grounded := follows.inFlight_eq_none ends flying
  refine ⟨grounded, ?_, fun other dockable => settled.resting grounded, ?_, lost⟩
  · exact (follows.outbox_of_endsFlight ends flying told).trans nothing
  · intro dockable found
    rw [follows.phase_of_endsFlight ends known found]
    exact docked_iff

variable {session : Session} (orderly : session.Orderly) (nothing : session.outbox = [])
  (root : Point)
include orderly nothing

theorem cameToRest_of_dragsFreely (hooks : Hooks) (free : session.DragsFreely node) :
    CameToRest session ((session.letGo node).releaseUndocked node root)
      ((session.letGo node).releaseUndocked node root) node hooks := by
  obtain ⟨flying, aimless⟩ := orderly.dragsFreely_iff.mp free
  obtain ⟨_, dockable, found, _, inactive⟩ := free
  have calm := orderly.letGo node
  have follows : Follows session.flight (.settle node)
      ((session.letGo node).releaseUndocked node root) :=
    .releaseUndocked calm.wellFormed root ((orderly.single.inFlight_iff node).mp flying)
      (congrArg (Flight.settle · node) (session.flight_letGo node))
  have elsewhere (target : NodeId) : ¬ session.HoversOver node target := fun hovers => by
    rw [(orderly.hoversOver_iff.mp hovers).2] at aimless
    cases aimless
  refine .of_follows orderly flying nothing follows rfl (fun _ => ?_) ?_ ?_ fun gone => ?_
  · rw [activeTarget?_flight, found]
    exact inactive
  · exact orderly.followsQuietly ⟨_, rfl, follows⟩
      ((session.letGo node).evolves_releaseUndocked node root)
  · exact iff_of_false (fun impossible => nomatch impossible) fun ⟨target, hovers, _⟩ =>
      elsewhere target hovers
  · have known : (session.letGo node).dockable? node = some { dockable with press := none } := by
      rw [letGo, dockable?_update, if_pos rfl, found]
      rfl
    exact .inl (declined_of_releaseUndocked (session.steady_update node _) known gone)

variable {target : NodeId} (hovers : session.HoversOver node target)
include hovers

omit nothing in
theorem lostFor_of_takes (takes : (session.letGo node).Takes target node hooks)
    (gone : ((session.letGo node).dock target node root hooks).session.dockable? node = none) :
    LostFor session (session.letGo node)
      ((session.letGo node).dock target node root hooks).session node hooks := by
  have wellFormed := (orderly.letGo node).wellFormed
  obtain ⟨standing, known⟩ := orderly.single.registered hovers.1
  obtain ⟨told, same, kept, _, tree_eq⟩ := dock_of_takes takes root
  rw [flight_letGo] at kept
  obtain ⟨parent, hangs⟩ := Option.isSome_iff_exists.mp takes.placed
  refine .inr ⟨target, hovers, ?_, ?_⟩
  · exact Tree.contains_of_parent? hangs
  · have unknown : (told.land node).flight.standing? node = none := by
      rw [← same]
      exact congrArg (Option.map Dockable.standing) gone
    have ends : Turn.EndsFlight node (.land node target) := rfl
    rw [flight_land target, kept, Flight.standing?_forget,
      Flight.standing?_make_of_endsFlight ends known] at unknown
    split at unknown
    · next destroyed =>
        have evolves := ((session.letGo node).evolves_insertedTree target node hooks).trans
          (evolves_giveFeedback { session with
            tree := (session.letGo node).insertedTree target node hooks } target hooks false)
        rw [← tree_eq]
        refine (Tree.WellFormed.lost_of_destroyed ?_ node destroyed).2
        rw [tree_eq]
        exact evolves.wellFormed wellFormed
    · cases unknown

theorem cameToRest_of_hoversOver :
    CameToRest session ((session.letGo node).notify target (.dockRelease root))
      ((session.letGo node).dock target node root hooks).session node hooks := by
  have calm := orderly.letGo node
  have steady : Steady session (session.letGo node) := session.steady_update node _
  obtain ⟨flying, aimed⟩ := orderly.hoversOver_iff.mp hovers
  have aiming : (session.letGo node).flight.activeTarget? node = some target := by
    rw [flight_letGo, activeTarget?_flight, ← aimed?_of_inFlight flying]
    exact aimed
  have settled := (calm.targetEvent target (.dockRelease root) hooks)
  rw [targetEvent_of_meansRelease root hovers.letGo (.inr rfl)] at settled
  have taken := (session.letGo node).takes_notify target (.dockRelease root) target node hooks
  by_cases takes : (session.letGo node).Takes target node hooks
  · have follows := follows_dock_of_takes calm.wellFormed flying aiming root takes
    rw [flight_letGo] at follows
    refine .of_follows orderly flying nothing follows rfl (fun impossible => nomatch impossible)
      settled ?_ fun gone => ?_
    · exact iff_of_true rfl ⟨target, hovers, taken.mpr takes⟩
    · have lost := lostFor_of_takes orderly root hovers takes gone
      unfold LostFor at lost ⊢
      simp only [insertedTree_notify]
      exact lost
  · have follows := follows_dock_of_not_takes calm.wellFormed flying aiming root takes
    rw [flight_letGo] at follows
    refine .of_follows orderly flying nothing follows rfl (fun impossible => nomatch impossible)
      settled ?_ fun gone => ?_
    · refine iff_of_false (fun impossible => nomatch impossible) fun ⟨other, above, otherTakes⟩ => ?_
      have same := aimed.symm.trans (orderly.hoversOver_iff.mp above).2
      cases same
      exact takes (taken.mp otherTakes)
    · obtain ⟨cleared, same, flight_eq, steadily, _⟩ := dock_of_not_takes takes root
      obtain ⟨standing, known⟩ := orderly.single.registered flying
      have stands : cleared.flight.standing? node = some (standing.aim none) := by
        rw [flight_eq, flight_letGo]
        simp only [Flight.adjust, if_true, known, Option.map_some]
      obtain ⟨dockable, found, _⟩ := Option.map_eq_some_iff.mp stands
      rw [same] at gone ⊢
      exact .inl (declined_of_releaseUndocked (steady.trans steadily) found gone)

end End

/-- A release ends the drag, whatever the hooks do: when the waiting notices have been
delivered none is in flight, and the dockable has landed if and only if it hovered over a
target that took it. -/
theorem release_comes_to_rest {session : Session} (reachable : session.Reachable)
    {node : NodeId} (flying : session.inFlight = some node) (nothing : session.outbox = [])
    (root : Point) (hooks : Hooks) (rounds : Nat) :
    let released := (session.payloadEvent node (.pointerUp .primary root)).1
    CameToRest session released (released.deliverWaiting hooks (rounds + 1)).1 node hooks := by
  have orderly := orderly_of_reachable reachable
  dsimp only
  cases aimed : session.flight.aimed? with
  | none =>
      have free := orderly.dragsFreely_iff.mpr ⟨flying, aimed⟩
      have rested := cameToRest_of_dragsFreely orderly nothing root hooks free
      rw [payloadEvent_of_dragsFreely root free, deliverWaiting_of_nil rested.outbox_eq]
      exact rested
  | some target =>
      have hovers := orderly.hoversOver_iff.mpr ⟨flying, aimed⟩
      have rested := @cameToRest_of_hoversOver node hooks session orderly nothing root target
        hovers
      have quiet : (session.letGo node).outbox = [] := nothing
      rw [payloadEvent_of_hoversOver root hovers, deliverWaiting_notify quiet,
        targetEvent_of_meansRelease root hovers.letGo (.inr rfl), deliverWaiting_of_nil rested.outbox_eq]
      exact rested

def overStage : Session :=
  (start (.withCapabilities .none) .standard).run
    [.edit (.add (.newPanel "stage") .zero),
      .create (.new "tool"),
      .tearOut ⟨1⟩ .zero,
      .targetEvent ⟨0⟩ (.pointerMove .zero) .welcoming]

theorem cameToRest_overStage :
    let released := (overStage.payloadEvent ⟨1⟩ (.pointerUp .primary .zero)).1
    let after := (released.deliverWaiting .welcoming 1).1
    overStage.inFlight = some ⟨1⟩ ∧ overStage.outbox = [] ∧
      CameToRest overStage released after ⟨1⟩ .welcoming ∧
      (after.dockable? ⟨1⟩).map Dockable.phase = some .docked := by
  have reachable : overStage.Reachable := ⟨_, _, _, rfl⟩
  exact ⟨rfl, rfl, release_comes_to_rest reachable rfl rfl .zero .welcoming 0, rfl⟩

end Session
end Docking

import Docking.Proofs.Flight.Release
import Docking.Proofs.Window.StrongDrag
import Docking.Proofs.Window.Target

namespace Docking

/-! A dockable that is pulled out of its container leaves a placeholder in its slot. Dropped onto
the placeholder it is back where it was, whatever it flew over in the meantime. -/

def Event.isRelease : Event → Bool
  | .pointerUp .primary _ | .dockRelease _ | .dndDrop _ => true
  | _ => false

theorem Carrier.isRelease_remap? {carrier : Carrier} {settings : Settings} {event meant : Event}
    (remapped : carrier.remap? settings event = some meant) :
    meant.isRelease = event.isRelease := by
  unfold remap? at remapped
  split at remapped
  · split at remapped
    · split at remapped
      · cases remapped
        rfl
      · cases remapped
    · cases remapped
      rfl
    · cases remapped
      rfl
    · cases remapped
      rfl
    · cases remapped
  · cases remapped

namespace Session

open Docking.Tree (Regained Rehouses Vacated)

variable {session : Session} {container node box : NodeId} {root : Point} {hooks : Hooks}

theorem isRelease_remap (session : Session) (event : Event) :
    (session.remap event).isRelease = event.isRelease := by
  unfold remap
  split
  · cases remapped : ((session.inFlight.bind session.dockable?).bind fun dockable =>
        dockable.carrier.remap? session.settings event) with
    | none => rfl
    | some meant =>
        obtain ⟨dockable, _, remapped⟩ := Option.bind_eq_some_iff.mp remapped
        exact Carrier.isRelease_remap? remapped
  · rfl

/-! ### Taking off -/

theorem beginDrag_of_serves {dockable : Dockable} (grounded : session.inFlight = none)
    (found : session.dockable? node = some dockable) (bare : dockable.carrier.window = none)
    (serves : session.desktop.Serves dockable.carrier.kind)
    (rooted : session.tree.parent? node = none) (present : session.tree.contains node = true)
    (tearOut : TearOut) :
    ∃ flying housed, session.beginDrag node tearOut = (flying, .ok ()) ∧
      Rehouses node session.tree housed ∧ housed.Repaints flying.tree := by
  have freed := Tree.detach_of_parent?_eq_none rooted
  have begun := session.dragBegun_beginDrag node tearOut
  generalize session.beginDrag node tearOut = outcome at begun ⊢
  cases begun with
  | declined hindered =>
      obtain ⟨layout, placed⟩ := Tree.layout?_of_contains present
      rcases hindered with busy | missing
      · refine absurd ?_ busy
        rw [otherInFlight?, grounded, Option.filter_none]
      · cases missing.symm.trans placed
  | unknown _ missing => cases missing.symm.trans found
  | failed _ _ _ tried =>
      obtain ⟨attempted, succeeded⟩ := @tryCarrier_undock_of_serves node
        { session with tree := (session.tree.detach node).1 } dockable found serves
        session.settings tearOut.root tearOut.grab
      cases tried.symm.trans succeeded
  | @launched _ attempted _ _ tried =>
      obtain ⟨carrier, scene, rfl, _, lifts, _⟩ := attemptFlight_eq_handOver found bare tried
      rw [freed] at lifts
      exact ⟨_, scene.tree, rfl, lifts, repaints_enterPhase
        ((session.handOver node carrier scene).update node _) node .dragging⟩

/-- The dockable is in flight as a root of its own and remembers its container, which is told. A
new placeholder of its extent stands in its slot. -/
structure PulledOut (container node : NodeId) (before after : Session) : Prop where
  inFlight_eq : after.inFlight = some node
  dockable : ∃ dockable, after.dockable? node = some dockable ∧ dockable.phase = .dragging ∧
    dockable.activeTarget = none ∧ dockable.originTarget = some container
  outbox_eq : after.outbox = before.outbox ++ [⟨container, .undock node⟩]
  rooted : after.tree.parent? node = none
  fresh : before.tree.contains before.tree.nextId = false
  children_eq : ∃ index, before.tree.indexOf? node = some index ∧
    after.tree.children container = (before.tree.children container).set index before.tree.nextId
  isTargetBox : after.tree.isTargetBox before.tree.nextId = true
  layout?_eq : after.tree.layout? before.tree.nextId = before.tree.layout? node

/-- A placeholder stands in the slot that the dockable had, and the container is the origin that
the dockable remembers. -/
structure Aloft (before : Tree) (container node box : NodeId) (session : Session) : Prop where
  vacated : ∃ early late rect, Vacated before node container box early late rect session.tree
  origin_eq : (session.dockable? node).bind Dockable.originTarget = some container
  unknown : session.dockable? box = none

section PullOut

variable (orderly : session.Orderly) (geared : session.Geared)
  (grounded : session.inFlight = none) (armed : session.armedChild? container = some node)
  (served : ∀ dockable, session.dockable? node = some dockable →
    session.desktop.Serves dockable.carrier.kind)
  (leavesBox : hooks.remove = Hooks.readyMade.remove)
include orderly geared grounded armed served leavesBox

theorem beginDrag_pullOut (root : Point) :
    ∃ early late rect, ∃ flying : Session, ∃ consulted,
      session.targetEvent container (.pointerMove root) hooks =
          ⟨flying.notify container (.undock node), .handledFully, consulted⟩ ∧
        flying.flight = session.flight.make (.launch node (some container)) ∧
          Vacated session.tree node container session.tree.nextId early late rect
            flying.tree := by
  obtain ⟨dockable, found, docked, _⟩ := docked_of_armedChild? container armed
  obtain ⟨early, late, rect, slot, _⟩ := orderly.slot armed
  have vacated := Tree.vacated_removeLeavingBox slot
  rw [← removedTree_of_leavesBox slot leavesBox] at vacated
  have shown : session.screenRect? node = some (rect.translate (session.originOf node)) := by
    rw [Scene.screenRect?, slot.layout?_eq]
    rfl
  generalize rect.translate _ = screen at shown
  have begun := flight_beginDrag { session with
    tree := session.removedTree container node hooks } node
      ⟨root, root - screen.position, some container, session.slot? node⟩
  obtain ⟨flying, housed, flown, rehouses, painted⟩ := @beginDrag_of_serves
    { session with tree := session.removedTree container node hooks } node dockable grounded
    found ((geared node dockable found).docked docked) (served dockable found) vacated.rooted
    vacated.present ⟨root, root - screen.position, some container, session.slot? node⟩
  rw [flown] at begun
  refine ⟨early, late, rect, flying, (hooks.runRemove session.tree container node).2, ?_,
    begun.2.2, (vacated.rehouses rehouses).repaints painted⟩
  rw [targetEvent_of_grounded session grounded, tearOutChild, armed]
  dsimp only
  rw [shown]
  dsimp only [removedTree, slot?] at flown ⊢
  rw [flown]

theorem pulledOut_targetEvent (root : Point) :
    let pulled := session.targetEvent container (.pointerMove root) hooks
    pulled.status = .handledFully ∧ PulledOut container node session pulled.session ∧
      Aloft session.tree container node session.tree.nextId pulled.session := by
  obtain ⟨dockable, found, _⟩ := docked_of_armedChild? container armed
  obtain ⟨early, late, rect, flying, consulted, pulled, flight_eq, vacated⟩ :=
    beginDrag_pullOut orderly geared grounded armed served leavesBox root
  dsimp only
  rw [pulled]
  have stands : flying.flight.standing? node = some ⟨.dragging, none, some container⟩ := by
    rw [flight_eq]
    simp only [Flight.make, Flight.adjust, if_true, standing?_of_dockable? found, Option.map_some]
  obtain ⟨flown, known, standing⟩ := dockable?_of_standing? stands
  have remembers := congrArg Standing.originTarget standing
  have unknown : flying.dockable? session.tree.nextId = none := by
    rw [← standing?_eq_none_iff, flight_eq]
    exact (if_neg (vacated.box_ne vacated.slot.present)).trans
      ((session.standing?_eq_none_iff _).mpr orderly.fresh)
  refine ⟨rfl, ?_, ⟨⟨early, late, rect, vacated⟩, ?_, unknown⟩⟩
  · exact {
      inFlight_eq := congrArg Flight.inFlight flight_eq
      dockable := ⟨flown, known, congrArg Standing.phase standing,
        congrArg Standing.activeTarget standing, remembers⟩
      outbox_eq := congrArg (· ++ _) (congrArg Flight.outbox flight_eq)
      rooted := vacated.rooted
      fresh := vacated.fresh
      children_eq := ⟨early.length, vacated.slot.indexOf?_eq, vacated.children_parent⟩
      isTargetBox := vacated.isTargetBox
      layout?_eq := vacated.layout?_box.trans vacated.slot.layout?_eq.symm }
  · exact (congrArg (fun known => known.bind Dockable.originTarget) known).trans remembers

end PullOut

/-! ### In flight -/

/-- The dockable in flight is the same and remembers its origin, no dockable is new, and colours
and labels apart nothing in the tree is different. -/
structure FliesOn (node : NodeId) (before after : Session) : Prop where
  repaints : before.tree.Repaints after.tree
  inFlight_eq : after.inFlight = before.inFlight
  origin_eq : (after.dockable? node).bind Dockable.originTarget =
    (before.dockable? node).bind Dockable.originTarget
  keys_eq : after.dockables.keys = before.dockables.keys

namespace FliesOn

variable {before middle after : Session}

theorem refl (session : Session) : FliesOn node session session :=
  ⟨.refl _, rfl, rfl, rfl⟩

theorem trans (first : FliesOn node before middle) (second : FliesOn node middle after) :
    FliesOn node before after where
  repaints := first.repaints.trans second.repaints
  inFlight_eq := second.inFlight_eq.trans first.inFlight_eq
  origin_eq := second.origin_eq.trans first.origin_eq
  keys_eq := second.keys_eq.trans first.keys_eq

theorem dockable?_eq_none (fliesOn : FliesOn node before after) {other : NodeId}
    (unknown : before.dockable? other = none) : after.dockable? other = none := by
  rw [dockable?, Table.get?_eq_none_iff] at unknown ⊢
  rwa [fliesOn.keys_eq]

end FliesOn

theorem Aloft.fliesOn {before : Tree} {after : Session}
    (aloft : Aloft before container node box session) (fliesOn : FliesOn node session after) :
    Aloft before container node box after :=
  let ⟨early, late, rect, vacated⟩ := aloft.vacated
  ⟨⟨early, late, rect, vacated.repaints fliesOn.repaints⟩,
    fliesOn.origin_eq.trans aloft.origin_eq, fliesOn.dockable?_eq_none aloft.unknown⟩

theorem Aloft.refusesItself {before : Tree} (aloft : Aloft before container node box session) :
    session.refusesItself container node = true ∧ session.refusesItself box node = false := by
  obtain ⟨_, _, _, vacated⟩ := aloft.vacated
  have node_apart := vacated.box_ne vacated.slot.present
  have container_apart := vacated.box_ne vacated.slot.parent_present
  unfold Session.refusesItself
  rw [aloft.origin_eq, vacated.isAncestor_box]
  constructor
  · rw [decide_eq_true rfl, Bool.or_true]
  · rw [decide_eq_false node_apart, Bool.false_or, Bool.false_or]
    exact decide_eq_false fun same => container_apart (Option.some.inj same).symm

theorem fliesOn_aim (session : Session) (node : NodeId) (aim : Option NodeId) (phase : Phase) :
    FliesOn node session ((session.update node fun dockable =>
      { dockable with activeTarget := aim }).enterPhase node phase) where
  repaints := repaints_enterPhase (session.update node _) node phase
  inFlight_eq := inFlight_enterPhase _ node phase
  origin_eq := (session.undisturbed_aim node aim phase).origin_eq
  keys_eq := by
    rw [enterPhase, dockables_repaint, update, Table.keys_modify, update, Table.keys_modify]

theorem fliesOn_takeOver (session : Session) (target node : NodeId) (previous : Option NodeId) :
    FliesOn node session (session.takeOver target node previous) := by
  cases previous with
  | none => exact session.fliesOn_aim node (some target) .hovering
  | some previous =>
      have told : FliesOn node session (session.notify previous .dockLeave) :=
        ⟨.refl _, rfl, rfl, rfl⟩
      exact told.trans (fliesOn_aim _ node (some target) .hovering)

section Traffic

variable (onlyShows : hooks.OnlyShows) (flying : session.inFlight = some node) (target : NodeId)
include onlyShows

theorem fliesOn_targetMotion (session : Session) (root : Point) :
    FliesOn node session (session.targetMotion target node root hooks).session := by
  have moved := session.moved_targetMotion node target hooks root
  generalize session.targetMotion target node root hooks = reaction at moved ⊢
  cases moved with
  | unknown missing => exact .refl session
  | refused found outside elsewhere => exact .refl session
  | left found outside aims =>
      rw [fst_giveFeedback onlyShows]
      exact session.fliesOn_aim node none .dragging
  | kept found inside keeps => exact .refl session
  | taken found inside takes =>
      rw [fst_giveFeedback onlyShows]
      exact session.fliesOn_takeOver target node _

include flying

theorem fliesOn_targetLeave : FliesOn node session (session.targetLeave target hooks).session := by
  unfold targetLeave
  dsimp only
  rw [fst_giveFeedback onlyShows, flying]
  dsimp only
  split
  · exact session.fliesOn_aim node none .dragging
  · exact .refl session

theorem fliesOn_targetEvent {event : Event} (held : event.isRelease = false) :
    FliesOn node session (session.targetEvent target event hooks).session := by
  have moved (root : Point) : FliesOn node session
      (session.targetMotion target node root hooks).session :=
    fliesOn_targetMotion onlyShows target session root
  have meant := (session.isRelease_remap event).trans held
  unfold targetEvent
  generalize session.remap event = heard at meant
  split
  · exact .refl session
  · exact fliesOn_targetLeave onlyShows flying target
  · rw [flying]
    dsimp only
    unfold targetInFlight
    split
    · exact moved _
    · exact moved _
    · exact moved _
    · cases meant
    · cases meant
    · exact .refl session

end Traffic

theorem fliesOn_payloadEvent (orderly : session.Orderly) (flying : session.inFlight = some node)
    (root : Point) : FliesOn node session (session.payloadEvent node (.pointerMove root)).1 := by
  obtain ⟨dockable, found, airborne⟩ := orderly.dockable?_of_inFlight flying
  have tree_eq := dockable.carrier.tree_handle session.toScene dockable.press true
    (.pointerMove root)
  have moved : (dockable.carrier.handle session.toScene dockable.press true
      (.pointerMove root)).2.2 = .motion root := by
    unfold Carrier.handle Press.track
    cases dockable.press <;> rfl
  unfold payloadEvent
  rw [found]
  simp only [interruption?, gesture, airborne]
  generalize dockable.carrier.handle session.toScene dockable.press true (.pointerMove root) =
    handled at tree_eq moved ⊢
  obtain ⟨scene, press, _⟩ := handled
  cases moved
  have pressed : FliesOn node session ({ session with toScene := scene }.update node
      fun dockable => { dockable with press }) := {
    repaints := by
      rw [tree_update, show scene.tree = session.tree from tree_eq]
      exact .refl _
    inFlight_eq := rfl
    origin_eq := by
      rw [dockable?_update, if_pos rfl, Option.bind_map]
      rfl
    keys_eq := Table.keys_modify _ node _ }
  unfold respond
  cases phase : dockable.phase with
  | docked => cases (congrArg Phase.isInFlight phase).symm.trans airborne
  | undocked => cases (congrArg Phase.isInFlight phase).symm.trans airborne
  | dragging => exact pressed
  | hovering => exact pressed

/-- Motion and leave events for the dockable in flight, and what has nothing to do with the tree:
the delivery of notifications and the application's own use of the windowing system. -/
inductive Operation.KeepsAloft (node : NodeId) : Operation → Prop
  | meet (target : NodeId) {event : Event} {hooks : Hooks} (held : event.isRelease = false)
    (onlyShows : hooks.OnlyShows) : KeepsAloft node (.targetEvent target event hooks)
  | move (root : Point) : KeepsAloft node (.payloadEvent node (.pointerMove root))
  | takeNotices : KeepsAloft node .takeNotices
  | command (command : Desktop.Command) : KeepsAloft node (.command command)

theorem fliesOn_perform (orderly : session.Orderly) (flying : session.inFlight = some node)
    {operation : Operation} (keeps : operation.KeepsAloft node) :
    FliesOn node session (session.perform operation) := by
  cases keeps with
  | meet target held onlyShows => exact fliesOn_targetEvent onlyShows flying target held
  | move root => exact fliesOn_payloadEvent orderly flying root
  | takeNotices => exact ⟨.refl _, rfl, rfl, rfl⟩
  | command command => exact ⟨.refl _, rfl, rfl, rfl⟩

theorem fliesOn_run {traffic : List Operation} (orderly : session.Orderly)
    (flying : session.inFlight = some node)
    (keeps : ∀ operation ∈ traffic, operation.KeepsAloft node) :
    FliesOn node session (session.run traffic) := by
  induction traffic generalizing session with
  | nil => exact .refl session
  | cons operation rest induction =>
      have first := fliesOn_perform orderly flying (keeps operation List.mem_cons_self)
      exact first.trans (induction (orderly.perform operation) (first.inFlight_eq.trans flying)
        fun other member => keeps other (List.mem_cons_of_mem _ member))

/-! ### Coming back -/

/-- The dockable is docked where it was before, and nothing is left of the placeholder. -/
structure Redocked (node box : NodeId) (before after : Session) : Prop where
  tree : Regained before.tree node box after.tree
  inFlight_eq : after.inFlight = none
  dockable : ∃ dockable, after.dockable? node = some dockable ∧ dockable.phase = .docked ∧
    dockable.window = none ∧ dockable.activeTarget = none ∧ dockable.originTarget = none

theorem Aloft.insertedTree {before : Tree} (aloft : Aloft before container node box session)
    {dockable : Dockable} (found : session.dockable? node = some dockable)
    (standard : hooks.Standard) :
    Regained before node box (session.insertedTree box node hooks) ∧
      (session.insertedTree box node hooks).destroyed = before.destroyed ++ [box] := by
  obtain ⟨early, late, rect, vacated⟩ := aloft.vacated
  obtain ⟨carrier, ground, freed, _, _, lands, _⟩ := beforeDock_eq_handOver found
  have ready := vacated.rehouses lands
  have inserted_eq : session.insertedTree box node hooks =
      ground.tree.edit (Placement.insertAtTarget ground.tree box node) := by
    rw [Session.insertedTree, freed]
    exact standard.fst_runInsert _ _ _
  rw [inserted_eq]
  exact ⟨ready.regained_insertAtTarget, ready.destroyed_insertAtTarget⟩

theorem land_of_unknown (single : session.flight.Single) (flying : session.inFlight = some node)
    (unknown : ∀ gone ∈ session.tree.destroyed, session.dockable? gone = none) (target : NodeId) :
    ∃ docked : Session, session.land node = { docked with tree := docked.tree.forgetDestroyed } ∧
      docked.flight = session.flight.make (.land node target) ∧
        session.tree.Repaints docked.tree := by
  obtain ⟨docked, land_eq, flight_eq, painted⟩ := land_eq target session node
  have landed : docked.flight.Single := by
    rw [flight_eq]
    exact single.land target flying
  have grounded : docked.inFlight = none := congrArg Flight.inFlight flight_eq
  refine ⟨docked, land_eq.trans (syncDestroyed_of_grounded landed grounded fun gone lost => ?_),
    flight_eq, painted⟩
  rw [painted.geometry.links.destroyed_eq] at lost
  have absent := (session.standing?_eq_none_iff gone).mpr (unknown gone lost)
  rw [← standing?_eq_none_iff, flight_eq]
  simp only [Flight.make, Flight.adjust, absent]
  split
  · next here => rw [← here, absent, Option.map_none]
  · rfl

theorem redocked_targetEvent {before : Session}
    (aloft : Aloft before.tree container node box session)
    (recordless : before.tree.destroyed = []) (orderly : session.Orderly)
    (geared : session.Geared) (hovers : session.HoversOver node box) {event : Event}
    (release : session.MeansRelease event root) (standard : hooks.Standard)
    (accepted : (hooks.runAccept session.tree box node).1 = true) :
    Redocked node box before (session.targetEvent box event hooks).session := by
  have geared : (session.targetEvent box event hooks).session.Geared :=
    geared.perform orderly (.targetEvent box event hooks)
  rw [targetEvent_of_meansRelease root hovers release] at geared ⊢
  obtain ⟨flying, dockable, found, _⟩ := hovers
  obtain ⟨regained, destroyed_eq⟩ := aloft.insertedTree found standard
  rw [recordless, List.nil_append] at destroyed_eq
  have takes : session.Takes box node hooks := by
    obtain ⟨_, _, _, vacated⟩ := aloft.vacated
    refine ⟨accepted, ?_⟩
    rw [regained.parent?_eq, vacated.slot.linked]
    rfl
  obtain ⟨told, landed, flight_eq, _, shown⟩ := dock_of_takes takes root
  have tree_eq : told.tree = session.insertedTree box node hooks := shown.trans
    (congrArg (fun session : Session => session.tree) (fst_giveFeedback standard.onlyShows
      { session with tree := session.insertedTree box node hooks } box false))
  rw [← tree_eq] at regained destroyed_eq
  -- only the placeholder is on record, so that taking the record concerns no dockable
  have unknown : ∀ gone ∈ told.tree.destroyed, told.dockable? gone = none := by
    intro gone lost
    rw [destroyed_eq, List.mem_singleton] at lost
    rw [← standing?_eq_none_iff, flight_eq, lost, standing?_eq_none_iff]
    exact aloft.unknown
  obtain ⟨docked, docked_eq, docks, painted⟩ := land_of_unknown (flight_eq ▸ orderly.single)
    ((congrArg Flight.inFlight flight_eq).trans flying) unknown box
  rw [landed, docked_eq] at geared ⊢
  have stands : docked.flight.standing? node = some (.atRest .docked) := by
    rw [docks, flight_eq]
    exact Flight.standing?_make_of_endsFlight rfl (standing?_of_dockable? found)
  obtain ⟨later, known, standing⟩ := dockable?_of_standing? stands
  have phase : later.phase = .docked := congrArg Standing.phase standing
  exact {
    tree := (regained.sameGeometry painted.geometry).forgetDestroyed
    inFlight_eq := congrArg Flight.inFlight docks
    dockable := ⟨later, known, phase, (geared node later known).docked phase,
      congrArg Standing.activeTarget standing, congrArg Standing.originTarget standing⟩ }

/-- A strong drag takes a dockable into flight and leaves a placeholder in its slot, which takes
it back, as the container itself does not. Whatever it flew over, a release over the placeholder
docks it where it was before. -/
theorem strongDrag_roundTrip (reachable : session.Reachable) (grounded : session.inFlight = none)
    (recordless : session.tree.destroyed = [])
    (armed : session.armedChild? container = some node)
    (served : ∀ dockable, session.dockable? node = some dockable →
      session.desktop.Serves dockable.carrier.kind)
    (leavesBox : hooks.remove = Hooks.readyMade.remove) (root : Point) :
    let box := session.tree.nextId
    let pulled := session.targetEvent container (.pointerMove root) hooks
    pulled.status = .handledFully ∧ PulledOut container node session pulled.session ∧
      ∀ traffic : List Operation, (∀ operation ∈ traffic, operation.KeepsAloft node) →
        let arrived := pulled.session.run traffic
        arrived.refusesItself container node = true ∧ arrived.refusesItself box node = false ∧
          ∀ event root hooks, arrived.HoversOver node box → arrived.MeansRelease event root →
            hooks.Standard → (hooks.runAccept arrived.tree box node).1 = true →
              Redocked node box session (arrived.targetEvent box event hooks).session := by
  have orderly := orderly_of_reachable reachable
  have geared := geared_of_reachable reachable
  obtain ⟨status_eq, pulledOut, aloft⟩ :=
    pulledOut_targetEvent orderly geared grounded armed served leavesBox root
  refine ⟨status_eq, pulledOut, fun traffic keeps => ?_⟩
  have arrived := aloft.fliesOn (fliesOn_run (orderly.targetEvent container (.pointerMove root)
    hooks) pulledOut.inFlight_eq keeps)
  obtain ⟨orderly_arrived, geared_arrived⟩ :=
    geared.run orderly (.targetEvent container (.pointerMove root) hooks :: traffic)
  refine ⟨arrived.refusesItself.1, arrived.refusesItself.2, ?_⟩
  intro event root hooks hovers release standard accepted
  exact redocked_targetEvent arrived recordless orderly_arrived geared_arrived hovers release
    standard accepted

def shelf : Session :=
  (start (.withCapabilities .all) .standard).run
    [.edit (.add (.newPanel "shelf") ⟨0, 0, 800, 600⟩),
      .create { DockablePlan.new "first" with container := some (⟨0⟩, none) },
      .create { DockablePlan.new "second" with container := some (⟨0⟩, none) },
      .create { DockablePlan.new "third" with container := some (⟨0⟩, none) },
      .payloadEvent ⟨2⟩ (.pointerDown .primary ⟨10, 10⟩),
      .payloadEvent ⟨2⟩ (.pointerMove ⟨40, 10⟩)]

/-- The dockable in the middle is dragged across the shelf and back over its placeholder. -/
def acrossShelf : List Operation :=
  [.payloadEvent ⟨2⟩ (.pointerMove ⟨50, 20⟩),
    .targetEvent ⟨0⟩ (.pointerMove ⟨50, 20⟩) .readyMade,
    .targetEvent ⟨4⟩ (.pointerMove ⟨50, 20⟩) .readyMade]

theorem redocked_shelf :
    let pulled := (shelf.targetEvent ⟨0⟩ (.pointerMove ⟨40, 10⟩) .readyMade).session
    let arrived := pulled.run acrossShelf
    let after := (arrived.targetEvent ⟨4⟩ (.dockRelease ⟨50, 20⟩) .readyMade).session
    PulledOut ⟨0⟩ ⟨2⟩ shelf pulled ∧ Redocked ⟨2⟩ ⟨4⟩ shelf after ∧
      arrived.tree.children ⟨0⟩ = [⟨1⟩, ⟨4⟩, ⟨3⟩] ∧ after.tree.children ⟨0⟩ = [⟨1⟩, ⟨2⟩, ⟨3⟩] := by
  have onlyShows : Hooks.OnlyShows .readyMade := fun _ given => nomatch given
  have keeps : ∀ operation ∈ acrossShelf, operation.KeepsAloft ⟨2⟩ := by
    intro operation member
    simp only [acrossShelf, List.mem_cons, List.not_mem_nil, or_false] at member
    rcases member with rfl | rfl | rfl
    · exact .move _
    · exact .meet _ rfl onlyShows
    · exact .meet _ rfl onlyShows
  obtain ⟨_, pulled, returns⟩ := @strongDrag_roundTrip shelf ⟨0⟩ ⟨2⟩ .readyMade ⟨_, _, _, rfl⟩
    (by decide +kernel) (by decide +kernel) (by decide +kernel)
    (fun _ _ => ⟨rfl, fun _ => by decide +kernel⟩) rfl ⟨40, 10⟩
  obtain ⟨_, _, redocks⟩ := returns acrossShelf keeps
  refine ⟨pulled, redocks (.dockRelease ⟨50, 20⟩) ⟨50, 20⟩ .readyMade ?_ (.inr rfl)
    ⟨onlyShows, .inr rfl, .inr rfl⟩ rfl, by decide +kernel, by decide +kernel⟩
  have stands : ((shelf.targetEvent ⟨0⟩ (.pointerMove ⟨40, 10⟩) .readyMade).session.run
      acrossShelf).flight.standing? ⟨2⟩ = some ⟨.hovering, some ⟨4⟩, some ⟨0⟩⟩ := by
    decide +kernel
  obtain ⟨dockable, found, standing⟩ := dockable?_of_standing? stands
  exact ⟨by decide +kernel, dockable, found, congrArg Standing.phase standing,
    congrArg Standing.activeTarget standing⟩

end Session
end Docking

import Docking.Proofs.Flight.Release
import Docking.Proofs.Session.Deed

namespace Docking

/-! What waits for delivery. A call posts one notice at most, and the delivery of a notice posts
none, so one round delivers all that waits. -/

open Flight (Turn)

def Event.isPosted : Event → Bool
  | .dockLeave | .dockRelease _ | .undock _ => true
  | _ => false

theorem Event.motion?_of_isPosted {event : Event} (posted : event.isPosted = true) :
    event.motion? = none := by
  cases event with
  | dockLeave => rfl
  | dockRelease root => rfl
  | undock dockable => rfl
  | _ => cases posted

def Posts (before after : List Notice) : Prop :=
  ∃ news : List Notice, after = before ++ news ∧ news.length ≤ 1 ∧
    ∀ notice ∈ news, notice.event.isPosted = true

namespace Posts

variable {before after : List Notice}

theorem of_eq (same : after = before) : Posts before after :=
  ⟨[], by rw [same, List.append_nil], Nat.zero_le 1, fun _ member => nomatch member⟩

theorem concat (outbox : List Notice) (target : NodeId) {event : Event}
    (posted : event.isPosted = true) : Posts outbox (outbox ++ [⟨target, event⟩]) :=
  ⟨_, rfl, Nat.le_refl 1, fun _ member => List.mem_singleton.mp member ▸ posted⟩

theorem isPosted (posts : Posts before after)
    (posted : ∀ notice ∈ before, notice.event.isPosted = true) :
    ∀ notice ∈ after, notice.event.isPosted = true := by
  obtain ⟨news, rfl, _, newsPosted⟩ := posts
  exact List.forall_mem_append.mpr ⟨posted, newsPosted⟩

end Posts

namespace Flight

variable {flight : Flight}

theorem posts_bidFarewell (flight : Flight) (node : NodeId) :
    Posts flight.outbox (flight.bidFarewell node).outbox := by
  unfold bidFarewell
  split
  · exact .of_eq rfl
  · exact .concat _ _ rfl

theorem posts_forget (single : flight.Single) (gone : List NodeId) :
    Posts flight.outbox (flight.forget gone).outbox := by
  rw [outbox_forget (fun _ => single.registered) gone, farewell, parting]
  cases ((flight.inFlight.filter (· ∈ gone)).bind flight.activeTarget?).filter (· ∉ gone) with
  | none => exact .of_eq (List.append_nil _)
  | some target => exact .concat _ target rfl

end Flight

namespace Session

theorem Follows.outbox_eq {before : Flight} {turn : Turn} {after : Session} {node : NodeId}
    (follows : Follows before turn after) (ends : turn.EndsFlight node)
    (flying : before.inFlight = some node) : after.outbox = (before.make turn).outbox := by
  obtain ⟨gone, _, flight_eq⟩ := follows.flight_eq
  have grounded := Flight.inFlight_make_of_endsFlight ends flying
  have kept := (Flight.forget_of_grounded gone grounded).2
  rw [← flight_eq] at kept
  exact kept

variable {session : Session}

/-! ### Ends of flights -/

theorem posts_settleUndocked (session : Session) (node : NodeId) (root : Point) :
    Posts session.outbox (session.settleUndocked node root).outbox := by
  have settled := congrArg Flight.outbox (session.flight_settleUndocked node root)
  have same : (session.settleUndocked node root).outbox =
      (session.flight.bidFarewell node).outbox := settled
  rw [same]
  exact session.flight.posts_bidFarewell node

theorem outbox_dock (wellFormed : session.tree.WellFormed) {target node : NodeId} {hooks : Hooks}
    (flying : session.inFlight = some node)
    (aims : (session.dockable? node).bind Dockable.activeTarget = some target) (root : Point) :
    (session.dock target node root hooks).session.outbox = session.outbox := by
  have aiming := (session.activeTarget?_flight node).trans aims
  by_cases takes : session.Takes target node hooks
  · have landed := follows_dock_of_takes wellFormed flying aiming root takes
    exact landed.outbox_eq rfl flying
  · have turned := follows_dock_of_not_takes wellFormed flying aiming root takes
    exact turned.outbox_eq rfl flying

/-! ### Passages over targets -/

theorem outbox_targetLeave (session : Session) (target : NodeId) (hooks : Hooks) :
    (session.targetLeave target hooks).session.outbox = session.outbox :=
  (congrArg Flight.outbox (flight_targetLeave target hooks session)).trans
    (session.flight.outbox_leave target)

theorem posts_targetMotion (session : Session) (node target : NodeId) (root : Point)
    (hooks : Hooks) :
    Posts session.outbox (session.targetMotion target node root hooks).session.outbox := by
  have moved := session.moved_targetMotion node target hooks root
  generalize session.targetMotion target node root hooks = reaction at moved ⊢
  cases moved with
  | unknown missing => exact .of_eq rfl
  | refused found outside elsewhere => exact .of_eq rfl
  | left found outside aims => exact .of_eq (congrArg Flight.outbox (flight_dropCandidate _ node))
  | kept found inside keeps => exact .of_eq rfl
  | @taken dockable found inside takes =>
      have aims := session.activeTarget?_flight node
      rw [found, Option.bind_some] at aims
      have taken := congrArg Flight.outbox (flight_takeOver target session node)
      rw [aims] at taken
      have posted := session.flight.posts_bidFarewell node
      rw [← show _ = (session.flight.bidFarewell node).outbox from taken] at posted
      exact posted

/-! ### Beginnings of flights -/

section BeginDrag

variable {node : NodeId} {tearOut : TearOut} {left : Session}

theorem outbox_of_begun {result : Except DockError Unit}
    (begun : session.beginDrag node tearOut = (left, result)) : left.outbox = session.outbox := by
  have flown := session.flight_beginDrag node tearOut
  rw [begun] at flown
  cases result with
  | ok => exact congrArg Flight.outbox flown.2.2
  | error error =>
      rcases flown with kept | ⟨_, grounded⟩
      · exact congrArg Flight.outbox kept
      · exact congrArg Flight.outbox grounded

theorem inFlight_of_begun {error : DockError}
    (begun : session.beginDrag node tearOut = (left, .error error)) :
    left.inFlight = session.inFlight := by
  have flown := session.flight_beginDrag node tearOut
  rw [begun] at flown
  rcases flown with kept | ⟨_, grounded⟩
  · exact congrArg Flight.inFlight kept
  · exact congrArg Flight.inFlight grounded

end BeginDrag

theorem outbox_tearOut (session : Session) (node : NodeId) (root : Point) :
    (session.tearOut node root).1.outbox = session.outbox := by
  rcases session.staysPut_or_begins node root with ⟨result, stays⟩ | ⟨dockable, asked, begins⟩
  · rw [stays.unchanged]
  · rw [begins.begun]
    exact outbox_of_begun rfl

theorem posts_forceUndocked (session : Session) (node : NodeId) :
    Posts session.outbox (session.forceUndocked node).1.outbox := by
  unfold forceUndocked
  split
  · exact .of_eq rfl
  · split
    · exact .of_eq rfl
    · exact .of_eq rfl
    · exact session.posts_settleUndocked node _
    · exact session.posts_settleUndocked node _

theorem posts_create (session : Session) (plan : DockablePlan) :
    Posts session.outbox (session.create plan).1.outbox := by
  have built : (session.build plan).1.outbox = session.outbox :=
    congrArg Flight.outbox (session.flight_build plan)
  unfold create
  split
  · split
    · exact .of_eq built
    · exact .of_eq rfl
  · exact .of_eq built

theorem outbox_destroyWidget_of_grounded (grounded : session.inFlight = none) (node : NodeId) :
    (session.destroyWidget node).outbox = session.outbox := by
  have caughtUp := congrArg Flight.outbox
    (flight_syncDestroyed { session with tree := (session.tree.destroy node).1 })
  exact caughtUp.trans (Flight.forget_of_grounded _ grounded).2

/-- A strong drag that fails posts nothing, whatever it tidies away. -/
theorem posts_tearOutChild (grounded : session.inFlight = none) (target : NodeId) (root : Point)
    (hooks : Hooks) :
    Posts session.outbox (session.tearOutChild target root hooks).session.outbox := by
  unfold tearOutChild
  cases session.armedChild? target with
  | none => exact .of_eq rfl
  | some node =>
      dsimp only
      cases session.screenRect? node with
      | none => exact .of_eq rfl
      | some rect =>
          generalize freed : { session with
            tree := ((hooks.runRemove session.tree target node).1.detach node).1 } = bare
          have stillGrounded : bare.inFlight = none := freed ▸ grounded
          have quiet : bare.outbox = session.outbox := freed ▸ rfl
          dsimp only
          split
          · next flying begun =>
              rw [← quiet, ← outbox_of_begun begun]
              exact .concat _ target rfl
          · next failed error begun =>
              have unposted := (outbox_of_begun begun).trans quiet
              refine .of_eq ?_
              dsimp only
              split
              · refine (outbox_destroyWidget_of_grounded ?_ _).trans unposted
                exact (inFlight_of_begun begun).trans stillGrounded
              · exact unposted

namespace Orderly

variable (orderly : session.Orderly)
include orderly

theorem posts_syncDestroyed : Posts session.outbox session.syncDestroyed.outbox := by
  have caughtUp : session.syncDestroyed.outbox =
      (session.flight.forget session.tree.destroyed).outbox :=
    congrArg Flight.outbox session.flight_syncDestroyed
  rw [caughtUp]
  exact Flight.posts_forget orderly.single _

theorem posts_destroyWidget (node : NodeId) :
    Posts session.outbox (session.destroyWidget node).outbox :=
  (orderly.perform (.edit (.destroy node))).posts_syncDestroyed

/-! ### Events on dockables -/

section Payload

variable {node : NodeId} {dockable : Dockable} (found : session.dockable? node = some dockable)
include found

theorem posts_releaseUndocked (flying : dockable.isInFlight = true) (root : Point) :
    Posts session.outbox (session.releaseUndocked node root).outbox := by
  have flies : ∃ standing, session.flight.standing? node = some standing ∧
      standing.isInFlight = true := ⟨_, standing?_of_dockable? found, flying⟩
  have settles : Follows session.flight (.settle node) (session.releaseUndocked node root) :=
    .releaseUndocked orderly.wellFormed root flies rfl
  rw [settles.outbox_eq rfl ((orderly.single.inFlight_iff node).mpr flies)]
  exact session.flight.posts_bidFarewell node

theorem posts_interruption? {event : Event} {outcome : Session × Status}
    (interrupted : session.interruption? node dockable event = some outcome) :
    Posts session.outbox outcome.1.outbox := by
  unfold interruption? at interrupted
  -- one case for each kind of event that ends a flight or a press whatever was tracked
  split at interrupted
  · split at interrupted
    · cases interrupted
      exact session.posts_settleUndocked node _
    · cases interrupted
  · split at interrupted
    · cases interrupted
      exact session.posts_settleUndocked node _
    · cases interrupted
  · split at interrupted
    · cases interrupted
      exact .of_eq rfl
    · cases interrupted
  · split at interrupted
    · cases interrupted
      dsimp only
      split
      · exact session.posts_settleUndocked node _
      · split
        · exact orderly.posts_destroyWidget node
        · exact .of_eq rfl
    · cases interrupted
  · split at interrupted
    · next flying =>
        cases interrupted
        exact orderly.posts_releaseUndocked found flying _
    · cases interrupted
  · cases interrupted

theorem posts_respond (gesture : Gesture) :
    Posts session.outbox (session.respond node dockable.phase gesture).1.outbox := by
  cases gesture with
  | ignored => exact .of_eq rfl
  | pressed root => exact .of_eq rfl
  | motion root =>
      cases dockable.phase with
      | undocked =>
          simp only [respond, found]
          split
          · exact .of_eq (session.outbox_tearOut node root)
          · exact .of_eq rfl
      | dragging => exact .of_eq rfl
      | hovering => exact .of_eq rfl
      | docked => exact .of_eq rfl
  | released root =>
      cases phase : dockable.phase with
      | undocked => exact .of_eq rfl
      | dragging => exact orderly.posts_releaseUndocked found (congrArg Phase.isInFlight phase) root
      | hovering =>
          dsimp only [respond]
          split
          · exact .concat _ _ rfl
          · exact orderly.posts_releaseUndocked found (congrArg Phase.isInFlight phase) root
      | docked => exact .of_eq rfl

end Payload

theorem tracked (node : NodeId) (dockable : Dockable) (event : Event) :
    (session.tracked node dockable event).Orderly := by
  have unmoved : (session.tracked node dockable event).tree = session.tree :=
    dockable.carrier.tree_handle session.toScene dockable.press dockable.isInFlight event
  refine orderly.followsQuietly (FollowsSafely.stay ?_).quietly (unmoved ▸ .refl _)
  exact flight_update_of_eq { session with
    toScene := (dockable.carrier.handle session.toScene dockable.press dockable.isInFlight
      event).1 } node fun _ => rfl

theorem posts_payloadEvent (node : NodeId) (event : Event) :
    Posts session.outbox (session.payloadEvent node event).1.outbox := by
  unfold payloadEvent
  split
  · exact .of_eq rfl
  · next dockable found =>
      split
      · next interrupted => exact orderly.posts_interruption? found interrupted
      · rw [gesture_eq]
        exact (orderly.tracked node dockable event).posts_respond (dockable?_tracked found event) _

theorem posts_targetEvent (target : NodeId) (event : Event) (hooks : Hooks) :
    Posts session.outbox (session.targetEvent target event hooks).session.outbox := by
  have heard := session.heard_targetEvent target event hooks
  generalize session.targetEvent target event hooks = reaction at heard ⊢
  cases heard with
  | ignored status => exact .of_eq rfl
  | left leaves => exact .of_eq (session.outbox_targetLeave target hooks)
  | tornOut grounded moves => exact posts_tearOutChild grounded target _ hooks
  | moved flying moves => exact session.posts_targetMotion _ target _ hooks
  | released flying still aims => exact .of_eq (outbox_dock orderly.wellFormed flying aims _)

theorem posts_perform {operation : Operation} (keeps : operation ≠ .takeNotices) :
    Posts session.outbox (session.perform operation).outbox := by
  cases operation with
  | edit change => exact .of_eq rfl
  | command command => exact .of_eq rfl
  | create plan => exact session.posts_create plan
  | destroyDockable node =>
      unfold Session.perform Session.destroyDockable
      dsimp only
      split
      · exact orderly.posts_destroyWidget node
      · exact .of_eq rfl
  | destroyWidget node => exact orderly.posts_destroyWidget node
  | syncDestroyed => exact orderly.posts_syncDestroyed
  | tearOut node root => exact .of_eq (session.outbox_tearOut node root)
  | forceUndocked node => exact session.posts_forceUndocked node
  | startInteractiveResize node edge =>
      exact .of_eq (congrArg Flight.outbox (session.flight_startInteractiveResize node edge))
  | payloadEvent node event => exact orderly.posts_payloadEvent node event
  | targetEvent target event hooks => exact orderly.posts_targetEvent target event hooks
  | takeNotices => exact absurd rfl keeps

/-! ### Delivery -/

/-- The release it may pass on finds the dockable over its target for the last time. -/
theorem outbox_targetEvent_of_isPosted {event : Event} (posted : event.isPosted = true)
    (target : NodeId) (hooks : Hooks) :
    (session.targetEvent target event hooks).session.outbox = session.outbox := by
  have plain : session.remap event = event := by
    cases event with
    | dockLeave => rfl
    | dockRelease root => rfl
    | undock dockable => rfl
    | _ => cases posted
  have still := Event.motion?_of_isPosted posted
  have heard := session.heard_targetEvent target event hooks
  generalize session.targetEvent target event hooks = reaction at heard ⊢
  cases heard with
  | ignored status => rfl
  | left leaves => exact session.outbox_targetLeave target hooks
  | tornOut grounded moves =>
      rw [moves] at still
      cases still
  | moved flying moves =>
      rw [plain, still] at moves
      cases moves
  | released flying _ aims => exact outbox_dock orderly.wellFormed flying aims _

end Orderly

def Operation.delivers : Operation → Bool
  | .targetEvent _ event _ => event.isPosted
  | _ => false

theorem Orderly.outbox_run_of_delivers (orderly : session.Orderly) {deliveries : List Operation}
    (delivers : ∀ operation ∈ deliveries, operation.delivers = true) :
    (session.run deliveries).outbox = session.outbox := by
  induction deliveries generalizing session with
  | nil => rfl
  | cons first rest induction =>
      obtain ⟨firstDelivers, restDeliver⟩ := List.forall_mem_cons.mp delivers
      rw [run_cons, induction (orderly.perform first) restDeliver]
      cases first with
      | targetEvent target event hooks =>
          exact orderly.outbox_targetEvent_of_isPosted firstDelivers target hooks
      | _ => cases firstDelivers

theorem notices_deliverEach (session : Session) (hooks : Hooks) (notices : List Notice) :
    (session.deliverEach hooks notices).2.map (fun delivered =>
      ⟨delivered.target, delivered.event⟩) = notices := by
  induction notices generalizing session with
  | nil => rfl
  | cons notice rest induction => exact congrArg (notice :: ·) (induction _)

theorem Orderly.outbox_deliverEach (orderly : session.Orderly) (hooks : Hooks)
    {notices : List Notice} (posted : ∀ notice ∈ notices, notice.event.isPosted = true) :
    (session.deliverEach hooks notices).1.outbox = session.outbox := by
  induction notices generalizing session with
  | nil => rfl
  | cons notice rest induction =>
      obtain ⟨firstPosted, restPosted⟩ := List.forall_mem_cons.mp posted
      have first := orderly.outbox_targetEvent_of_isPosted firstPosted notice.target hooks
      exact (induction (orderly.targetEvent _ _ hooks) restPosted).trans first

theorem Orderly.deliverWaiting_eq (orderly : session.Orderly)
    (posted : ∀ notice ∈ session.outbox, notice.event.isPosted = true) (hooks : Hooks)
    (rounds : Nat) :
    session.deliverWaiting hooks (rounds + 1) =
      session.takeNotices.1.deliverEach hooks session.outbox := by
  have quiet : (session.takeNotices.1.deliverEach hooks session.outbox).1.outbox = [] :=
    orderly.takeNotices.outbox_deliverEach hooks posted
  unfold Session.deliverWaiting
  have taken : session.takeNotices = (session.takeNotices.1, session.outbox) := rfl
  rw [taken]
  generalize session.takeNotices.1 = emptied at quiet
  cases waiting : session.outbox with
  | nil => rfl
  | cons notice rest =>
      rw [waiting] at quiet
      dsimp only
      rw [deliverWaiting_of_nil quiet, List.append_nil]

/-- All that waits is of the kinds that docking posts, a call adds one notice at most, and
handing notices on adds none. So whoever takes what waits and hands it on is done. -/
structure DrainsAtOnce (session : Session) : Prop where
  posted : ∀ notice ∈ session.outbox, notice.event.isPosted = true
  posts : ∀ operation, operation ≠ .takeNotices →
    Posts session.outbox (session.perform operation).outbox
  delivers : ∀ deliveries : List Operation,
    (∀ operation ∈ deliveries, operation.delivers = true) →
      (session.run deliveries).outbox = session.outbox ∧
        (session.run (.takeNotices :: deliveries)).outbox = []
  /-- A loop that goes on as long as notices wait delivers the first batch, and no more. -/
  drains : ∀ hooks rounds,
    let drained := session.deliverWaiting hooks (rounds + 1)
    drained.1.outbox = [] ∧
      drained.2.map (fun delivered => ⟨delivered.target, delivered.event⟩) = session.outbox ∧
      drained = session.deliverWaiting hooks 1

theorem posted_run (desktop : Desktop) (settings : Settings) (operations : List Operation) :
    ∀ notice ∈ ((start desktop settings).run operations).outbox,
      notice.event.isPosted = true := by
  refine (run_induction (motive := fun session => session.Orderly ∧
    ∀ notice ∈ session.outbox, notice.event.isPosted = true) ?_ ?_ operations).2
  · exact ⟨.start desktop settings, fun _ member => nomatch member⟩
  · rintro session operation ⟨orderly, posted⟩
    refine ⟨orderly.perform operation, ?_⟩
    by_cases takes : operation = .takeNotices
    · rw [takes]
      exact fun _ member => nomatch member
    · exact (orderly.posts_perform takes).isPosted posted

theorem drainsAtOnce_run (desktop : Desktop) (settings : Settings)
    (operations : List Operation) : ((start desktop settings).run operations).DrainsAtOnce := by
  have orderly := orderly_run desktop settings operations
  have posted := posted_run desktop settings operations
  generalize (start desktop settings).run operations = session at orderly posted
  refine ⟨posted, fun _ => orderly.posts_perform, fun deliveries delivers => ⟨?_, ?_⟩,
    fun hooks rounds => ⟨?_, ?_, ?_⟩⟩
  · exact orderly.outbox_run_of_delivers delivers
  · exact orderly.takeNotices.outbox_run_of_delivers delivers
  · rw [orderly.deliverWaiting_eq posted]
    exact orderly.takeNotices.outbox_deliverEach hooks posted
  · rw [orderly.deliverWaiting_eq posted]
    exact notices_deliverEach _ hooks session.outbox
  · rw [orderly.deliverWaiting_eq posted, orderly.deliverWaiting_eq posted]

end Session
end Docking

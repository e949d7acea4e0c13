import Docking.Proofs.Flight.Observation

namespace Docking

/-! A notice of leaving says which target was left, not when. It ends the hovering over that
target even when it was queued before the dockable came back to it. -/

open Flight (Turn)

namespace Flight

theorem inFlight_leave (flight : Flight) (target : NodeId) :
    (flight.make (.leave target)).inFlight = flight.inFlight := by
  dsimp only [make]
  split
  · rfl
  · split <;> rfl

theorem outbox_leave (flight : Flight) (target : NodeId) :
    (flight.make (.leave target)).outbox = flight.outbox := by
  dsimp only [make]
  split
  · rfl
  · split <;> rfl

/-- What the delivery of a notice does, unless the notice passes on a release. -/
def heed (flight : Flight) (notice : Notice) : Flight :=
  if notice.event = .dockLeave then flight.make (.leave notice.target) else flight

theorem inFlight_heed (flight : Flight) (notice : Notice) :
    (flight.heed notice).inFlight = flight.inFlight := by
  unfold heed
  split
  · exact flight.inFlight_leave notice.target
  · rfl

theorem outbox_heed (flight : Flight) (notice : Notice) :
    (flight.heed notice).outbox = flight.outbox := by
  unfold heed
  split
  · exact flight.outbox_leave notice.target
  · rfl

theorem aimed?_heed (flight : Flight) (notice : Notice) :
    (flight.heed notice).aimed? =
      if notice.event = .dockLeave ∧ flight.aimed? = some notice.target then none
      else flight.aimed? := by
  unfold heed
  by_cases leave : notice.event = .dockLeave
  · rw [if_pos leave, aimed?_leave]
    simp only [leave, true_and]
  · rw [if_neg leave, if_neg fun both => leave both.1]

theorem inFlight_foldl_heed (notices : List Notice) (flight : Flight) :
    (notices.foldl heed flight).inFlight = flight.inFlight := by
  induction notices generalizing flight with
  | nil => rfl
  | cons notice rest induction =>
      exact (induction (flight.heed notice)).trans (flight.inFlight_heed notice)

theorem outbox_foldl_heed (notices : List Notice) (flight : Flight) :
    (notices.foldl heed flight).outbox = flight.outbox := by
  induction notices generalizing flight with
  | nil => rfl
  | cons notice rest induction =>
      exact (induction (flight.heed notice)).trans (flight.outbox_heed notice)

theorem aimed?_foldl_heed_of_none {notices : List Notice} {flight : Flight}
    (aimless : flight.aimed? = none) : (notices.foldl heed flight).aimed? = none := by
  induction notices generalizing flight with
  | nil => exact aimless
  | cons notice rest induction =>
      apply induction
      rw [aimed?_heed, aimless, ite_self]

theorem aimed?_foldl_heed {notices : List Notice} {flight : Flight} {target : NodeId}
    (aiming : flight.aimed? = some target) :
    (notices.foldl heed flight).aimed? =
      if ⟨target, .dockLeave⟩ ∈ notices then none else some target := by
  induction notices generalizing flight with
  | nil => exact aiming
  | cons notice rest induction =>
      have heeded := flight.aimed?_heed notice
      rw [aiming] at heeded
      by_cases leaves : notice = ⟨target, .dockLeave⟩
      · subst leaves
        rw [if_pos ⟨rfl, rfl⟩] at heeded
        rw [if_pos List.mem_cons_self, List.foldl_cons]
        exact aimed?_foldl_heed_of_none heeded
      · rw [if_neg] at heeded
        · rw [List.foldl_cons, induction heeded]
          simp only [List.mem_cons, Ne.symm leaves, false_or]
        · rintro ⟨leave, same⟩
          obtain ⟨noticed, event⟩ := notice
          cases leave
          cases same
          exact leaves rfl

end Flight

/-- Tells of something that happened; only a release that is passed on is not news. -/
def Notice.IsNews (notice : Notice) : Prop :=
  notice.event = .dockLeave ∨ ∃ node, notice.event = .undock node

def Hooks.KeepsGeometry (hooks : Hooks) : Prop :=
  ∀ feedback, hooks.feedback = some feedback → ∀ (tree : Tree) (target : NodeId) (shown : Bool),
    tree.SameGeometry (tree.edit (feedback tree target shown))

theorem Hooks.OnlyShows.keepsGeometry {hooks : Hooks} (onlyShows : hooks.OnlyShows) :
    hooks.KeepsGeometry := by
  intro feedback given tree target shown
  rw [onlyShows feedback given]
  exact .refl tree

namespace Session

variable {session : Session}

theorem flight_deliverEach {notices : List Notice} (news : ∀ notice ∈ notices, notice.IsNews)
    (hooks : Hooks) (session : Session) :
    (session.deliverEach hooks notices).1.flight = notices.foldl Flight.heed session.flight := by
  induction notices generalizing session with
  | nil => rfl
  | cons notice rest induction =>
      have first : (session.targetEvent notice.target notice.event hooks).session.flight =
          session.flight.heed notice := by
        rcases news notice List.mem_cons_self with leave | ⟨node, undocked⟩
        · rw [Flight.heed, if_pos leave, leave]
          exact flight_targetLeave notice.target hooks session
        · rw [Flight.heed, undocked, if_neg Event.noConfusion]
          rfl
      unfold deliverEach
      dsimp only
      rw [induction fun other member => news other (List.mem_cons_of_mem _ member), first,
        List.foldl_cons]

theorem takeNotices_of_nil (nothing : session.outbox = []) :
    session.takeNotices = (session, []) := by
  obtain ⟨scene, settings, dockables, inFlight, outbox⟩ := session
  cases nothing
  rfl

theorem deliverWaiting_of_nil (nothing : session.outbox = []) (hooks : Hooks) (rounds : Nat) :
    session.deliverWaiting hooks rounds = (session, []) := by
  cases rounds with
  | zero => rfl
  | succ rounds =>
      unfold deliverWaiting
      rw [takeNotices_of_nil nothing]

theorem flight_deliverWaiting (news : ∀ notice ∈ session.outbox, notice.IsNews) (hooks : Hooks)
    (rounds : Nat) :
    (session.deliverWaiting hooks (rounds + 1)).1.flight =
      session.outbox.foldl Flight.heed { session.flight with outbox := [] } := by
  have delivered := flight_deliverEach news hooks { session with outbox := [] }
  have emptied : ({ session with outbox := [] } : Session).flight =
      { session.flight with outbox := [] } := rfl
  unfold deliverWaiting takeNotices
  cases waiting : session.outbox with
  | nil => rfl
  | cons notice rest =>
      rw [waiting] at delivered
      dsimp only
      rw [deliverWaiting_of_nil, delivered, emptied]
      have remaining := congrArg Flight.outbox delivered
      rw [Flight.outbox_foldl_heed] at remaining
      exact remaining

def HoversOver (session : Session) (node target : NodeId) : Prop :=
  session.inFlight = some node ∧
    ∃ dockable, session.dockable? node = some dockable ∧ dockable.phase = .hovering ∧
      dockable.activeTarget = some target

def DragsFreely (session : Session) (node : NodeId) : Prop :=
  session.inFlight = some node ∧
    ∃ dockable, session.dockable? node = some dockable ∧ dockable.phase = .dragging ∧
      dockable.activeTarget = none

theorem aimed?_of_inFlight {node : NodeId} (flying : session.inFlight = some node) :
    session.flight.aimed? = (session.dockable? node).bind Dockable.activeTarget := by
  have airborne : session.flight.inFlight = some node := flying
  rw [Flight.aimed?, airborne, Option.bind_some, activeTarget?_flight]

theorem Orderly.hoversOver_iff (orderly : session.Orderly) {node target : NodeId} :
    session.HoversOver node target ↔
      session.inFlight = some node ∧ session.flight.aimed? = some target := by
  refine and_congr_right fun flying => ?_
  rw [aimed?_of_inFlight flying]
  constructor
  · rintro ⟨dockable, found, _, aiming⟩
    rw [found]
    exact aiming
  · intro aiming
    obtain ⟨dockable, found, aims⟩ := Option.bind_eq_some_iff.mp aiming
    have sound := orderly.single.sound node _ (standing?_of_dockable? found)
    refine ⟨dockable, found, sound.hovering_iff.mpr ?_, aims⟩
    exact Option.isSome_iff_exists.mpr ⟨target, aims⟩

theorem Orderly.dragsFreely_iff (orderly : session.Orderly) {node : NodeId} :
    session.DragsFreely node ↔ session.inFlight = some node ∧ session.flight.aimed? = none := by
  refine and_congr_right fun flying => ?_
  rw [aimed?_of_inFlight flying]
  constructor
  · rintro ⟨dockable, found, _, aiming⟩
    rw [found]
    exact aiming
  · intro aimless
    obtain ⟨dockable, found, inFlight⟩ := orderly.dockable?_of_inFlight flying
    rw [found, Option.bind_some] at aimless
    have sound := orderly.single.sound node _ (standing?_of_dockable? found)
    refine ⟨dockable, found, ?_, aimless⟩
    cases phase : dockable.phase with
    | dragging => rfl
    | hovering =>
        have aiming := sound.hovering_iff.mp phase
        rw [Dockable.standing, aimless] at aiming
        cases aiming
    | undocked => cases inFlight.symm.trans (congrArg Phase.isInFlight phase)
    | docked => cases inFlight.symm.trans (congrArg Phase.isInFlight phase)

/-- The target takes the dockable with the pointer at `root`, however widgets are painted. -/
structure Welcomes (session : Session) (hooks : Hooks) (target node : NodeId)
    (root : Point) : Prop where
  eligible : session.refusesItself target node = false
  accepts : ∀ tree, session.tree.SameGeometry tree → (hooks.runAccept tree target node).1 = true
  hits : ∀ tree, session.tree.SameGeometry tree →
    (hooks.runHitTest ⟨tree, session.desktop⟩ target root).1 = true

/-- The dockable is where it was, with the same memory of its origin; painting aside, the
tree and the windowing system are as they were. -/
structure Undisturbed (node : NodeId) (before after : Session) : Prop where
  geometry : before.tree.SameGeometry after.tree
  desktop_eq : after.desktop = before.desktop
  origin_eq : (after.dockable? node).bind Dockable.originTarget =
    (before.dockable? node).bind Dockable.originTarget

theorem Welcomes.undisturbed {before after : Session} {hooks : Hooks} {target node : NodeId}
    {root : Point} (welcomes : Welcomes before hooks target node root)
    (undisturbed : Undisturbed node before after) : Welcomes after hooks target node root where
  eligible := by
    rw [refusesItself, undisturbed.origin_eq, undisturbed.geometry.isAncestor_eq]
    exact welcomes.eligible
  accepts tree same := welcomes.accepts tree (undisturbed.geometry.trans same)
  hits tree same := by
    rw [undisturbed.desktop_eq]
    exact welcomes.hits tree (undisturbed.geometry.trans same)

theorem Undisturbed.trans {node : NodeId} {before middle after : Session}
    (first : Undisturbed node before middle) (second : Undisturbed node middle after) :
    Undisturbed node before after where
  geometry := first.geometry.trans second.geometry
  desktop_eq := second.desktop_eq.trans first.desktop_eq
  origin_eq := second.origin_eq.trans first.origin_eq

theorem undisturbed_refl (session : Session) (node : NodeId) :
    Undisturbed node session session :=
  ⟨.refl _, rfl, rfl⟩

theorem undisturbed_giveFeedback {hooks : Hooks} (keeps : hooks.KeepsGeometry)
    (session : Session) (node target : NodeId) (shown : Bool) :
    Undisturbed node session (session.giveFeedback hooks target shown).1 where
  geometry := by
    unfold giveFeedback Hooks.runFeedback
    cases given : hooks.feedback with
    | none => exact .refl _
    | some feedback =>
        dsimp only
        split
        · exact keeps feedback given session.tree target shown
        · exact .refl _
  desktop_eq := rfl
  origin_eq := rfl

theorem undisturbed_aim (session : Session) (node : NodeId) (aim : Option NodeId)
    (phase : Phase) :
    Undisturbed node session ((session.update node fun dockable =>
      { dockable with activeTarget := aim }).enterPhase node phase) where
  geometry := (repaints_enterPhase (session.update node _) node phase).geometry
  desktop_eq := by
    unfold enterPhase repaint
    split <;> rfl
  origin_eq := by
    rw [dockable?_enterPhase, dockable?_update, if_pos rfl, Option.map_map, Option.bind_map]
    rfl

theorem undisturbed_takeOver (session : Session) (target node : NodeId)
    (previous : Option NodeId) :
    Undisturbed node session (session.takeOver target node previous) := by
  cases previous with
  | none => exact session.undisturbed_aim node (some target) .hovering
  | some previous =>
      have told : Undisturbed node session (session.notify previous .dockLeave) :=
        ⟨.refl _, rfl, rfl⟩
      exact told.trans (undisturbed_aim _ node (some target) .hovering)

theorem isCandidate_of_welcomes {hooks : Hooks} {target node : NodeId} {root : Point}
    (welcomes : session.Welcomes hooks target node root) :
    (session.isCandidate target node root hooks).1 = true := by
  unfold isCandidate
  rw [welcomes.eligible, if_neg Bool.false_ne_true]
  dsimp only
  rw [if_pos (welcomes.accepts session.tree (.refl _))]
  exact welcomes.hits session.tree (.refl _)

theorem targetEvent_pointerMove {node : NodeId} (flying : session.inFlight = some node)
    (target : NodeId) (root : Point) (hooks : Hooks) :
    session.targetEvent target (.pointerMove root) hooks =
      session.targetMotion target node root hooks := by
  have meant : session.remap (.pointerMove root) = .pointerMove root := rfl
  unfold targetEvent
  rw [meant, flying]
  rfl

theorem pointerMove_of_isCandidate {hooks : Hooks} {target node : NodeId} {root : Point}
    (orderly : session.Orderly) (keeps : hooks.KeepsGeometry)
    (flying : session.inFlight = some node)
    (candidate : (session.isCandidate target node root hooks).1 = true) :
    Undisturbed node session (session.targetEvent target (.pointerMove root) hooks).session ∧
      (session.targetEvent target (.pointerMove root) hooks).session.flight =
        if session.flight.aimed? = some target ∨
            ∃ current, session.flight.aimed? = some current ∧
              session.tree.isAncestor target current = true then session.flight
        else session.flight.make (.hover node target) := by
  have aims := aimed?_of_inFlight flying
  have active := session.activeTarget?_flight node
  have moved := session.moved_targetMotion node target hooks root
  rw [targetEvent_pointerMove flying]
  generalize session.targetMotion target node root hooks = reaction at moved ⊢
  cases moved with
  | unknown missing =>
      obtain ⟨dockable, found, _⟩ := orderly.dockable?_of_inFlight flying
      cases missing.symm.trans found
  | refused _ outside => cases candidate.symm.trans outside
  | left _ outside => cases candidate.symm.trans outside
  | kept found _ aimed =>
      rw [found, Option.bind_some] at aims
      rw [KeepsAim] at aimed
      rw [aims, if_pos aimed]
      exact ⟨session.undisturbed_refl node, rfl⟩
  | taken found _ takes =>
      rw [found, Option.bind_some] at aims active
      rw [KeepsAim] at takes
      rw [aims, if_neg takes, ← active, flight_giveFeedback]
      have taken := session.undisturbed_takeOver target node (session.flight.activeTarget? node)
      exact ⟨taken.trans (undisturbed_giveFeedback keeps _ node target true),
        flight_takeOver target session node⟩

/-- Two targets, neither above the other, that both take the dockable. -/
structure Rivals (session : Session) (hooks : Hooks) (node first second : NodeId)
    (root : Point) : Prop where
  ne : first ≠ second
  not_above : session.tree.isAncestor first second = false
  not_below : session.tree.isAncestor second first = false
  first_welcomes : session.Welcomes hooks first node root
  second_welcomes : session.Welcomes hooks second node root

theorem mem_outbox_hover {flight : Flight} {node : NodeId}
    (flying : flight.inFlight = some node) (target : NodeId) (notice : Notice) :
    notice ∈ (flight.make (.hover node target)).outbox ↔
      notice ∈ flight.outbox ∨
        ∃ previous, flight.aimed? = some previous ∧ notice = ⟨previous, .dockLeave⟩ := by
  have same : (flight.make (.hover node target)).outbox = (flight.bidFarewell node).outbox := rfl
  rw [same, Flight.aimed?, flying, Option.bind_some, Flight.bidFarewell]
  cases flight.activeTarget? node with
  | none => simp
  | some previous => simp [Flight.post]

theorem inFlight_hover (flight : Flight) (node target : NodeId) :
    (flight.make (.hover node target)).inFlight = flight.inFlight :=
  flight.inFlight_bidFarewell node

theorem Rivals.beside {hooks : Hooks} {node first second : NodeId} {root : Point}
    (rivals : session.Rivals hooks node first second root)
    (wellFormed : session.tree.WellFormed)
    (keeps : session.flight.aimed? = some first ∨
      ∃ current, session.flight.aimed? = some current ∧
        session.tree.isAncestor first current = true) :
    ∃ current, session.flight.aimed? = some current ∧ current ≠ second ∧
      session.tree.isAncestor second current = false := by
  rcases keeps with aiming | ⟨current, aiming, above⟩
  · exact ⟨first, aiming, rivals.ne, rivals.not_below⟩
  · refine ⟨current, aiming, ?_, ?_⟩
    · rintro rfl
      exact nomatch rivals.not_above.symm.trans above
    · rw [Bool.eq_false_iff]
      intro otherAbove
      rw [wellFormed.isAncestor_iff] at above otherAbove
      rcases above.comparable otherAbove with same | upper | lower
      · exact rivals.ne same
      · rw [← wellFormed.isAncestor_iff, rivals.not_above] at upper
        cases upper
      · rw [← wellFormed.isAncestor_iff, rivals.not_below] at lower
        cases lower

/-- The first of two rivals has the dockable, or a target nested in it still has. -/
theorem first_of_rivals {hooks : Hooks} {node first second : NodeId} {root : Point}
    (orderly : session.Orderly) (onlyShows : hooks.OnlyShows)
    (flying : session.inFlight = some node)
    (rivals : session.Rivals hooks node first second root) {after : Session}
    (after_eq : after = (session.targetEvent first (.pointerMove root) hooks).session) :
    after.inFlight = some node ∧ Undisturbed node session after ∧
      (∃ current, after.flight.aimed? = some current ∧ current ≠ second ∧
        after.tree.isAncestor second current = false) ∧
      (∀ notice ∈ after.outbox, notice ∈ session.outbox ∨ notice.event = .dockLeave) ∧
      (⟨second, .dockLeave⟩ ∈ after.outbox ↔
        ⟨second, .dockLeave⟩ ∈ session.outbox ∨ session.flight.aimed? = some second) := by
  obtain ⟨undisturbed, flight_eq⟩ :=
    pointerMove_of_isCandidate orderly onlyShows.keepsGeometry flying
      (isCandidate_of_welcomes rivals.first_welcomes)
  rw [← after_eq] at undisturbed flight_eq
  have outbox_eq : after.outbox = after.flight.outbox := rfl
  have inFlight_eq : after.inFlight = after.flight.inFlight := rfl
  have airborne : session.flight.inFlight = some node := flying
  have upward := undisturbed.geometry.isAncestor_eq second
  rw [outbox_eq, inFlight_eq]
  split at flight_eq
  · next keeps =>
      rw [flight_eq]
      obtain ⟨current, aiming, apart, beside⟩ := rivals.beside orderly.wellFormed keeps
      refine ⟨airborne, undisturbed, ⟨current, aiming, apart, (upward current).trans beside⟩,
        fun notice member => .inl member, ⟨.inl, ?_⟩⟩
      rintro (member | aimed)
      · exact member
      · rw [aiming] at aimed
        exact absurd (Option.some.inj aimed) apart
  · obtain ⟨standing, found⟩ := orderly.single.registered airborne
    rw [flight_eq]
    refine ⟨(inFlight_hover _ _ _).trans airborne, undisturbed,
      ⟨first, Flight.aimed?_hover airborne found, rivals.ne,
        (upward first).trans rivals.not_below⟩, fun notice member => ?_, ?_⟩
    · rcases (mem_outbox_hover airborne first notice).mp member with member | ⟨_, _, rfl⟩
      · exact .inl member
      · exact .inr rfl
    · refine (mem_outbox_hover airborne first _).trans (or_congr_right ⟨?_, ?_⟩)
      · rintro ⟨previous, aiming, same⟩
        cases same
        exact aiming
      · exact fun aiming => ⟨second, aiming, rfl⟩

theorem broadcast_of_rivals {hooks : Hooks} {node first second : NodeId} {root : Point}
    (orderly : session.Orderly) (onlyShows : hooks.OnlyShows)
    (flying : session.inFlight = some node)
    (rivals : session.Rivals hooks node first second root) {after : Session}
    (after_eq : after = (session.deliverEach hooks
      [⟨first, .pointerMove root⟩, ⟨second, .pointerMove root⟩]).1) :
    after.Orderly ∧ after.inFlight = some node ∧ after.flight.aimed? = some second ∧
      (∀ notice ∈ after.outbox, notice ∈ session.outbox ∨ notice.event = .dockLeave) ∧
      (⟨second, .dockLeave⟩ ∈ after.outbox ↔
        ⟨second, .dockLeave⟩ ∈ session.outbox ∨ session.flight.aimed? = some second) := by
  have orderlyBetween := orderly.targetEvent first (.pointerMove root) hooks
  have between := first_of_rivals orderly onlyShows flying rivals rfl
  have unfolded : after = ((session.targetEvent first (.pointerMove root) hooks).session.targetEvent
    second (.pointerMove root) hooks).session := after_eq
  generalize (session.targetEvent first (.pointerMove root) hooks).session = middle
    at orderlyBetween between unfolded
  obtain ⟨airborne, undisturbed, ⟨current, aiming, apart, beside⟩, news, leaves⟩ := between
  obtain ⟨_, flight_eq⟩ := pointerMove_of_isCandidate orderlyBetween onlyShows.keepsGeometry
    airborne (isCandidate_of_welcomes (rivals.second_welcomes.undisturbed undisturbed))
  rw [← unfolded, if_neg] at flight_eq
  · obtain ⟨standing, found⟩ := orderlyBetween.single.registered airborne
    have outbox_eq : after.outbox = after.flight.outbox := rfl
    have inFlight_eq : after.inFlight = after.flight.inFlight := rfl
    have orderlyAfter := orderlyBetween.targetEvent second (.pointerMove root) hooks
    rw [← unfolded] at orderlyAfter
    rw [outbox_eq, inFlight_eq, flight_eq]
    refine ⟨orderlyAfter, (inFlight_hover _ _ _).trans airborne,
      Flight.aimed?_hover airborne found, fun notice member => ?_, ?_⟩
    · rcases (mem_outbox_hover airborne second notice).mp member with member | ⟨_, _, rfl⟩
      · exact news notice member
      · exact .inr rfl
    · rw [mem_outbox_hover airborne, ← leaves]
      refine or_iff_left ?_
      rintro ⟨previous, aimed, same⟩
      cases same
      rw [aiming] at aimed
      exact apart (Option.some.inj aimed)
  · rintro (aimed | ⟨other, aimed, above⟩)
    · rw [aiming] at aimed
      exact apart (Option.some.inj aimed)
    · rw [aiming] at aimed
      cases aimed
      rw [beside] at above
      cases above

theorem Orderly.deliverEach (orderly : session.Orderly) (hooks : Hooks)
    (notices : List Notice) : (session.deliverEach hooks notices).1.Orderly := by
  induction notices generalizing session with
  | nil => exact orderly
  | cons notice rest induction =>
      exact induction (orderly.targetEvent notice.target notice.event hooks)

theorem Orderly.deliverWaiting (orderly : session.Orderly) (hooks : Hooks) (rounds : Nat) :
    (session.deliverWaiting hooks rounds).1.Orderly := by
  induction rounds generalizing session with
  | zero => exact orderly
  | succ rounds induction =>
      have emptied := orderly.takeNotices
      unfold Session.deliverWaiting
      split
      · next same =>
          rw [same] at emptied
          exact emptied
      · next same =>
          rw [same] at emptied
          exact induction (emptied.deliverEach hooks _)

theorem flight_dockLeave (session : Session) (target : NodeId) (hooks : Hooks) :
    (session.targetEvent target .dockLeave hooks).session.flight =
      session.flight.make (.leave target) :=
  flight_targetLeave target hooks session

/-- Delivered to the active target, a notice of leaving always ends the hovering, whenever it
was queued; delivered to any other target it never does. So one move that is broadcast to two
rivals leaves the dockable over the second one unless it was there before, or notice of an
earlier leaving still waited: then the second target is left although the pointer is there. -/
theorem dockLeave_ends_hovering (reachable : session.Reachable) (node : NodeId)
    (hooks : Hooks) :
    (∀ target, session.HoversOver node target →
      (session.targetEvent target .dockLeave hooks).session.DragsFreely node ∧
      ∀ other, other ≠ target →
        (session.targetEvent other .dockLeave hooks).session.HoversOver node target) ∧
    ∀ first second root rounds, session.inFlight = some node → hooks.OnlyShows →
      (∀ notice ∈ session.outbox, notice.IsNews) →
      session.Rivals hooks node first second root →
      let told := (session.deliverEach hooks
        [⟨first, .pointerMove root⟩, ⟨second, .pointerMove root⟩]).1
      let drained := (told.deliverWaiting hooks (rounds + 1)).1
      (session.HoversOver node second ∨ ⟨second, .dockLeave⟩ ∈ session.outbox →
        drained.DragsFreely node) ∧
      (¬ session.HoversOver node second ∧ ⟨second, .dockLeave⟩ ∉ session.outbox →
        drained.HoversOver node second) := by
  have orderly := orderly_of_reachable reachable
  constructor
  · intro target hovers
    obtain ⟨flying, aiming⟩ := orderly.hoversOver_iff.mp hovers
    have still (other : NodeId) :
        (session.targetEvent other .dockLeave hooks).session.inFlight = some node := by
      have kept := congrArg Flight.inFlight (session.flight_dockLeave other hooks)
      rw [Flight.inFlight_leave] at kept
      exact kept.trans flying
    have aims (other : NodeId) := congrArg Flight.aimed? (session.flight_dockLeave other hooks)
    simp only [Flight.aimed?_leave, aiming] at aims
    constructor
    · refine (orderly.targetEvent target .dockLeave hooks).dragsFreely_iff.mpr ⟨still target, ?_⟩
      rw [aims, if_pos rfl]
    · intro other apart
      refine (orderly.targetEvent other .dockLeave hooks).hoversOver_iff.mpr ⟨still other, ?_⟩
      rw [aims, if_neg fun same => apart (Option.some.inj same).symm]
  · intro first second root rounds flying onlyShows news rivals told drained
    obtain ⟨orderlyTold, airborne, aiming, fresh, leaves⟩ :=
      broadcast_of_rivals orderly onlyShows flying rivals (rfl : told = _)
    have allNews : ∀ notice ∈ told.outbox, notice.IsNews := fun notice member =>
      (fresh notice member).elim (news notice) .inl
    have orderlyDrained := orderlyTold.deliverWaiting hooks (rounds + 1)
    have flight_eq := flight_deliverWaiting allNews hooks rounds
    have still : drained.inFlight = some node := by
      have kept := congrArg Flight.inFlight flight_eq
      rw [Flight.inFlight_foldl_heed] at kept
      exact kept.trans airborne
    have aims : drained.flight.aimed? =
        if ⟨second, .dockLeave⟩ ∈ told.outbox then none else some second :=
      (congrArg Flight.aimed? flight_eq).trans (Flight.aimed?_foldl_heed aiming)
    have returned : session.HoversOver node second ↔ session.flight.aimed? = some second :=
      orderly.hoversOver_iff.trans (and_iff_right flying)
    rw [returned]
    constructor
    · intro stale
      refine orderlyDrained.dragsFreely_iff.mpr ⟨still, ?_⟩
      rw [aims, if_pos (leaves.mpr stale.symm)]
    · rintro ⟨elsewhere, nothing⟩
      refine orderlyDrained.hoversOver_iff.mpr ⟨still, ?_⟩
      rw [aims, if_neg]
      exact fun member => (leaves.mp member).elim nothing elsewhere

/-- Two panels and a dockable over the second one, which took it over from the first. -/
def overSecond : Session :=
  (start (.withCapabilities .none) .standard).run
    [.command (.setFaults (.onCreate "none left")),
      .edit (.add (.newPanel "first") .zero),
      .edit (.add (.newPanel "second") .zero),
      .create (.new "tool"),
      .tearOut ⟨2⟩ .zero,
      .targetEvent ⟨0⟩ (.pointerMove .zero) .welcoming,
      .targetEvent ⟨1⟩ (.pointerMove .zero) .welcoming]

theorem dragsFreely_of_overSecond :
    overSecond.HoversOver ⟨2⟩ ⟨1⟩ ∧
      (overSecond.targetEvent ⟨1⟩ .dockLeave .welcoming).session.DragsFreely ⟨2⟩ ∧
      (((overSecond.deliverEach .welcoming
        [⟨⟨0⟩, .pointerMove .zero⟩, ⟨⟨1⟩, .pointerMove .zero⟩]).1.deliverWaiting .welcoming
          1).1).DragsFreely ⟨2⟩ := by
  have reachable : overSecond.Reachable := ⟨_, _, _, rfl⟩
  have hovers : overSecond.HoversOver ⟨2⟩ ⟨1⟩ := ⟨rfl, _, rfl, rfl, rfl⟩
  obtain ⟨leaves, broadcast⟩ := dockLeave_ends_hovering reachable ⟨2⟩ .welcoming
  have rivals : overSecond.Rivals .welcoming ⟨2⟩ ⟨0⟩ ⟨1⟩ .zero :=
    ⟨by decide, rfl, rfl, ⟨rfl, fun _ _ => rfl, fun _ _ => rfl⟩,
      ⟨rfl, fun _ _ => rfl, fun _ _ => rfl⟩⟩
  have news : ∀ notice ∈ overSecond.outbox, notice.IsNews := by
    have outbox_eq : overSecond.outbox = [⟨⟨0⟩, .dockLeave⟩] := rfl
    rw [outbox_eq]
    intro notice member
    rw [List.mem_singleton.mp member]
    exact .inl rfl
  refine ⟨hovers, (leaves _ hovers).1,
    (broadcast ⟨0⟩ ⟨1⟩ .zero 0 rfl ?_ news rivals).1 (.inl hovers)⟩
  intro feedback given
  cases given
  exact fun _ _ _ => rfl

end Session
end Docking

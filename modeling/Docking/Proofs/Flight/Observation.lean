import Docking.Proofs.Flight.Highlight

namespace Docking

/-! A session together with what its application has seen of it: the notices it took and has
not handed on so far, and what each target was told last. -/

open Flight (Lit Turn)

/-- Hooks of a target that is hit everywhere and shows what it is told. -/
def Hooks.welcoming : Hooks :=
  { Hooks.none with hitTest := some fun _ _ _ => true, feedback := some fun _ _ _ => [] }

structure Observation where
  session : Session
  taken : List Notice
  shown : NodeId → Bool

namespace Observation

def start (desktop : Desktop) (settings : Settings) : Observation :=
  ⟨.start desktop settings, [], fun _ => false⟩

def hear (shown : NodeId → Bool) (consulted : List HookCall) : NodeId → Bool :=
  (consulted.filterMap HookCall.feedback?).foldl
    (fun shown told => Function.update shown told.1 told.2) shown

def handle (observation : Observation) (target : NodeId) (event : Event) (hooks : Hooks) :
    Observation :=
  let reaction := observation.session.targetEvent target event hooks
  { observation with
    session := reaction.session
    shown := hear observation.shown reaction.consulted }

inductive Step
  | operate (operation : Session.Operation)
  | deliver (notice : Notice) (hooks : Hooks)

def advance (observation : Observation) : Step → Observation
  | .operate (.targetEvent target event hooks) => observation.handle target event hooks
  | .operate .takeNotices =>
      { observation with
        session := observation.session.takeNotices.1
        taken := observation.taken ++ observation.session.takeNotices.2 }
  | .operate operation =>
      { observation with session := observation.session.perform operation }
  | .deliver notice hooks =>
      { observation.handle notice.target notice.event hooks with
        taken := observation.taken.erase notice }

def Permits (observation : Observation) : Step → Prop
  | .operate (.targetEvent target _ hooks) =>
      hooks.feedback.isSome = true ∧ observation.session.tree.contains target = true
  | .operate _ => True
  | .deliver notice hooks =>
      notice ∈ observation.taken ∧ hooks.feedback.isSome = true ∧
        observation.session.tree.contains notice.target = true

inductive Reachable (desktop : Desktop) (settings : Settings) : Observation → Prop
  | start : Reachable desktop settings (start desktop settings)
  | step {observation : Observation} {step : Step}
      (reachable : Reachable desktop settings observation)
      (permitted : observation.Permits step) :
      Reachable desktop settings (observation.advance step)

def activeTarget? (observation : Observation) : Option NodeId :=
  (observation.session.inFlight.bind observation.session.dockable?).bind
    Dockable.activeTarget

def undelivered (observation : Observation) : List Notice :=
  observation.session.outbox ++ observation.taken

theorem aimed?_flight (observation : Observation) :
    observation.session.flight.aimed? = observation.activeTarget? := by
  unfold Flight.aimed? activeTarget?
  rw [Option.bind_assoc]
  apply congrArg
  funext node
  exact observation.session.activeTarget?_flight node

structure Consistent (observation : Observation) : Prop where
  orderly : observation.session.Orderly
  lit : Lit observation.session.tree.Lost observation.session.flight.aimed?
    observation.undelivered observation.shown

namespace Consistent

variable {observation : Observation} (consistent : observation.Consistent)
include consistent

theorem perform {operation : Session.Operation} (quiet : operation.isQuiet = true) :
    Consistent { observation with session := observation.session.perform operation } where
  orderly := consistent.orderly.perform operation
  lit := by
    obtain ⟨turn, quiet, follows⟩ :=
      observation.session.followsQuietly_perform consistent.orderly.wellFormed quiet
    obtain ⟨gone, lost, flight_eq⟩ := follows.flight_eq
    have later := consistent.lit.mono
      (fun _ => (observation.session.evolves_perform operation).lost
        consistent.orderly.wellFormed) fun _ => id
    have made := later.make_of_isQuiet consistent.orderly.single quiet follows.admitted
    have forgotten := made.forget lost
    rw [← flight_eq] at forgotten
    exact forgotten

theorem create (plan : DockablePlan) :
    Consistent { observation with session := (observation.session.create plan).1 } := by
  have orderly := consistent.orderly
  refine ⟨orderly.create plan, ?_⟩
  rcases observation.session.follows_create orderly.fresh plan with same | ⟨_, _, follows⟩
  · dsimp only
    rw [undelivered, same]
    exact consistent.lit
  · obtain ⟨gone, lost, flight_eq⟩ := follows.flight_eq
    have later := consistent.lit.mono
      (fun _ => (observation.session.evolves_create plan).lost orderly.wellFormed) fun _ => id
    have forgotten := (later.register orderly.single follows.admitted).forget lost
    rw [← flight_eq] at forgotten
    exact forgotten

theorem takeNotices : Consistent (observation.advance (.operate .takeNotices)) where
  orderly := consistent.orderly.perform .takeNotices
  lit := consistent.lit.mono (fun _ => id) fun _ member =>
    List.mem_append_right _ (List.mem_append.mpr (List.mem_append.mp member).symm)

omit consistent in
private theorem hear_eq {before after : Tree} {hooks : Hooks} {target : NodeId} {value : Bool}
    {consulted : List HookCall} (hears : Session.Hears hooks before after target value consulted)
    (supplied : hooks.feedback.isSome = true) (present : before.contains target = true)
    (shown : NodeId → Bool) (other : NodeId) (kept : ¬ after.Lost other) :
    hear shown consulted other = if other = target then value else shown other := by
  unfold hear
  rcases hears with heard | ⟨silent, reason⟩
  · rw [heard]
    exact Function.update_apply shown target value other
  · rw [silent, if_neg]
    · rfl
    · rintro rfl
      rcases reason with missing | absent | lost
      · rw [missing] at supplied
        cases supplied
      · rw [absent] at present
        cases present
      · exact kept lost

theorem handle {target : NodeId} {event : Event} {hooks : Hooks} {taken : List Notice}
    (supplied : hooks.feedback.isSome = true)
    (present : observation.session.tree.contains target = true)
    (waits : ∀ other, event ≠ .dockLeave ∨ other ≠ target →
      ⟨other, .dockLeave⟩ ∈ observation.taken → ⟨other, .dockLeave⟩ ∈ taken) :
    Consistent { observation.handle target event hooks with taken } := by
  have orderly := consistent.orderly
  refine ⟨orderly.targetEvent target event hooks, ?_⟩
  obtain ⟨turn, makes, leaves⟩ : ∃ turn,
      Session.Reaction.Makes observation.session target hooks turn
        (observation.session.targetEvent target event hooks) ∧
      (event = .dockLeave → turn.feedback? = some (target, false)) := by
    by_cases leave : event = .dockLeave
    · subst leave
      exact ⟨_, Session.makes_targetLeave orderly.wellFormed target hooks, fun _ => rfl⟩
    · obtain ⟨turn, makes⟩ := Session.makes_targetEvent orderly.wellFormed target hooks event
      exact ⟨turn, makes, fun same => absurd same leave⟩
  obtain ⟨gone, lost, flight_eq⟩ := makes.follows.flight_eq
  have later := consistent.lit.mono
    (fun _ => (observation.session.evolves_targetEvent target hooks event).lost
      orderly.wellFormed) fun _ => id
  have remains (other : NodeId) (kept : event ≠ .dockLeave ∨ other ≠ target)
      (outbox : List Notice) (member : ⟨other, .dockLeave⟩ ∈ outbox ++ observation.taken) :
      (⟨other, .dockLeave⟩ : Notice) ∈ outbox ++ taken :=
    List.mem_append.mpr ((List.mem_append.mp member).imp_right (waits other kept))
  rcases makes.hears with ⟨quiet, silent⟩ | ⟨value, told, hears⟩
  · have made := (later.make_of_isQuiet orderly.single quiet makes.follows.admitted).forget lost
    rw [← flight_eq] at made
    have unchanged : (observation.handle target event hooks).shown = observation.shown := by
      unfold Observation.handle hear
      dsimp only
      rw [silent]
      rfl
    have notLeave : event ≠ .dockLeave := fun leave => by
      have impossible := leaves leave
      rw [Turn.feedback?_of_isQuiet quiet] at impossible
      cases impossible
    dsimp only
    rw [unchanged]
    exact made.mono (fun _ => id) fun other => remains other (.inl notLeave) _
  · have tells := hear_eq hears supplied present observation.shown
    have made := (later.make_of_feedback? told makes.follows.admitted tells).forget lost
    rw [← flight_eq] at made
    by_cases leave : event = .dockLeave
    · have dark := leaves leave
      rw [told] at dark
      cases dark
      refine made.discard (fun kept => (tells target kept).trans (if_pos rfl)) ?_
      exact fun other apart => remains other (.inr apart) _
    · exact made.mono (fun _ => id) fun other => remains other (.inl leave) _

theorem advance {step : Step} (permitted : observation.Permits step) :
    (observation.advance step).Consistent := by
  cases step with
  | operate operation =>
      cases operation with
      | create plan => exact consistent.create plan
      | targetEvent target event hooks =>
          exact consistent.handle permitted.1 permitted.2 fun _ _ => id
      | takeNotices => exact consistent.takeNotices
      | _ => exact consistent.perform rfl
  | deliver notice hooks =>
      obtain ⟨_, supplied, present⟩ := permitted
      refine consistent.handle supplied present fun other kept member => ?_
      refine (List.mem_erase_of_ne ?_).mpr member
      rintro rfl
      exact kept.elim (fun notLeave => notLeave rfl) fun apart => apart rfl

end Consistent

theorem consistent_of_reachable {desktop : Desktop} {settings : Settings}
    {observation : Observation} (reachable : Reachable desktop settings observation) :
    observation.Consistent := by
  induction reachable with
  | start =>
      refine ⟨.start desktop settings, ?_, ?_⟩
      · exact fun _ _ aiming => nomatch aiming
      · exact fun _ _ bright => nomatch bright
  | step _ permitted consistent => exact consistent.advance permitted

/-- No target that exists is stuck in showing that it would take a dockable. -/
theorem shown_iff_of_reachable {desktop : Desktop} {settings : Settings}
    {observation : Observation} (reachable : Reachable desktop settings observation)
    {target : NodeId} (present : observation.session.tree.contains target = true) :
    (observation.activeTarget? = some target → observation.shown target = true) ∧
      (observation.shown target = true →
        observation.activeTarget? = some target ∨
          ⟨target, .dockLeave⟩ ∈ observation.undelivered) ∧
      (observation.undelivered = [] →
        (observation.shown target = true ↔ observation.activeTarget? = some target)) := by
  have lit := (consistent_of_reachable reachable).lit
  rw [observation.aimed?_flight] at lit
  have kept : ¬ observation.session.tree.Lost target := fun lost =>
    Bool.false_ne_true (lost.2.symm.trans present)
  have bright := lit.shown_of_aimed target kept
  have told := lit.aimed_or_told target kept
  refine ⟨bright, told, fun nothing => ⟨fun shown => ?_, bright⟩⟩
  rcases told shown with aiming | waiting
  · exact aiming
  · rw [nothing] at waiting
    cases waiting

/-- A dockable over a panel, where no window can be opened. -/
def overPanel : Observation :=
  [.operate (.command (.setFaults (.onCreate "none left"))),
    .operate (.edit (.add (.newPanel "stage") .zero)),
    .operate (.create (.new "tool")),
    .operate (.tearOut ⟨1⟩ .zero),
    .operate (.targetEvent ⟨0⟩ (.pointerMove .zero) .welcoming)].foldl advance
      (start (.withCapabilities .none) .standard)

theorem shown_overPanel :
    Reachable (.withCapabilities .none) .standard overPanel ∧
      overPanel.session.tree.contains ⟨0⟩ = true ∧ overPanel.shown ⟨0⟩ = true := by
  have reachable : Reachable (.withCapabilities .none) .standard overPanel := by
    unfold overPanel
    simp only [List.foldl_cons, List.foldl_nil]
    refine .step (.step (.step (.step (.step .start ?_) ?_) ?_) ?_) ?_
    · trivial
    · trivial
    · trivial
    · trivial
    · exact ⟨rfl, rfl⟩
  exact ⟨reachable, rfl, (shown_iff_of_reachable reachable rfl).1 rfl⟩

end Observation
end Docking

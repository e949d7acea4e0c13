import Docking.Proofs.Session.Press
import Docking.Proofs.Window.Gear

namespace Docking

/-! Events that docking leaves to others. An ignored event has changed nothing, but for a press
that ended beside a handle; and a docked dockable never keeps an event from its container. -/

theorem Press.fst_track_of_ignored {press : Option Press} {inFlight : Bool} {event : Event}
    (ignored : (Press.track press inFlight event).2 = .ignored) :
    (Press.track press inFlight event).1 = press := by
  unfold Press.track at ignored ⊢
  split at ignored
  · cases ignored
  · split at ignored
    · cases ignored
    · rfl
  · cases press with
    | none => rfl
    | some press => cases ignored
  · rfl

namespace Session

variable {session : Session} {node : NodeId} {dockable : Dockable} {event : Event}

theorem not_strikes_of_missesHandle {root : Point}
    (misses : session.missesHandle dockable root = true) : ¬ session.Strikes dockable root := by
  intro strikes
  unfold missesHandle at misses
  split at misses
  · next handle handled =>
      obtain ⟨rect, shown, inside⟩ := strikes handle handled
      simp [Scene.hits, shown, inside] at misses
  · cases misses

theorem tracked_of_ignored (found : session.dockable? node = some dockable)
    (ignored : (Press.track dockable.press dockable.isInFlight event).2 = .ignored) :
    session.tracked node dockable event = session := by
  have unmoved : (dockable.carrier.handle session.toScene dockable.press dockable.isInFlight
      event).1 = session.toScene := by
    unfold Carrier.handle
    split
    · next same =>
        rw [same] at ignored
        cases ignored
    · rfl
  unfold tracked
  rw [unmoved, Press.fst_track_of_ignored ignored]
  refine update_of_fixed fun current known => ?_
  cases found.symm.trans known
  rfl

theorem interruption?_of_ignored {outcome : Session × Status}
    (interrupted : session.interruption? node dockable event = some outcome)
    (ignored : outcome.2 = .ignored) :
    ∃ root, event = .pointerDown .primary root ∧ ¬ session.Strikes dockable root ∧
      outcome.1 = session.letGo node := by
  unfold interruption? at interrupted
  split at interrupted
  · split at interrupted <;> cases interrupted
    cases ignored
  · split at interrupted <;> cases interrupted
    cases ignored
  · next root =>
      split at interrupted
      · next misses =>
          cases interrupted
          exact ⟨root, rfl, not_strikes_of_missesHandle misses, rfl⟩
      · cases interrupted
  · split at interrupted <;> cases interrupted
    cases ignored
  · split at interrupted <;> cases interrupted
    cases ignored
  · cases interrupted

theorem respond_of_ignored {phase : Phase} {gesture : Gesture}
    (ignored : (session.respond node phase gesture).2 = .ignored) : gesture = .ignored := by
  cases gesture with
  | ignored => rfl
  | pressed root =>
      dsimp only [respond] at ignored
      split at ignored <;> cases ignored
  | motion root => cases phase <;> cases ignored
  | released root =>
      cases phase with
      | hovering =>
          dsimp only [respond] at ignored
          split at ignored <;> cases ignored
      | undocked => cases ignored
      | dragging => cases ignored
      | docked => cases ignored

theorem payloadEvent_of_ignored (ignored : (session.payloadEvent node event).2 = .ignored) :
    (session.payloadEvent node event).1 = session ∨
      ∃ dockable root, session.dockable? node = some dockable ∧
        event = .pointerDown .primary root ∧ ¬ session.Strikes dockable root ∧
        (session.payloadEvent node event).1 = session.letGo node := by
  unfold payloadEvent at ignored ⊢
  cases found : session.dockable? node with
  | none => exact .inl rfl
  | some dockable =>
      rw [found] at ignored
      dsimp only at ignored ⊢
      cases interrupted : session.interruption? node dockable event with
      | some outcome =>
          rw [interrupted] at ignored
          obtain ⟨root, pressed, beside, same⟩ := interruption?_of_ignored interrupted ignored
          exact .inr ⟨dockable, root, rfl, pressed, beside, same⟩
      | none =>
          rw [interrupted, gesture_eq] at ignored
          have untold := respond_of_ignored ignored
          rw [gesture_eq, untold, tracked_of_ignored found untold]
          exact .inl rfl

theorem Orderly.targetEvent_of_ignored (orderly : session.Orderly) {target : NodeId}
    {hooks : Hooks} (ignored : (session.targetEvent target event hooks).status = .ignored) :
    (session.targetEvent target event hooks).session = session ∧
      (session.targetEvent target event hooks).consulted = [] := by
  have heard := session.heard_targetEvent target event hooks
  generalize session.targetEvent target event hooks = reaction at heard ignored ⊢
  cases heard with
  | ignored status => exact ⟨rfl, rfl⟩
  | left leaves => cases ignored
  | tornOut grounded moves =>
      revert ignored
      unfold tearOutChild
      cases session.armedChild? target with
      | none => exact fun _ => ⟨rfl, rfl⟩
      | some node =>
          dsimp only
          cases session.screenRect? node with
          | none => exact fun _ => ⟨rfl, rfl⟩
          | some rect =>
              intro ignored
              dsimp only at ignored
              split at ignored <;> cases ignored
  | @moved dragged root flying moves =>
      -- what is in flight is registered, so the target cannot miss it
      obtain ⟨dockable, found, _⟩ := orderly.dockable?_of_inFlight flying
      have moved := session.moved_targetMotion dragged target hooks root
      generalize session.targetMotion target dragged root hooks = reaction at moved ignored ⊢
      cases moved with
      | unknown missing => exact nomatch missing.symm.trans found
      | refused _ outside elsewhere => cases ignored
      | left _ outside aims => cases ignored
      | kept _ inside keeps =>
          dsimp only at ignored
          split at ignored <;> cases ignored
      | taken _ inside takes => cases ignored
  | released flying still aiming =>
      unfold dock at ignored
      dsimp only at ignored
      split at ignored
      · split at ignored <;> cases ignored
      · cases ignored

/-- An event that is ignored has changed nothing and consulted no hook. On a dockable it may have
been a press beside the handle, which ends the press that was tracked. -/
structure LeavesIgnored (session : Session) : Prop where
  target : ∀ target event hooks, (session.targetEvent target event hooks).status = .ignored →
    (session.targetEvent target event hooks).session = session ∧
      (session.targetEvent target event hooks).consulted = []
  payload : ∀ node event, (session.payloadEvent node event).2 = .ignored →
    (session.payloadEvent node event).1 = session ∨
      ∃ dockable root, session.dockable? node = some dockable ∧
        event = .pointerDown .primary root ∧ ¬ session.Strikes dockable root ∧
        (session.payloadEvent node event).1 = session.letGo node

theorem leavesIgnored_run (desktop : Desktop) (settings : Settings)
    (operations : List Operation) :
    ((start desktop settings).run operations).LeavesIgnored where
  target _ _ _ := (orderly_run desktop settings operations).targetEvent_of_ignored
  payload _ _ := payloadEvent_of_ignored

theorem interruption?_of_docked (docked : dockable.phase = .docked)
    (windowless : dockable.window = none) {outcome : Session × Status}
    (interrupted : session.interruption? node dockable event = some outcome) :
    session.misses dockable event = true ∧
      outcome = (session.letGo node, .understoodOnly) := by
  have resting : dockable.isInFlight = false := congrArg Phase.isInFlight docked
  unfold interruption? at interrupted
  simp only [resting, windowless, docked, Bool.false_and, reduceCtorEq, Bool.false_eq_true,
    if_false, if_true] at interrupted
  split at interrupted
  · cases interrupted
  · cases interrupted
  · split at interrupted
    · next misses =>
        cases interrupted
        exact ⟨misses, rfl⟩
    · cases interrupted
  · cases interrupted
  · cases interrupted
  · cases interrupted

theorem respond_of_docked (session : Session) (node : NodeId) (gesture : Gesture) :
    (session.respond node .docked gesture).1 = session ∧
      (session.respond node .docked gesture).2.handled = false := by
  cases gesture <;> exact ⟨rfl, rfl⟩

/-- An event on a dockable changes nothing but what is tracked of a press on it, and goes on to
its container. -/
structure PassesBy (session : Session) (node : NodeId) (dockable : Dockable) (event : Event) :
    Prop where
  session_eq : (session.payloadEvent node event).1 = session.update node fun current =>
    { current with press := session.pressAfter node dockable (.payloadEvent node event) }
  unhandled : (session.payloadEvent node event).2.handled = false

theorem passesBy_of_windowless (found : session.dockable? node = some dockable)
    (docked : dockable.phase = .docked) (windowless : dockable.window = none) (event : Event) :
    session.PassesBy node dockable event := by
  have resting : dockable.isInFlight = false := congrArg Phase.isInFlight docked
  cases interrupted : session.interruption? node dockable event with
  | some outcome =>
      have fed : session.payloadEvent node event = outcome := by
        simp only [payloadEvent, found, interrupted]
      obtain ⟨misses, same⟩ := interruption?_of_docked docked windowless interrupted
      constructor
      · rw [fed, same, pressAfter, if_pos rfl, if_pos misses]
        rfl
      · rw [fed, same]
        rfl
  | none =>
      have fed : session.payloadEvent node event =
          (session.tracked node dockable event).respond node .docked
            (Press.track dockable.press dockable.isInFlight event).2 := by
        simp only [payloadEvent, found, interrupted, gesture_eq, docked]
      obtain ⟨same, unhandled⟩ := respond_of_docked (session.tracked node dockable event) node
        (Press.track dockable.press dockable.isInFlight event).2
      constructor
      · rw [fed, same, pressAfter_of_hits (hits_of_uninterrupted interrupted), tracked, resting,
          Carrier.fst_handle_of_resting]
      · rw [fed]
        exact unhandled

/-- A docked dockable owns no window, so whatever happens to a window, to the pointer or to a
system drag, its container hears of it and nothing has changed before. -/
theorem passesBy_of_docked (reachable : session.Reachable)
    (found : session.dockable? node = some dockable) (docked : dockable.phase = .docked)
    (event : Event) : session.PassesBy node dockable event :=
  passesBy_of_windowless found docked
    ((geared_of_reachable reachable node dockable found).docked docked) event

def dockedOnStage : Session :=
  (start (.withCapabilities { Capabilities.none with reposition := true }) .standard).run
    [.edit (.add (.newPanel "stage") .zero),
      .create (.new "tool"),
      .tearOut ⟨1⟩ .zero,
      .targetEvent ⟨0⟩ (.pointerMove .zero) .welcoming,
      .targetEvent ⟨0⟩ (.pointerUp .primary .zero) .welcoming]

/-- It may still be told that the window that carried it is to be closed. -/
theorem passesBy_dockedOnStage :
    ∃ dockable, dockedOnStage.dockable? ⟨1⟩ = some dockable ∧ dockable.phase = .docked ∧
      dockedOnStage.PassesBy ⟨1⟩ dockable (.closeRequested ⟨2⟩) :=
  have reachable : dockedOnStage.Reachable := ⟨_, _, _, rfl⟩
  ⟨_, rfl, rfl, passesBy_of_docked reachable rfl rfl (.closeRequested ⟨2⟩)⟩

end Session
end Docking

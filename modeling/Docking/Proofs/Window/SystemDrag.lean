import Docking.Proofs.Window.Gear

namespace Docking

/-! Targets act on the notifications of the compositor as long as the compositor carries the
dockable in flight, and at no other time. -/

theorem Carrier.remap?_of_idle {carrier : Carrier} (idle : carrier.Idle) (settings : Settings)
    (event : Event) : carrier.remap? settings event = none := by
  unfold remap?
  split
  · next means => exact absurd (congrArg (sessionActive? ⟨·, carrier.window⟩) means) idle
  · rfl

namespace Session

variable {session : Session}

def CompositorDrags (session : Session) : Prop :=
  ∃ node dockable, session.inFlight = some node ∧ session.dockable? node = some dockable ∧
    dockable.carrier.kind = .compositor

theorem targetEvent_congr {first second : Event} (same : session.remap first = session.remap second)
    (target : NodeId) (hooks : Hooks) :
    session.targetEvent target first hooks = session.targetEvent target second hooks := by
  unfold targetEvent
  rw [same]

theorem targetEvent_of_unmapped {event : Event} (system : event.isSystemDrag = true)
    (unmapped : session.remap event = event) (target : NodeId) (hooks : Hooks) :
    session.targetEvent target event hooks = ⟨session, .ignored, []⟩ := by
  unfold targetEvent
  rw [unmapped]
  cases event with
  | dndEnter root mimeTypes => cases session.inFlight <;> rfl
  | dndMotion root => cases session.inFlight <;> rfl
  | dndLeave => cases session.inFlight <;> rfl
  | dndDrop root => cases session.inFlight <;> rfl
  | dndFinished accepted => cases session.inFlight <;> rfl
  | _ => cases system

variable (orderly : session.Orderly) (geared : session.Geared)
include orderly geared

theorem means_of_compositorDrags (drags : session.CompositorDrags) :
    ∃ node dockable, session.inFlight = some node ∧ session.dockable? node = some dockable ∧
      dockable.carrier.means = .compositor true := by
  obtain ⟨node, dockable, flying, found, kind⟩ := drags
  refine ⟨node, dockable, flying, found, ?_⟩
  obtain ⟨flyer, foundFlyer, inFlight⟩ := orderly.dockable?_of_inFlight flying
  cases found.symm.trans foundFlyer
  have airborne := (geared node dockable found).airborne inFlight
  unfold Carrier.kind at kind
  cases means : dockable.carrier.means with
  | compositor active =>
      cases active with
      | true => rfl
      | false => exact absurd (by rw [Carrier.sessionActive?, means]) airborne.session
  | generic grab =>
      rw [means] at kind
      cases kind
  | imageCursor grab shown =>
      rw [means] at kind
      cases kind

theorem remap_of_compositorDrags (drags : session.CompositorDrags) {event : Event}
    (system : event.isSystemDrag = true) :
    session.remap event =
      (Carrier.remap? ⟨.compositor true, none⟩ session.settings event).getD event := by
  obtain ⟨node, dockable, flying, found, means⟩ := means_of_compositorDrags orderly geared drags
  unfold remap
  rw [if_pos system, flying, Option.bind_some, found, Option.bind_some]
  unfold Carrier.remap?
  rw [means]

omit orderly geared in
/-- Without a compositor session of its own docking leaves notifications as they are. -/
theorem remap_of_not_compositorDrags (apart : ¬ session.CompositorDrags) (event : Event) :
    session.remap event = event := by
  unfold remap
  split
  · cases flying : session.inFlight with
    | none => rfl
    | some node =>
        rw [Option.bind_some]
        cases found : session.dockable? node with
        | none => rfl
        | some dockable =>
            rw [Option.bind_some, Carrier.remap?_of_idle]
            · rfl
            · intro runs
              refine apart ⟨node, dockable, flying, found, ?_⟩
              unfold Carrier.sessionActive? at runs
              unfold Carrier.kind
              split at runs
              · next means => rw [means]
              · cases runs
  · rfl

theorem targetEvent_of_compositorDrags (drags : session.CompositorDrags) {event meant : Event}
    (maps : Carrier.remap? ⟨.compositor true, none⟩ session.settings event = some meant)
    (system : event.isSystemDrag = true) (plain : meant.isSystemDrag = false) (target : NodeId)
    (hooks : Hooks) :
    session.targetEvent target event hooks = session.targetEvent target meant hooks := by
  apply targetEvent_congr
  have remapped := remap_of_compositorDrags orderly geared drags system
  rw [remapped, maps, Option.getD_some]
  simp only [remap, plain, Bool.false_eq_true, if_false]

theorem targetEvent_of_meaningless {event : Event}
    (meaningless : Carrier.remap? ⟨.compositor true, none⟩ session.settings event = none)
    (system : event.isSystemDrag = true) (target : NodeId) (hooks : Hooks) :
    session.targetEvent target event hooks = ⟨session, .ignored, []⟩ := by
  refine targetEvent_of_unmapped system ?_ target hooks
  by_cases drags : session.CompositorDrags
  · rw [remap_of_compositorDrags orderly geared drags system, meaningless, Option.getD_none]
  · exact remap_of_not_compositorDrags drags event

omit orderly geared

/-- What a target makes of the notifications of the compositor. -/
structure TakesNotifications (session : Session) (target : NodeId) (hooks : Hooks) : Prop where
  motion : session.CompositorDrags → ∀ root,
    session.targetEvent target (.dndMotion root) hooks =
      session.targetEvent target (.dockDrag root) hooks
  leave : session.CompositorDrags →
    session.targetEvent target .dndLeave hooks = session.targetEvent target .dockLeave hooks
  drop : session.CompositorDrags → ∀ root,
    session.targetEvent target (.dndDrop root) hooks =
      session.targetEvent target (.dockRelease root) hooks
  enter : session.CompositorDrags → ∀ root mimeTypes, session.settings.markerMime ∈ mimeTypes →
    session.targetEvent target (.dndEnter root mimeTypes) hooks =
      session.targetEvent target (.dockEnter root) hooks
  unmarked : ∀ root mimeTypes, session.settings.markerMime ∉ mimeTypes →
    session.targetEvent target (.dndEnter root mimeTypes) hooks = ⟨session, .ignored, []⟩
  finished : ∀ accepted,
    session.targetEvent target (.dndFinished accepted) hooks = ⟨session, .ignored, []⟩
  apart : ¬ session.CompositorDrags → ∀ event : Event, event.isSystemDrag = true →
    session.targetEvent target event hooks = ⟨session, .ignored, []⟩

/-- While the compositor carries the dockable in flight, its notifications are the docking
events that they stand for, provided that they tell of a dockable. Otherwise they are ignored. -/
theorem takesNotifications_of_reachable (reachable : session.Reachable) (target : NodeId)
    (hooks : Hooks) : session.TakesNotifications target hooks := by
  obtain ⟨desktop, settings, operations, rfl⟩ := reachable
  have orderly := orderly_run desktop settings operations
  have geared := geared_run desktop settings operations
  generalize (start desktop settings).run operations = session at orderly geared
  constructor
  · intro drags root
    exact targetEvent_of_compositorDrags orderly geared drags rfl rfl rfl target hooks
  · intro drags
    exact targetEvent_of_compositorDrags orderly geared drags rfl rfl rfl target hooks
  · intro drags root
    exact targetEvent_of_compositorDrags orderly geared drags rfl rfl rfl target hooks
  · intro drags root mimeTypes marked
    refine targetEvent_of_compositorDrags orderly geared drags ?_ rfl rfl target hooks
    simp [Carrier.remap?, marked]
  · intro root mimeTypes unmarked
    refine targetEvent_of_meaningless orderly geared ?_ rfl target hooks
    simp [Carrier.remap?, unmarked]
  · intro accepted
    exact targetEvent_of_meaningless orderly geared rfl rfl target hooks
  · intro apart event system
    exact targetEvent_of_unmapped system (remap_of_not_compositorDrags apart event) target hooks

def carriedBySystem : Session :=
  (start (.withCapabilities { Capabilities.none with systemDrag := true }) .standard).run
    [.edit (.add (.newPanel "stage") .zero), .create (.new "tool"), .tearOut ⟨1⟩ .zero]

/-- The dockable hovers over the panel as soon as the compositor says so. -/
theorem takesNotifications_carriedBySystem :
    carriedBySystem.TakesNotifications ⟨0⟩ .welcoming ∧ carriedBySystem.CompositorDrags ∧
      (carriedBySystem.targetEvent ⟨0⟩ (.dndMotion .zero) .welcoming).session.HoversOver ⟨1⟩
        ⟨0⟩ := by
  have reachable : carriedBySystem.Reachable := ⟨_, _, _, rfl⟩
  have drags : carriedBySystem.CompositorDrags := ⟨⟨1⟩, _, rfl, rfl, rfl⟩
  have takes := takesNotifications_of_reachable reachable ⟨0⟩ .welcoming
  refine ⟨takes, drags, ?_⟩
  rw [takes.motion drags]
  exact ⟨rfl, _, rfl, rfl, rfl⟩

end Session
end Docking

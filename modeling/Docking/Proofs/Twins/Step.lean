import Docking.Proofs.Session.Deed
import Docking.Proofs.Twins.Landing

namespace Docking

/-! One step of the same flight in two sessions, each with a carrier of its own. -/

namespace Event

def steers : Event → Bool
  | .pointerMove _ | .pointerUp .. | .grabLost | .dndFinished _ => true
  | _ => false

def meetsTargets : Event → Bool
  | .pointerMove _ | .pointerUp .. | .dockEnter _ | .dockDrag _ | .dockLeave | .dockRelease _ => true
  | _ => false

def isNotice : Event → Bool
  | .dockLeave | .dockRelease _ | .undock _ => true
  | _ => false

end Event

namespace Session

variable {inside : NodeId → Bool} {known : WindowId → Prop} {node : NodeId}

/-- The flight goes on in both sessions, or is over in both with the same outcome. -/
inductive Proceeds (inside : NodeId → Bool) (known : WindowId → Prop) (node : NodeId)
    (first second : Session) : Prop
  | onward (twins : Twins inside known node first second)
      (flying : first.inFlight = some node)
  | finished (rested : Rested inside known node first second) (grounded : first.inFlight = none)

structure Concur (inside : NodeId → Bool) (known : WindowId → Prop) (node : NodeId)
    (first second : Reaction) : Prop where
  status_eq : second.status = first.status
  consulted_eq : second.consulted = first.consulted
  proceeds : Proceeds inside known node first.session second.session

namespace Twins

variable {first second : Session} (twins : Twins inside known node first second)
  (flying : first.inFlight = some node)
include twins flying

section Payload

variable {dockable : Dockable} (found : first.dockable? node = some dockable)
include found

theorem settle (root : Point) :
    Proceeds inside known node (first.settleUndocked node root)
      (second.settleUndocked node root) :=
  .finished (twins.settleUndocked_rested found root) (inFlight_settleUndocked flying root)

theorem release (root : Point) :
    Proceeds inside known node (first.releaseUndocked node root)
      (second.releaseUndocked node root) :=
  .finished (twins.releaseUndocked_rested found root) (inFlight_releaseUndocked flying root)

theorem respond {phase : Phase} (airborne : phase.isInFlight = true) (gesture : Gesture) :
    (second.respond node phase gesture).2 = (first.respond node phase gesture).2 ∧
      Proceeds inside known node (first.respond node phase gesture).1
        (second.respond node phase gesture).1 := by
  have onward := Proceeds.onward twins flying
  cases gesture with
  | ignored => exact ⟨rfl, onward⟩
  | pressed root => exact ⟨rfl, onward⟩
  | motion root =>
      cases phase with
      | dragging => exact ⟨rfl, onward⟩
      | hovering => exact ⟨rfl, onward⟩
      | undocked => cases airborne
      | docked => cases airborne
  | released root =>
      cases phase with
      | dragging => exact ⟨rfl, twins.release flying found root⟩
      | hovering =>
          unfold Session.respond
          dsimp only
          rw [twins.alike.activeTarget_eq node]
          cases (first.dockable? node).bind Dockable.activeTarget with
          | none => exact ⟨rfl, twins.release flying found root⟩
          | some target => exact ⟨rfl, .onward (twins.notify target (.dockRelease root)) flying⟩
      | undocked => cases airborne
      | docked => cases airborne

omit flying in
theorem handle {carrier : Carrier}
    (found' : second.dockable? node = some { dockable with carrier }) (press : Option Press)
    (inFlight : Bool) (event : Event) :
    Twins inside known node
      { first with
        toScene := (dockable.carrier.handle first.toScene press inFlight event).1 }
      { second with
        toScene := (carrier.handle second.toScene press inFlight event).1 } := by
  have handled := (twins.held.acts_refl found).handle press inFlight event
  have handled' := (twins.held'.acts_refl found').handle press inFlight event
  have alike := twins.alike
  exact ⟨⟨(handled.alike.symm.trans alike.scene).trans handled'.alike, alike.settings_eq,
    alike.dockables_eq, alike.inFlight_eq, alike.outbox_eq⟩,
    twins.held.rescene found handled, twins.held'.rescene found' handled'⟩

theorem gesture (airborne : dockable.isInFlight = true) {carrier : Carrier}
    (found' : second.dockable? node = some { dockable with carrier }) (event : Event) :
    (second.gesture node { dockable with carrier } event).2 =
        (first.gesture node dockable event).2 ∧
      Proceeds inside known node (first.gesture node dockable event).1
        (second.gesture node { dockable with carrier } event).1 := by
  have handled := twins.handle found found' dockable.press dockable.isInFlight event
  have tracked := dockable.carrier.snd_handle first.toScene dockable.press dockable.isInFlight
    event
  have tracked' := carrier.snd_handle second.toScene dockable.press dockable.isInFlight event
  unfold Session.gesture
  rw [show Dockable.isInFlight { dockable with carrier } = dockable.isInFlight from rfl]
  generalize dockable.carrier.handle first.toScene dockable.press dockable.isInFlight event
    = outcome at handled tracked ⊢
  generalize carrier.handle second.toScene dockable.press dockable.isInFlight event
    = outcome' at handled tracked' ⊢
  obtain ⟨scene, press, gesture⟩ := outcome
  obtain ⟨scene', press', gesture'⟩ := outcome'
  cases tracked.trans tracked'.symm
  have pressed := handled.update (fun other => { other with press }) (fun _ => rfl) (fun _ => rfl)
    fun _ _ aimed => .inl aimed
  have known : ({ first with toScene := scene }.update node fun other =>
      { other with press }).dockable? node = some { dockable with press } := by
    rw [dockable?_update, if_pos rfl]
    exact congrArg (Option.map _) found
  exact pressed.respond flying known airborne gesture

end Payload

theorem payloadEvent (orderly : first.Orderly) {event : Event} (steers : event.steers = true) :
    (second.payloadEvent node event).2 = (first.payloadEvent node event).2 ∧
      Proceeds inside known node (first.payloadEvent node event).1
        (second.payloadEvent node event).1 := by
  obtain ⟨dockable, found, airborne⟩ := orderly.dockable?_of_inFlight flying
  obtain ⟨carrier, found'⟩ := twins.alike.dockable?_of_some found
  have airborne' : Dockable.isInFlight { dockable with carrier } = true := airborne
  have pointer_eq : second.desktop.pointer.root = first.desktop.pointer.root :=
    congrArg PointerState.root twins.alike.scene.desktop.pointer_eq
  unfold Session.payloadEvent
  rw [found, found']
  cases event with
  | pointerMove root => exact twins.gesture flying found airborne found' (.pointerMove root)
  | pointerUp button root => exact twins.gesture flying found airborne found' (.pointerUp button root)
  | grabLost =>
      simp only [interruption?, airborne, airborne', if_true, pointer_eq]
      exact ⟨trivial, twins.settle flying found _⟩
  | dndFinished accepted =>
      simp only [interruption?, airborne, airborne', if_true, pointer_eq]
      exact ⟨trivial, twins.release flying found _⟩
  | _ => cases steers

theorem forceUndocked (orderly : first.Orderly) :
    (second.forceUndocked node).2 = (first.forceUndocked node).2 ∧
      Proceeds inside known node (first.forceUndocked node).1 (second.forceUndocked node).1 := by
  obtain ⟨dockable, found, airborne⟩ := orderly.dockable?_of_inFlight flying
  obtain ⟨carrier, found'⟩ := twins.alike.dockable?_of_some found
  have pointer_eq : second.desktop.pointer.root = first.desktop.pointer.root :=
    congrArg PointerState.root twins.alike.scene.desktop.pointer_eq
  have settled := twins.settle flying found first.desktop.pointer.root
  unfold Session.forceUndocked
  rw [found, found']
  dsimp only
  rw [pointer_eq]
  cases phase : dockable.phase with
  | dragging => exact ⟨rfl, settled⟩
  | hovering => exact ⟨rfl, settled⟩
  | undocked =>
      rw [Dockable.isInFlight, phase] at airborne
      cases airborne
  | docked =>
      rw [Dockable.isInFlight, phase] at airborne
      cases airborne

variable {target : NodeId} (filter : Option (NodeId → NodeId → Bool))

omit flying in
theorem isCandidate_eq (outside : inside target = false) (root : Point) :
    second.isCandidate target node root (.filtering filter) =
      first.isCandidate target node root (.filtering filter) := by
  have refuses_eq : second.refusesItself target node = first.refusesItself target node := by
    have alike := twins.alike
    unfold refusesItself
    rw [alike.scene.read (·.isAncestor node target) fun tree =>
      tree.isAncestor_veil inside node target,
      alike.bind_dockable? node fun _ _ => rfl]
  have hit_eq : (Hooks.filtering filter).runHitTest second.toScene target root =
      (Hooks.filtering filter).runHitTest first.toScene target root := by
    have same := twins.alike.scene.hits_eq twins.held.secludes outside root
    exact congrArg (fun hit => (hit, [HookCall.hitTest target root hit])) same
  unfold isCandidate
  rw [refuses_eq, Hooks.runAccept_filtering filter first.tree second.tree, hit_eq]

omit flying in
theorem dropCandidate :
    Twins inside known node (first.dropCandidate node) (second.dropCandidate node) :=
  (twins.update (fun dockable => { dockable with activeTarget := none }) (fun _ => rfl)
    (fun _ => rfl) fun _ _ aimed => nomatch aimed).enterPhase .dragging

omit flying in
theorem takeOver (outside : inside target = false) (previous : Option NodeId) :
    Twins inside known node (first.takeOver target node previous)
      (second.takeOver target node previous) := by
  have aimed {left right : Session} (told : Twins inside known node left right) :
      Twins inside known node
        ((left.update node fun dockable =>
          { dockable with activeTarget := some target }).enterPhase node .hovering)
        ((right.update node fun dockable =>
          { dockable with activeTarget := some target }).enterPhase node .hovering) := by
    refine (told.update (fun dockable => { dockable with activeTarget := some target })
      (fun _ => rfl) (fun _ => rfl) fun _ other aimed => .inr ?_).enterPhase .hovering
    cases aimed
    exact outside
  cases previous with
  | none => exact aimed twins
  | some previous => exact aimed (twins.notify previous .dockLeave)

theorem targetMotion (outside : inside target = false) (root : Point) :
    Concur inside known node (first.targetMotion target node root (.filtering filter))
      (second.targetMotion target node root (.filtering filter)) := by
  have candidate_eq := twins.isCandidate_eq filter outside root
  have above_eq (current : NodeId) : second.tree.isAncestor target current =
      first.tree.isAncestor target current :=
    twins.alike.scene.read (·.isAncestor target current) fun tree =>
      tree.isAncestor_veil inside target current
  have onward := Proceeds.onward twins flying
  have flying_takeOver (previous : Option NodeId) :
      (first.takeOver target node previous).inFlight = some node := by
    cases previous <;> exact (inFlight_enterPhase _ node .hovering).trans flying
  unfold Session.targetMotion
  rw [candidate_eq]
  generalize first.isCandidate target node root (.filtering filter) = candidate
  dsimp only
  cases found : first.dockable? node with
  | none =>
      rw [twins.alike.dockable?_of_none found]
      exact ⟨rfl, rfl, onward⟩
  | some dockable =>
      obtain ⟨carrier, found'⟩ := twins.alike.dockable?_of_some found
      rw [found']
      dsimp only
      split
      · split
        · exact ⟨rfl, rfl, .onward twins.dropCandidate
            ((inFlight_enterPhase _ node .dragging).trans flying)⟩
        · exact ⟨rfl, rfl, onward⟩
      · cases dockable.activeTarget with
        | none => exact ⟨rfl, rfl, .onward (twins.takeOver outside none) (flying_takeOver none)⟩
        | some current =>
            dsimp only
            rw [above_eq current]
            split
            · exact ⟨rfl, rfl, onward⟩
            · split
              · exact ⟨rfl, rfl, onward⟩
              · exact ⟨rfl, rfl, .onward (twins.takeOver outside (some current))
                  (flying_takeOver (some current))⟩

theorem targetLeave :
    Concur inside known node (first.targetLeave target (.filtering filter))
      (second.targetLeave target (.filtering filter)) := by
  have same (session : Session) :
      session.giveFeedback (.filtering filter) target false = (session, []) := rfl
  unfold Session.targetLeave
  rw [same, same, twins.alike.inFlight_eq, flying]
  dsimp only
  rw [twins.alike.activeTarget_eq node]
  split
  · exact ⟨rfl, rfl, .onward twins.dropCandidate
      ((inFlight_enterPhase _ node .dragging).trans flying)⟩
  · exact ⟨rfl, rfl, .onward twins flying⟩

theorem targetRelease (orderly : first.Orderly) (root : Point) :
    Concur inside known node (first.targetRelease target node root (.filtering filter))
      (second.targetRelease target node root (.filtering filter)) := by
  unfold Session.targetRelease
  rw [twins.alike.activeTarget_eq node]
  split
  · next aiming =>
      obtain ⟨dockable, found, aimed⟩ := Option.bind_eq_some_iff.mp aiming
      have outside := twins.held.aims dockable target found aimed
      obtain ⟨status_eq, consulted_eq, rested⟩ := twins.dock found filter root outside
      have aims := (first.activeTarget?_flight node).trans aiming
      exact ⟨status_eq, consulted_eq, .finished rested
        (inFlight_dock orderly.wellFormed flying aims root)⟩
  · exact ⟨rfl, rfl, .onward twins flying⟩

theorem targetEvent (orderly : first.Orderly) {event : Event}
    (reaches : event.isNotice = true ∨ event.meetsTargets = true ∧ inside target = false) :
    Concur inside known node (first.targetEvent target event (.filtering filter))
      (second.targetEvent target event (.filtering filter)) := by
  have onward := Proceeds.onward twins flying
  have flying' := twins.alike.inFlight_eq.trans flying
  have plain (session : Session) (meant : event.isSystemDrag = false) :
      session.remap event = event := by
    rw [remap, if_neg (ne_true_of_eq_false meant)]
  unfold Session.targetEvent
  cases event with
  | undock dockable => exact ⟨rfl, rfl, onward⟩
  | dockLeave => exact twins.targetLeave flying filter
  | dockRelease root =>
      rw [plain first rfl, plain second rfl, flying, flying']
      exact twins.targetRelease flying filter orderly root
  | pointerUp button root =>
      rw [plain first rfl, plain second rfl, flying, flying']
      cases button with
      | primary => exact twins.targetRelease flying filter orderly root
      | secondary => exact ⟨rfl, rfl, onward⟩
      | middle => exact ⟨rfl, rfl, onward⟩
  | pointerMove root =>
      rw [plain first rfl, plain second rfl, flying, flying']
      exact twins.targetMotion flying filter (reaches.resolve_left Bool.false_ne_true).2 root
  | dockEnter root =>
      rw [plain first rfl, plain second rfl, flying, flying']
      exact twins.targetMotion flying filter (reaches.resolve_left Bool.false_ne_true).2 root
  | dockDrag root =>
      rw [plain first rfl, plain second rfl, flying, flying']
      exact twins.targetMotion flying filter (reaches.resolve_left Bool.false_ne_true).2 root
  | _ => rcases reaches with news | ⟨meets, _⟩ <;> contradiction

end Twins
end Session
end Docking

import Docking.Proofs.Flight.Target
import Docking.Proofs.Session.Deed
import Docking.Proofs.Session.Garb

namespace Docking

/-! Every dockable shows the phase it is in, unless the application or a hook of its own paints
the widget that shows it. -/

open Docking.Tree (KeepsLooks)

/-- The hooks set no label and no background of the nodes in question. -/
structure Hooks.SparesAt (hooks : Hooks) (target : NodeId) (styled : NodeId → Prop) : Prop where
  feedback : ∀ feedback, hooks.feedback = some feedback →
    ∀ tree shown, ∀ change ∈ feedback tree target shown, change.Spares styled
  insert : ∀ insert, hooks.insert = some insert →
    ∀ tree node, ∀ change ∈ insert tree target node, change.Spares styled
  remove : ∀ remove, hooks.remove = some remove →
    ∀ tree node, ∀ change ∈ remove tree target node, change.Spares styled

namespace Hooks.SparesAt

variable {hooks : Hooks} {target : NodeId} {styled : NodeId → Prop}
  (spares : hooks.SparesAt target styled) (tree : Tree)
include spares

theorem keepsLooks_runFeedback (shown : Bool) :
    KeepsLooks styled tree (hooks.runFeedback tree target shown).1 := by
  unfold runFeedback
  split
  · next feedback given =>
      split
      · exact .edit tree (spares.feedback feedback given tree shown)
      · exact .refl tree
  · exact .refl tree

theorem keepsLooks_runInsert (node : NodeId) :
    KeepsLooks styled tree (hooks.runInsert tree target node).1 := by
  unfold runInsert
  cases given : hooks.insert with
  | none => exact .edit tree fun _ listed => Tree.spares_of_mem_insertAtTarget listed
  | some insert => exact .edit tree (spares.insert insert given tree node)

theorem keepsLooks_runRemove (node : NodeId) :
    KeepsLooks styled tree (hooks.runRemove tree target node).1 := by
  unfold runRemove
  cases given : hooks.remove with
  | none => exact .rearrange tree (.detach node) rfl
  | some remove => exact .edit tree (spares.remove remove given tree node)

end Hooks.SparesAt

def Hooks.lighting : Hooks :=
  { readyMade with
    feedback := some fun _ target shown =>
      [.setBackground target (if shown then .opaqueOf 1 1 0 else Widget.panelColour)] }

theorem Hooks.sparesAt_lighting {target : NodeId} {styled : NodeId → Prop}
    (apart : ¬ styled target) : lighting.SparesAt target styled where
  feedback feedback given tree shown change listed := by
    cases given
    cases List.mem_singleton.mp listed
    rintro node ⟨⟩
    exact apart
  insert insert given tree node change listed := by
    cases given
    exact Tree.spares_of_mem_insertAtTarget listed
  remove remove given tree node change listed := by
    cases given
    exact Tree.spares_of_mem_removeLeavingBox listed

namespace Session

variable {session : Session} {styled : NodeId → Prop} {node : NodeId}

namespace Dressed

variable (dressed : session.Dressed styled none)
include dressed

theorem tearOut (node : NodeId) (root : Point) :
    (session.tearOut node root).1.Dressed styled none := by
  rcases session.staysPut_or_begins node root with ⟨result, stays⟩ | ⟨dockable, asked, begins⟩
  · rw [stays.unchanged]
    exact dressed
  · rw [begins.begun]
    exact dressed.beginDrag node asked

theorem forceUndocked (node : NodeId) : (session.forceUndocked node).1.Dressed styled none := by
  unfold Session.forceUndocked
  split
  · exact dressed
  · split
    · exact dressed
    · exact dressed
    · exact dressed.settleUndocked node _
    · exact dressed.settleUndocked node _

theorem startInteractiveResize (node : NodeId) (edge : ResizeEdge) :
    (session.startInteractiveResize node edge).1.Dressed styled none := by
  refine dressed.stay ?_ ?_
  · unfold Session.startInteractiveResize
    split
    · rfl
    · split <;> rfl
  · rw [tree_startInteractiveResize]
    exact .refl _

theorem interruption? {dockable : Dockable} {event : Event} {outcome : Session × Status}
    (interrupted : session.interruption? node dockable event = some outcome) :
    outcome.1.Dressed styled none := by
  unfold Session.interruption? at interrupted
  split at interrupted
  · split at interrupted
    · cases interrupted
      exact dressed.settleUndocked node _
    · cases interrupted
  · split at interrupted
    · cases interrupted
      exact dressed.settleUndocked node _
    · cases interrupted
  · split at interrupted
    · cases interrupted
      exact dressed.update node _ fun _ => rfl
    · cases interrupted
  · split at interrupted
    · cases interrupted
      dsimp only
      split
      · exact dressed.settleUndocked node _
      · split
        · exact dressed.destroyWidget node
        · exact dressed
    · cases interrupted
  · split at interrupted
    · cases interrupted
      exact dressed.releaseUndocked node _
    · cases interrupted
  · cases interrupted

theorem respond (node : NodeId) (phase : Phase) (gesture : Gesture) :
    (session.respond node phase gesture).1.Dressed styled none := by
  cases gesture with
  | ignored => exact dressed
  | pressed root => exact dressed
  | motion root =>
      cases phase with
      | undocked =>
          dsimp only [Session.respond]
          split
          · split
            · exact dressed.tearOut node root
            · exact dressed
          · exact dressed
      | dragging => exact dressed
      | hovering => exact dressed
      | docked => exact dressed
  | released root =>
      cases phase with
      | undocked => exact dressed
      | dragging => exact dressed.releaseUndocked node root
      | hovering =>
          dsimp only [Session.respond]
          split
          · exact dressed.stay rfl (.refl _)
          · exact dressed.releaseUndocked node root
      | docked => exact dressed

theorem payloadEvent (node : NodeId) (event : Event) :
    (session.payloadEvent node event).1.Dressed styled none := by
  unfold Session.payloadEvent
  split
  · exact dressed
  · next dockable found =>
      split
      · next interrupted => exact dressed.interruption? interrupted
      · have tracked : (session.tracked node dockable event).Dressed styled none := by
          have handled := dockable.carrier.tree_handle session.toScene dockable.press
            dockable.isInFlight event
          unfold Session.tracked
          generalize dockable.carrier.handle session.toScene dockable.press dockable.isInFlight
            event = outcome at handled ⊢
          have followed : ({ session with toScene := outcome.1 } : Session).Dressed styled none :=
            dressed.stay rfl (handled ▸ .refl _)
          exact followed.update node _ fun _ => rfl
        rw [gesture_eq]
        exact tracked.respond node dockable.phase _

variable {hooks : Hooks} {target : NodeId} (spares : hooks.SparesAt target styled)

theorem dropCandidate (node : NodeId) : (session.dropCandidate node).Dressed styled none := by
  have cleared := dressed.update node (fun dockable =>
    { dockable with activeTarget := none }) fun _ => rfl
  exact cleared.enterPhase node .dragging

theorem takeOver (target node : NodeId) (previous : Option NodeId) :
    (session.takeOver target node previous).Dressed styled none := by
  have taken (told : Session) (dressed : told.Dressed styled none) :
      ((told.update node fun dockable => { dockable with activeTarget := some target }).enterPhase
        node .hovering).Dressed styled none :=
    (dressed.update node (fun dockable => { dockable with activeTarget := some target })
      fun _ => rfl).enterPhase node .hovering
  cases previous with
  | none => exact taken session dressed
  | some previous => exact taken _ (dressed.stay rfl (.refl _))

theorem land (node : NodeId) : (session.land node).Dressed styled none := by
  have cleared := (dressed.afterRelease node).update node (fun dockable =>
    { dockable with activeTarget := none, originTarget := none, press := none }) fun _ => rfl
  have docked := cleared.enterPhase node .docked
  unfold Session.land
  dsimp only
  refine Dressed.syncDestroyed ?_
  exact docked.stay rfl (.refl _)

include spares

theorem giveFeedback (shown : Bool) :
    (session.giveFeedback hooks target shown).1.Dressed styled none :=
  dressed.stay rfl (spares.keepsLooks_runFeedback session.tree shown)

theorem targetLeave : (session.targetLeave target hooks).session.Dressed styled none := by
  have told := dressed.giveFeedback spares false
  unfold Session.targetLeave
  dsimp only
  split
  · exact told
  · split
    · exact told.dropCandidate _
    · exact told

theorem targetMotion (node : NodeId) (root : Point) :
    (session.targetMotion target node root hooks).session.Dressed styled none := by
  have moved := session.moved_targetMotion node target hooks root
  generalize session.targetMotion target node root hooks = reaction at moved ⊢
  cases moved with
  | unknown missing => exact dressed
  | refused found outside elsewhere => exact dressed
  | left found outside aims => exact (dressed.giveFeedback spares false).dropCandidate node
  | kept found inside keepsAim => exact dressed
  | taken found inside takes => exact (dressed.takeOver target node _).giveFeedback spares true

theorem turnAway (node : NodeId) (root : Point) :
    (session.turnAway target node root hooks).1.Dressed styled none := by
  have cleared := (dressed.giveFeedback spares false).update node (fun dockable =>
    { dockable with activeTarget := none }) fun _ => rfl
  exact cleared.releaseUndocked node root

theorem dock (node : NodeId) (root : Point) :
    (session.dock target node root hooks).session.Dressed styled none := by
  have freed := dressed.beforeDock node
  unfold Session.dock
  generalize session.withCarrier node (fun carrier scene => carrier.beforeDock scene node)
    = released at freed ⊢
  have placed : ({ released with
      tree := (hooks.runInsert released.tree target node).1 } : Session).Dressed styled none :=
    freed.stay rfl (spares.keepsLooks_runInsert released.tree node)
  dsimp only
  split
  · split
    · exact placed.turnAway spares node root
    · exact (placed.giveFeedback spares false).land node
  · exact dressed.turnAway spares node root

theorem tearOutChild (root : Point) :
    (session.tearOutChild target root hooks).session.Dressed styled none := by
  unfold Session.tearOutChild
  split
  · exact dressed
  · next node armed =>
      split
      · exact dressed
      · have freed : ({ session with
            tree := ((hooks.runRemove session.tree target node).1.detach node).1 } :
            Session).Dressed styled none :=
          dressed.stay rfl ((spares.keepsLooks_runRemove session.tree node).trans
            (.rearrange _ (.detach node) rfl))
        dsimp only
        generalize TearOut.mk root _ (some target) _ = tearOut
        have begun := freed.beginDrag node tearOut
        split
        · next same =>
            rw [same] at begun
            exact begun.stay rfl (.refl _)
        · next same =>
            rw [same] at begun
            have calmed := begun.update node (fun dockable =>
              { dockable with press := none }) fun _ => rfl
            dsimp only
            split
            · exact calmed.destroyWidget _
            · exact calmed

theorem targetEvent (event : Event) :
    (session.targetEvent target event hooks).session.Dressed styled none :=
  targetEvent_cases (motive := fun reaction => reaction.session.Dressed styled none)
    (fun _ => dressed) (dressed.targetLeave spares)
    (fun _ root => dressed.tearOutChild spares root)
    (fun dragged root _ => dressed.targetMotion spares dragged root)
    (fun dragged root _ _ => dressed.dock spares dragged root) event

end Dressed

def ShowsStyleAt (session : Session) (node : NodeId) : Prop :=
  ∃ owner dockable, session.dockable? owner = some dockable ∧ dockable.styledNode owner = node

theorem showsStyleAt_iff (session : Session) (node : NodeId) :
    session.ShowsStyleAt node ↔ ∃ owner ∈ session.dockables.keys,
      ((session.dockable? owner).map fun dockable => dockable.styledNode owner) = some node := by
  constructor
  · rintro ⟨owner, dockable, found, rfl⟩
    refine ⟨owner, ?_, by rw [found, Option.map_some]⟩
    by_contra unknown
    exact nomatch found.symm.trans ((session.dockables.get?_eq_none_iff owner).mpr unknown)
  · rintro ⟨owner, _, shows⟩
    obtain ⟨dockable, found, styled⟩ := Option.map_eq_some_iff.mp shows
    exact ⟨owner, dockable, found, styled⟩

instance (session : Session) (node : NodeId) : Decidable (session.ShowsStyleAt node) :=
  decidable_of_iff _ (session.showsStyleAt_iff node).symm

/-- Neither the application nor a hook of its own sets a label or a background of the nodes in
question. -/
def Operation.Spares (styled : NodeId → Prop) : Operation → Prop
  | .edit change => change.Spares styled
  | .targetEvent target _ hooks => hooks.SparesAt target styled
  | _ => True

/-- Docking alone sets the labels and backgrounds that show the styles. Operations count by their
effects: each has the effect of one that spares the widgets which show styles at that time. -/
def StyledByDocking : Session → List Operation → Prop
  | _, [] => True
  | session, operation :: rest =>
      (∃ restrained : Operation, restrained.Spares session.ShowsStyleAt ∧
        session.perform restrained = session.perform operation) ∧
        StyledByDocking (session.perform operation) rest

/-- Every dockable shows the style of its phase, as long as there is a widget to show it. -/
def ShowsPhases (session : Session) : Prop :=
  ∀ node dockable, session.dockable? node = some dockable → ∀ widget,
    session.tree.widget? (dockable.styledNode node) = some widget →
      (dockable.styles.forPhase dockable.phase).ShownBy widget

theorem styledByDocking_cons {operation : Operation} {rest : List Operation}
    (spares : operation.Spares session.ShowsStyleAt)
    (later : (session.perform operation).StyledByDocking rest) :
    session.StyledByDocking (operation :: rest) :=
  ⟨⟨operation, spares, rfl⟩, later⟩

theorem Dressed.perform (dressed : session.Dressed (fun _ => True) none) {operation : Operation}
    (spares : operation.Spares session.ShowsStyleAt) :
    (session.perform operation).Dressed (fun _ => True) none := by
  have own : session.Dressed session.ShowsStyleAt none := dressed.among fun node garb wears => by
    obtain ⟨dockable, found, rfl⟩ := Option.map_eq_some_iff.mp wears
    exact ⟨node, dockable, found, rfl⟩
  have all {after : Session} (kept : after.Dressed session.ShowsStyleAt none) :
      after.Dressed (fun _ => True) none := kept.among fun _ _ _ => trivial
  cases operation with
  | edit change => exact all (own.stay rfl (.apply session.tree change spares))
  | command command => exact dressed.stay rfl (.refl _)
  | create plan => exact dressed.create plan
  | destroyDockable node =>
      unfold Session.perform Session.destroyDockable
      dsimp only
      split
      · exact dressed.destroyWidget node
      · exact dressed
  | destroyWidget node => exact dressed.destroyWidget node
  | syncDestroyed => exact dressed.syncDestroyed
  | tearOut node root => exact dressed.tearOut node root
  | forceUndocked node => exact dressed.forceUndocked node
  | startInteractiveResize node edge => exact dressed.startInteractiveResize node edge
  | payloadEvent node event => exact dressed.payloadEvent node event
  | targetEvent target event hooks => exact all (own.targetEvent spares event)
  | takeNotices => exact dressed.stay rfl (.refl _)

theorem Dressed.run (dressed : session.Dressed (fun _ => True) none) {operations : List Operation}
    (only : session.StyledByDocking operations) :
    (session.run operations).Dressed (fun _ => True) none := by
  induction operations generalizing session with
  | nil => exact dressed
  | cons operation rest induction =>
      obtain ⟨⟨restrained, spares, same⟩, later⟩ := only
      refine induction ?_ later
      rw [← same]
      exact dressed.perform spares

theorem Dressed.showsPhases (dressed : session.Dressed (fun _ => True) none) :
    session.ShowsPhases := by
  intro node dockable found widget shown
  have wears : session.garb? node = some (dockable.garb node) := by
    rw [garb?, found, Option.map_some]
  exact dressed.shows node _ wears (Option.some_ne_none node).symm widget shown

theorem showsPhases_run (desktop : Desktop) (settings : Settings) {operations : List Operation}
    (only : (start desktop settings).StyledByDocking operations) :
    ((start desktop settings).run operations).ShowsPhases :=
  ((dressed_start desktop settings _).run only).showsPhases

/-- A tool is carried over a panel that lights up, and there the grab is lost. -/
def acrossStage : List Operation :=
  [.edit (.add (.newPanel "stage") ⟨0, 0, 9, 9⟩),
    .create (((DockablePlan.new "tool").withHandle 20).withStyle .undocked
      ⟨some "loose", .opaqueOf 0 0 1⟩ |>.withStyle .hovering ⟨some "carried", .opaqueOf 0 1 0⟩),
    .tearOut ⟨1⟩ .zero,
    .targetEvent ⟨0⟩ (.pointerMove ⟨5, 1⟩) .lighting,
    .payloadEvent ⟨1⟩ .grabLost]

theorem showsPhases_acrossStage :
    let reached (steps : Nat) := (start (.withCapabilities .none) .standard).run
      (acrossStage.take steps)
    (reached 4).tree.background? ⟨0⟩ = some (.opaqueOf 1 1 0) ∧
      (reached 4).tree.widget? ⟨2⟩ = some (.panel "carried" (.opaqueOf 0 1 0)) ∧
        (reached 5).ShowsPhases ∧
          (reached 5).tree.widget? ⟨2⟩ = some (.panel "loose" (.opaqueOf 0 0 1)) := by
  have apart : ¬ ((start (.withCapabilities .none) .standard).run
      (acrossStage.take 3)).ShowsStyleAt ⟨0⟩ := by decide +kernel
  have only : (start (.withCapabilities .none) .standard).StyledByDocking acrossStage :=
    styledByDocking_cons (fun _ retouches => nomatch retouches) (styledByDocking_cons trivial
      (styledByDocking_cons trivial (styledByDocking_cons (Hooks.sparesAt_lighting apart)
        (styledByDocking_cons trivial trivial))))
  exact ⟨by decide +kernel, by decide +kernel, showsPhases_run _ _ only, by decide +kernel⟩

end Session
end Docking

import Docking.Proofs.Tree.Evolution
import Docking.Session.Delivery
import Docking.Session.Payload

namespace Docking

/-! Docking reaches into the tree by public changes alone, so whatever those preserve
holds after each of its operations. -/

open Docking.Tree

/-! ### Carriers -/

theorem Dockable.evolves_paint (dockable : Dockable) (node : NodeId) (tree : Tree) :
    Evolves tree (dockable.paint node tree) := by
  unfold Dockable.paint
  dsimp only
  split
  · exact (Evolves.apply tree (.setBackground _ _)).trans (.apply _ (.setLabel _ _))
  · exact .apply tree (.setBackground _ _)

theorem Scene.evolves_openWindow (scene : Scene) (title : String) (node : NodeId)
    (position : Option Point) :
    Evolves scene.tree (scene.openWindow title node position).1.tree := by
  unfold Scene.openWindow
  dsimp only
  split
  · exact .refl _
  · exact .edit scene.tree [.detach node, .place node _, .attachWindow node _]

theorem Scene.evolves_closeWindow (scene : Scene) (node : NodeId) (window : WindowId) :
    Evolves scene.tree (scene.closeWindow node window).tree := by
  unfold Scene.closeWindow
  dsimp only
  split
  · exact .apply scene.tree (.detachWindow node)
  · exact .refl _

namespace Carrier

variable (carrier : Carrier) (scene : Scene) (settings : Settings) (node : NodeId)

theorem evolves_dropWindow :
    Evolves scene.tree (carrier.dropWindow scene node).2.tree := by
  unfold dropWindow
  split
  · exact .refl _
  · exact scene.evolves_closeWindow node _

@[simp] theorem tree_clearCursor : (carrier.clearCursor scene).2.tree = scene.tree := by
  unfold clearCursor
  split <;> rfl

theorem evolves_takeWindow (position : Option Point) :
    Evolves scene.tree (carrier.takeWindow scene settings node position).scene.tree := by
  have opened := scene.evolves_openWindow settings.windowTitle node position
  unfold takeWindow
  split
  · next left _ same =>
      rw [same] at opened
      exact opened
  · next left _ same =>
      rw [same] at opened
      exact opened

@[simp] theorem tree_showCursor (grab : Point) :
    (showCursor scene settings node grab).1.tree = scene.tree := by
  unfold showCursor
  split
  · rfl
  · split <;> rfl

theorem evolves_undock (root grab : Point) :
    Evolves scene.tree (carrier.undock scene settings node root grab).scene.tree := by
  unfold undock
  split
  · exact (evolves_dropWindow _ scene node).trans (evolves_takeWindow _ _ settings node _)
  · dsimp only
    have taken := (carrier.evolves_dropWindow scene node).trans
      ((carrier.dropWindow scene node).1.evolves_takeWindow
        (carrier.dropWindow scene node).2 settings node none)
    split
    · exact taken
    · split <;> exact taken
  · dsimp only
    rw [tree_showCursor]
    exact carrier.evolves_dropWindow scene node

theorem evolves_beforeDock :
    Evolves scene.tree (carrier.beforeDock scene node).2.tree := by
  have dropped := evolves_dropWindow (carrier.clearCursor scene).1
    (carrier.clearCursor scene).2 node
  rw [tree_clearCursor] at dropped
  exact dropped

@[simp] theorem tree_afterRelease : (carrier.afterRelease scene).2.tree = scene.tree := by
  unfold afterRelease
  split
  · rfl
  · rfl
  · exact carrier.tree_clearCursor scene

theorem evolves_settle (root : Point) :
    Evolves scene.tree (carrier.settle scene settings node root).scene.tree := by
  unfold settle
  split
  · exact .refl _
  · exact carrier.evolves_takeWindow scene settings node _

theorem evolves_release : Evolves scene.tree (carrier.release scene node).2.tree := by
  unfold release
  dsimp only
  have dropped (released : Carrier) := evolves_dropWindow (released.clearCursor scene).1
    (released.clearCursor scene).2 node
  simp only [tree_clearCursor] at dropped
  exact dropped _

theorem tree_follow (root : Point) : (carrier.follow scene root).tree = scene.tree := by
  unfold follow
  split <;> rfl

theorem tree_handle (press : Option Press) (inFlight : Bool) (event : Event) :
    (carrier.handle scene press inFlight event).1.tree = scene.tree := by
  unfold handle
  split
  · dsimp only
    split
    · exact carrier.tree_follow scene _
    · rfl
  · rfl

theorem tree_startInteractiveResize (edge : ResizeEdge) :
    (carrier.startInteractiveResize scene edge).1.tree = scene.tree := by
  unfold startInteractiveResize
  split
  · rfl
  · split <;> rfl

end Carrier

def Hooks.OnlyShows (hooks : Hooks) : Prop :=
  ∀ feedback, hooks.feedback = some feedback → ∀ tree target shown, feedback tree target shown = []

namespace Session

variable (session : Session) (node : NodeId)

@[simp] theorem tree_update (change : Dockable → Dockable) :
    (session.update node change).tree = session.tree :=
  rfl

theorem evolves_repaint : Evolves session.tree (session.repaint node).tree := by
  unfold repaint
  split
  · exact .refl _
  · exact Dockable.evolves_paint _ node session.tree

theorem evolves_enterPhase (phase : Phase) :
    Evolves session.tree (session.enterPhase node phase).tree :=
  evolves_repaint _ node

theorem evolves_withCarrier {action : Carrier → Scene → Carrier × Scene}
    (evolves : ∀ carrier, Evolves session.tree (action carrier session.toScene).2.tree) :
    Evolves session.tree (session.withCarrier node action).tree := by
  unfold withCarrier
  split
  · exact .refl _
  · exact evolves _

theorem evolves_tryCarrier
    (action : Carrier → Scene → Carrier.Outcome (Except DesktopError Unit))
    (evolves : ∀ carrier, Evolves session.tree (action carrier session.toScene).scene.tree) :
    Evolves session.tree (session.tryCarrier node action).1.tree := by
  unfold tryCarrier
  split
  · exact .refl _
  · exact evolves _

theorem evolves_settleCarrier (root : Point) :
    Evolves session.tree (session.settleCarrier node root).tree :=
  session.evolves_tryCarrier node _ fun carrier =>
    carrier.evolves_settle session.toScene session.settings node root

@[simp] theorem tree_withCarrier_afterRelease :
    (session.withCarrier node Carrier.afterRelease).tree = session.tree := by
  unfold withCarrier
  split
  · rfl
  · exact Carrier.tree_afterRelease _ session.toScene

theorem evolves_withCarrier_beforeDock :
    Evolves session.tree
      (session.withCarrier node fun carrier scene => carrier.beforeDock scene node).tree :=
  session.evolves_withCarrier node fun carrier =>
    carrier.evolves_beforeDock session.toScene node

/-! ### Destruction and creation -/

theorem forgetDockable_cases (destroyed : List NodeId) :
    (session.dockable? node = none ∧ forgetDockable destroyed session node = session) ∨
      ∃ dockable inFlight outbox, session.dockable? node = some dockable ∧
        forgetDockable destroyed session node =
          { session with
            toScene := (dockable.carrier.release session.toScene node).2
            dockables := session.dockables.erase node
            inFlight
            outbox } := by
  unfold forgetDockable
  cases found : session.dockable? node with
  | none => exact .inl ⟨rfl, rfl⟩
  | some dockable =>
      refine .inr ⟨dockable, ?_⟩
      dsimp only
      split
      · split
        · exact ⟨_, _, rfl, rfl⟩
        · split <;> exact ⟨_, _, rfl, rfl⟩
      · exact ⟨_, _, rfl, rfl⟩

theorem evolves_forgetDockable (destroyed : List NodeId) :
    Evolves session.tree (forgetDockable destroyed session node).tree := by
  rcases session.forgetDockable_cases node destroyed with ⟨_, same⟩ | ⟨dockable, _, _, _, same⟩
  · rw [same]
    exact .refl _
  · rw [same]
    exact dockable.carrier.evolves_release session.toScene node

theorem evolves_forgetTargets (destroyed : List NodeId) :
    Evolves session.tree (forgetTargets destroyed session node).tree := by
  unfold forgetTargets
  split
  · exact .refl _
  · dsimp only
    split
    · exact evolves_enterPhase _ node .dragging
    · exact .refl _

theorem syncDestroyed_induction {motive : Session → Prop} {session : Session}
    (taken : motive { session with tree := session.tree.forgetDestroyed })
    (dismissed : ∀ current node, motive current →
      motive (forgetDockable session.tree.destroyed current node))
    (cleared : ∀ current node, motive current →
      motive (forgetTargets session.tree.destroyed current node)) :
    motive session.syncDestroyed := by
  unfold syncDestroyed
  split
  · next nothing =>
      rwa [Tree.forgetDestroyed, ← nothing] at taken
  · refine List.foldlRecOn _ _ ?_ fun current kept node _ => cleared current node kept
    exact List.foldlRecOn _ _ taken fun current kept node _ => dismissed current node kept

theorem evolves_syncDestroyed : Evolves session.tree session.syncDestroyed.tree := by
  refine syncDestroyed_induction (motive := fun current => Evolves session.tree current.tree)
    (.apply session.tree .forgetDestroyed) ?_ ?_
  · exact fun current node earlier => earlier.trans (current.evolves_forgetDockable node _)
  · exact fun current node earlier => earlier.trans (current.evolves_forgetTargets node _)

theorem evolves_destroyWidget :
    Evolves session.tree (session.destroyWidget node).tree :=
  (Evolves.apply session.tree (.destroy node)).trans (evolves_syncDestroyed _)

theorem evolves_destroyDockable :
    Evolves session.tree (session.destroyDockable node).1.tree := by
  unfold destroyDockable
  split
  · exact session.evolves_destroyWidget node
  · exact .refl _

theorem evolves_buildWidgets (tree : Tree) (plan : DockablePlan) :
    Evolves tree (buildWidgets tree plan).tree := by
  unfold buildWidgets
  dsimp only
  split
  · exact .apply tree (.add _ _)
  · exact .edit tree [.add _ _, .add _ _, .addChild _ _]

theorem evolves_giveFirstPlace (plan : DockablePlan) :
    Evolves session.tree (session.giveFirstPlace plan node).tree := by
  unfold giveFirstPlace
  split
  · exact .apply session.tree (.insertChild _ _ _)
  · exact session.evolves_settleCarrier node _

theorem evolves_build (plan : DockablePlan) :
    Evolves session.tree (session.build plan).1.tree :=
  ((evolves_buildWidgets session.tree plan).trans (evolves_giveFirstPlace _ _ plan)).trans
    (evolves_repaint _ _)

theorem nextIndex_lt_build (plan : DockablePlan) :
    session.tree.nextIndex < (session.build plan).1.tree.nextIndex := by
  have grown : session.tree.nextIndex < (buildWidgets session.tree plan).tree.nextIndex := by
    unfold buildWidgets
    dsimp only
    split
    · exact Nat.lt_succ_self _
    · rw [addChild, nextIndex_insertChild]
      exact Nat.lt_succ_of_lt (Nat.lt_succ_self _)
  unfold build
  dsimp only
  refine Nat.lt_of_lt_of_le grown (Evolves.nextIndex_le (Evolves.trans ?_ (evolves_repaint _ _)))
  exact evolves_giveFirstPlace _ _ plan

theorem evolves_create (plan : DockablePlan) :
    Evolves session.tree (session.create plan).1.tree := by
  unfold create
  split
  · split
    · exact session.evolves_build plan
    · exact .refl _
  · exact session.evolves_build plan

/-! ### Drags -/

theorem evolves_undoTearOut (layout : Rect) (former : Option (NodeId × Nat)) (root : Point) :
    Evolves session.tree (session.undoTearOut node layout former root).tree := by
  have grounded := session.evolves_withCarrier_beforeDock node
  unfold undoTearOut
  dsimp only
  split
  · exact grounded.trans (.edit _ [.insertChild _ _ _, .place _ _])
  · apply (grounded.trans (evolves_settleCarrier _ node root)).trans
    have entered := evolves_enterPhase (((session.withCarrier node fun carrier scene =>
      carrier.beforeDock scene node).settleCarrier node root).withCarrier node
        Carrier.afterRelease) node .undocked
    rw [tree_withCarrier_afterRelease] at entered
    exact entered

theorem dockable?_of_tryCarrier {session attempted : Session} {node : NodeId}
    {action : Carrier → Scene → Carrier.Outcome (Except DesktopError Unit)}
    {result : Except DesktopError Unit}
    (tried : session.tryCarrier node action = (attempted, some result)) :
    ∃ dockable, session.dockable? node = some dockable := by
  unfold tryCarrier at tried
  split at tried
  · cases tried
  · next dockable found => exact ⟨dockable, found⟩

/-- The carrier's attempt to take a detached dockable into flight, with its result. -/
def attemptFlight (tearOut : TearOut) : Session × Option (Except DesktopError Unit) :=
  Session.tryCarrier { session with tree := (session.tree.detach node).1 } node
    fun carrier scene => carrier.undock scene session.settings node tearOut.root tearOut.grab

def launch (origin : Option NodeId) : Session :=
  { (session.update node fun dockable =>
      { dockable with activeTarget := none, originTarget := origin }).enterPhase node .dragging with
    inFlight := some node }

inductive DragBegun (tearOut : TearOut) : Session × Except DockError Unit → Prop
  | declined {error : DockError}
      (hindered : session.otherInFlight? node ≠ none ∨ session.tree.layout? node = none)
      (unasked : ∀ report, error ≠ .desktop report) :
      DragBegun tearOut (session, .error error)
  | unknown (alone : session.otherInFlight? node = none)
      (missing : session.dockable? node = none) :
      DragBegun tearOut ({ session with tree := (session.tree.detach node).1 },
        .error (.notADockable node))
  | failed {dockable : Dockable} {attempted : Session} {report : DesktopError} {layout : Rect}
      (alone : session.otherInFlight? node = none)
      (placed : session.tree.layout? node = some layout)
      (found : session.dockable? node = some dockable)
      (tried : session.attemptFlight node tearOut = (attempted, some (.error report))) :
      DragBegun tearOut (attempted.undoTearOut node layout
        ((session.tree.detach node).2.or tearOut.slot) tearOut.root, .error (.desktop report))
  | launched {dockable : Dockable} {attempted : Session}
      (alone : session.otherInFlight? node = none)
      (found : session.dockable? node = some dockable)
      (tried : session.attemptFlight node tearOut = (attempted, some (.ok ()))) :
      DragBegun tearOut (attempted.launch node tearOut.origin, .ok ())

theorem dragBegun_beginDrag (tearOut : TearOut) :
    session.DragBegun node tearOut (session.beginDrag node tearOut) := by
  unfold beginDrag
  cases alone : session.otherInFlight? node with
  | some other => exact .declined (.inl (alone ▸ nofun)) nofun
  | none =>
      cases placed : session.tree.layout? node with
      | none => exact .declined (.inr placed) nofun
      | some layout =>
          dsimp only
          split
          · next same =>
              unfold tryCarrier at same
              split at same
              · next missing =>
                  cases same
                  exact .unknown alone missing
              · cases same
          · next same =>
              obtain ⟨dockable, found⟩ := dockable?_of_tryCarrier same
              exact .failed alone placed found same
          · next same =>
              obtain ⟨dockable, found⟩ := dockable?_of_tryCarrier same
              exact .launched alone found same

theorem evolves_beginDrag (tearOut : TearOut) :
    Evolves session.tree (session.beginDrag node tearOut).1.tree := by
  have freed := Evolves.apply session.tree (.detach node)
  have flown : Evolves session.tree (session.attemptFlight node tearOut).1.tree :=
    freed.trans (evolves_tryCarrier { session with tree := (session.tree.detach node).1 } node _
      fun carrier => carrier.evolves_undock _ session.settings node _ _)
  have begun := session.dragBegun_beginDrag node tearOut
  generalize session.beginDrag node tearOut = outcome at begun ⊢
  cases begun with
  | declined hindered => exact .refl _
  | unknown alone missing => exact freed
  | failed alone placed found tried =>
      rw [tried] at flown
      exact flown.trans (evolves_undoTearOut _ node _ _ _)
  | launched alone found tried =>
      rw [tried] at flown
      exact flown.trans (evolves_enterPhase _ node .dragging)

/-- A tear-out of a dockable that is at rest and on the screen, as it is begun. -/
structure Begins (root : Point) (dockable : Dockable) (asked : TearOut) : Prop where
  found : session.dockable? node = some dockable
  resting : dockable.isInFlight = false
  shown : ∃ rect, session.screenRect? node = some rect ∧ asked.grab = root - rect.position
  slotless : asked.slot = none
  begun : session.tearOut node root = session.beginDrag node asked

/-- A tear-out that changes nothing, be it that there is nothing to tear out or that it was torn
out already. -/
structure StaysPut (root : Point) (result : Except DockError Unit) : Prop where
  unchanged : session.tearOut node root = (session, result)
  unasked : ∀ error, result ≠ .error (.desktop error)
  flying : result = .ok () →
    ∃ dockable, session.dockable? node = some dockable ∧ dockable.isInFlight = true

theorem staysPut_or_begins (root : Point) :
    (∃ result, session.StaysPut node root result) ∨
      ∃ dockable asked, session.Begins node root dockable asked := by
  cases found : session.dockable? node with
  | none =>
      refine .inl ⟨.error (.notADockable node), ?_, nofun, nofun⟩
      simp only [tearOut, found]
  | some dockable =>
      cases flies : dockable.isInFlight with
      | true =>
          refine .inl ⟨.ok (), ?_, nofun, fun _ => ⟨dockable, found, flies⟩⟩
          simp only [tearOut, found, flies, if_true]
      | false =>
          cases shown : session.screenRect? node with
          | none =>
              refine .inl ⟨.error (.nodeNotFound node), ?_, nofun, nofun⟩
              simp only [tearOut, found, flies, shown, Bool.false_eq_true, if_false]
          | some rect =>
              refine .inr ⟨dockable, ⟨root, root - rect.position,
                if dockable.phase = .docked then session.tree.parent? node else none, none⟩,
                found, flies, ⟨rect, shown, rfl⟩, rfl, ?_⟩
              simp only [tearOut, found, flies, shown, Bool.false_eq_true, if_false]

theorem evolves_tearOut (root : Point) :
    Evolves session.tree (session.tearOut node root).1.tree := by
  rcases session.staysPut_or_begins node root with ⟨result, stays⟩ | ⟨dockable, asked, begins⟩
  · rw [stays.unchanged]
    exact .refl _
  · rw [begins.begun]
    exact session.evolves_beginDrag node asked

@[simp] theorem tree_leaveActiveTarget :
    (session.leaveActiveTarget node).tree = session.tree := by
  unfold leaveActiveTarget
  split <;> rfl

theorem evolves_settleUndocked (root : Point) :
    Evolves session.tree (session.settleUndocked node root).tree := by
  have settled := evolves_settleCarrier (session.leaveActiveTarget node) node root
  rw [tree_leaveActiveTarget] at settled
  have rested := evolves_enterPhase
    ((((session.leaveActiveTarget node).settleCarrier node root).withCarrier node
      Carrier.afterRelease).update node fun dockable =>
        { dockable with originTarget := none }) node .undocked
  rw [tree_update, tree_withCarrier_afterRelease] at rested
  unfold settleUndocked
  dsimp only
  split <;> exact settled.trans rested

theorem evolves_releaseUndocked (root : Point) :
    Evolves session.tree (session.releaseUndocked node root).tree := by
  have settled := session.evolves_settleUndocked node root
  unfold releaseUndocked
  generalize session.settleUndocked node root = rested at settled ⊢
  dsimp only
  split
  · split
    · exact settled
    · exact settled.trans (evolves_destroyWidget _ node)
  · exact settled

theorem evolves_forceUndocked : Evolves session.tree (session.forceUndocked node).1.tree := by
  unfold forceUndocked
  split
  · exact .refl _
  · split
    · exact .refl _
    · exact .refl _
    · exact session.evolves_settleUndocked node _
    · exact session.evolves_settleUndocked node _

theorem tree_startInteractiveResize (edge : ResizeEdge) :
    (session.startInteractiveResize node edge).1.tree = session.tree := by
  unfold startInteractiveResize
  split
  · rfl
  · split
    · rfl
    · exact Carrier.tree_startInteractiveResize _ session.toScene edge

/-! ### Events on dockables -/

theorem evolves_interruption? (dockable : Dockable) (event : Event)
    {outcome : Session × Status}
    (interrupted : session.interruption? node dockable event = some outcome) :
    Evolves session.tree outcome.1.tree := by
  unfold interruption? at interrupted
  split at interrupted
  · split at interrupted
    · cases interrupted
      exact session.evolves_settleUndocked node _
    · cases interrupted
  · split at interrupted
    · cases interrupted
      exact session.evolves_settleUndocked node _
    · cases interrupted
  · split at interrupted
    · cases interrupted
      exact .refl _
    · cases interrupted
  · split at interrupted
    · cases interrupted
      dsimp only
      split
      · exact session.evolves_settleUndocked node _
      · split
        · exact session.evolves_destroyWidget node
        · exact .refl _
    · cases interrupted
  · split at interrupted
    · cases interrupted
      exact session.evolves_releaseUndocked node _
    · cases interrupted
  · cases interrupted

theorem evolves_respond (phase : Phase) (gesture : Gesture) :
    Evolves session.tree (session.respond node phase gesture).1.tree := by
  cases gesture with
  | ignored => exact .refl _
  | pressed root => exact .refl _
  | motion root =>
      cases phase with
      | undocked =>
          dsimp only [respond]
          split
          · split
            · exact session.evolves_tearOut node root
            · exact .refl _
          · exact .refl _
      | dragging => exact .refl _
      | hovering => exact .refl _
      | docked => exact .refl _
  | released root =>
      cases phase with
      | undocked => exact .refl _
      | dragging => exact session.evolves_releaseUndocked node root
      | hovering =>
          dsimp only [respond]
          split
          · exact .refl _
          · exact session.evolves_releaseUndocked node root
      | docked => exact .refl _

theorem evolves_gesture (dockable : Dockable) (event : Event) :
    Evolves session.tree (session.gesture node dockable event).1.tree := by
  have handled := dockable.carrier.tree_handle session.toScene dockable.press
    dockable.isInFlight event
  unfold gesture
  have responded := evolves_respond
    (({ session with
        toScene := (dockable.carrier.handle session.toScene dockable.press
          dockable.isInFlight event).1 }).update node fun current =>
      { current with
        press := (dockable.carrier.handle session.toScene dockable.press
          dockable.isInFlight event).2.1 }) node dockable.phase
    (dockable.carrier.handle session.toScene dockable.press dockable.isInFlight event).2.2
  rw [tree_update] at responded
  dsimp only at responded
  rw [handled] at responded
  exact responded

theorem evolves_payloadEvent (event : Event) :
    Evolves session.tree (session.payloadEvent node event).1.tree := by
  unfold payloadEvent
  split
  · exact .refl _
  · next dockable _ =>
      split
      · next interrupted => exact session.evolves_interruption? node dockable event interrupted
      · exact session.evolves_gesture node dockable event

/-! ### Events on targets -/

variable (target : NodeId) (hooks : Hooks)

theorem evolves_giveFeedback (shown : Bool) :
    Evolves session.tree (session.giveFeedback hooks target shown).1.tree := by
  unfold giveFeedback Hooks.runFeedback
  dsimp only
  split
  · split
    · exact .edit session.tree _
    · exact .refl _
  · exact .refl _

theorem fst_giveFeedback {hooks : Hooks} (onlyShows : hooks.OnlyShows) (session : Session)
    (target : NodeId) (shown : Bool) : (session.giveFeedback hooks target shown).1 = session := by
  unfold giveFeedback Hooks.runFeedback
  cases given : hooks.feedback with
  | none => rfl
  | some feedback =>
      dsimp only
      split
      · rw [onlyShows feedback given]
        rfl
      · rfl

theorem evolves_dropCandidate : Evolves session.tree (session.dropCandidate node).tree :=
  evolves_enterPhase _ node .dragging

theorem evolves_takeOver (previous : Option NodeId) :
    Evolves session.tree (session.takeOver target node previous).tree := by
  cases previous with
  | none => exact evolves_enterPhase _ node .hovering
  | some previous => exact evolves_enterPhase _ node .hovering

/-- The dockable is aimed at the target already, or at one nested in it. -/
def KeepsAim (dockable : Dockable) : Prop :=
  dockable.activeTarget = some target ∨
    ∃ current, dockable.activeTarget = some current ∧
      session.tree.isAncestor target current = true

inductive Moved (root : Point) : Reaction → Prop
  | unknown (missing : session.dockable? node = none) :
      Moved root ⟨session, .ignored, (session.isCandidate target node root hooks).2⟩
  | refused {dockable : Dockable} (found : session.dockable? node = some dockable)
      (outside : (session.isCandidate target node root hooks).1 = false)
      (elsewhere : dockable.activeTarget ≠ some target) :
      Moved root ⟨session, .understoodOnly, (session.isCandidate target node root hooks).2⟩
  | left {dockable : Dockable} (found : session.dockable? node = some dockable)
      (outside : (session.isCandidate target node root hooks).1 = false)
      (aims : dockable.activeTarget = some target) :
      Moved root ⟨(session.giveFeedback hooks target false).1.dropCandidate node, .understoodOnly,
        (session.isCandidate target node root hooks).2 ++
          (session.giveFeedback hooks target false).2⟩
  | kept {dockable : Dockable} (found : session.dockable? node = some dockable)
      (inside : (session.isCandidate target node root hooks).1 = true)
      (keeps : session.KeepsAim target dockable) :
      Moved root ⟨session,
        if dockable.activeTarget = some target then .handledFully else .understoodOnly,
        (session.isCandidate target node root hooks).2⟩
  | taken {dockable : Dockable} (found : session.dockable? node = some dockable)
      (inside : (session.isCandidate target node root hooks).1 = true)
      (takes : ¬ session.KeepsAim target dockable) :
      Moved root
        ⟨((session.takeOver target node dockable.activeTarget).giveFeedback hooks target true).1,
          .handledFully, (session.isCandidate target node root hooks).2 ++
            ((session.takeOver target node dockable.activeTarget).giveFeedback hooks target true).2⟩

theorem moved_targetMotion (root : Point) :
    session.Moved node target hooks root (session.targetMotion target node root hooks) := by
  unfold targetMotion
  dsimp only
  cases found : session.dockable? node with
  | none => exact .unknown found
  | some dockable =>
      dsimp only
      cases inside : (session.isCandidate target node root hooks).1 with
      | false =>
          rw [Bool.not_false, if_pos rfl]
          split
          · next aims => exact .left found inside aims
          · next elsewhere => exact .refused found inside elsewhere
      | true =>
          rw [Bool.not_true, if_neg Bool.false_ne_true]
          have kept := @Moved.kept session node target hooks root dockable found inside
          have taken := @Moved.taken session node target hooks root dockable found inside
          unfold KeepsAim at kept taken
          cases aims : dockable.activeTarget with
          | none =>
              rw [aims] at taken
              exact taken nofun
          | some current =>
              rw [aims] at kept taken
              dsimp only
              split
              · next here =>
                  rw [if_pos (congrArg some here)] at kept
                  exact kept (.inl (congrArg some here))
              · next apart =>
                  have elsewhere : some current ≠ some target :=
                    fun same => apart (Option.some.inj same)
                  split
                  · next above =>
                      rw [if_neg elsewhere] at kept
                      exact kept (.inr ⟨current, rfl, above⟩)
                  · next beside =>
                      refine taken ?_
                      rintro (same | ⟨_, same, above⟩)
                      · exact elsewhere same
                      · cases same
                        exact beside above

theorem evolves_targetMotion (root : Point) :
    Evolves session.tree (session.targetMotion target node root hooks).session.tree := by
  have moved := session.moved_targetMotion node target hooks root
  generalize session.targetMotion target node root hooks = reaction at moved ⊢
  cases moved with
  | unknown missing => exact .refl _
  | refused found outside elsewhere => exact .refl _
  | left found outside aims =>
      exact (session.evolves_giveFeedback target hooks false).trans (evolves_dropCandidate _ node)
  | kept found inside keeps => exact .refl _
  | taken found inside takes =>
      exact (session.evolves_takeOver node target _).trans
        (evolves_giveFeedback _ target hooks true)

theorem evolves_targetLeave :
    Evolves session.tree (session.targetLeave target hooks).session.tree := by
  have told := session.evolves_giveFeedback target hooks false
  unfold targetLeave
  dsimp only
  split
  · exact told
  · split
    · exact told.trans (evolves_dropCandidate _ _)
    · exact told

theorem evolves_turnAway (root : Point) :
    Evolves session.tree (session.turnAway target node root hooks).1.tree := by
  have told := session.evolves_giveFeedback target hooks false
  unfold turnAway
  generalize session.giveFeedback hooks target false = answer at told ⊢
  exact told.trans (evolves_releaseUndocked
    (answer.1.update node fun dockable => { dockable with activeTarget := none }) node root)

theorem evolves_land : Evolves session.tree (session.land node).tree := by
  have docked := evolves_enterPhase
    ((session.withCarrier node Carrier.afterRelease).update node fun dockable =>
      { dockable with activeTarget := none, originTarget := none, press := none })
    node .docked
  rw [tree_update, tree_withCarrier_afterRelease] at docked
  exact docked.trans (evolves_syncDestroyed _)

theorem evolves_dock (root : Point) :
    Evolves session.tree (session.dock target node root hooks).session.tree := by
  have placed := (session.evolves_withCarrier_beforeDock node).trans
    (Evolves.edit _ (hooks.insert.getD Placement.insertAtTarget
      (session.withCarrier node fun carrier scene => carrier.beforeDock scene node).tree
      target node))
  unfold dock
  dsimp only
  split
  · split
    · exact placed.trans (evolves_turnAway _ node target hooks root)
    · exact (placed.trans (evolves_giveFeedback _ target hooks false)).trans
        (evolves_land _ node)
  · exact session.evolves_turnAway node target hooks root

theorem evolves_tearOutChild (root : Point) :
    Evolves session.tree (session.tearOutChild target root hooks).session.tree := by
  unfold tearOutChild
  split
  · exact .refl _
  · next node _ =>
      split
      · exact .refl _
      · next rect _ =>
          have freed := (Evolves.edit session.tree (hooks.remove.getD
            (fun _ _ dockable => [.detach dockable]) session.tree target node)).trans
              (.apply _ (.detach node))
          dsimp only
          generalize asked : (⟨root, root - rect.position, some target, _⟩ : TearOut) = tearOut
          have begun := evolves_beginDrag { session with
            tree := ((hooks.runRemove session.tree target node).1.detach node).1 } node tearOut
          generalize beginDrag _ node tearOut = outcome at begun ⊢
          obtain ⟨after, result⟩ := outcome
          cases result with
          | ok => exact freed.trans begun
          | error error =>
              dsimp only
              split
              · exact (freed.trans begun).trans (evolves_destroyWidget _ _)
              · exact freed.trans begun

theorem evolves_targetInFlight (event : Event) :
    Evolves session.tree (session.targetInFlight target node hooks event).session.tree := by
  have moved (root : Point) := session.evolves_targetMotion node target hooks root
  have released (root : Point) :
      Evolves session.tree (session.targetRelease target node root hooks).session.tree := by
    unfold targetRelease
    split
    · exact session.evolves_dock node target hooks root
    · exact .refl _
  unfold targetInFlight
  split
  · exact moved _
  · exact moved _
  · exact moved _
  · exact released _
  · exact released _
  · exact .refl _

theorem evolves_targetEvent (event : Event) :
    Evolves session.tree (session.targetEvent target event hooks).session.tree := by
  unfold targetEvent
  split
  · exact .refl _
  · exact session.evolves_targetLeave target hooks
  · split
    · unfold targetAtRest
      split
      · exact session.evolves_tearOutChild target hooks _
      · exact .refl _
    · exact session.evolves_targetInFlight _ target hooks _

end Session
end Docking

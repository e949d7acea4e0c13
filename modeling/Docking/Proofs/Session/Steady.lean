import Docking.Proofs.Session.Evolution

namespace Docking

/-! What docking leaves alone in the windowing system, whatever it requests of it: the
capabilities, the pointer, the user's answer and the plan of failures. The user is asked
nothing but whether to keep a dockable that was released. -/

namespace Desktop

def questions (desktop : Desktop) : List DesktopCall :=
  desktop.calls.filter DesktopCall.isQuestion

structure Steady (before after : Desktop) : Prop where
  capabilities_eq : after.capabilities = before.capabilities
  pointer_eq : after.pointer = before.pointer
  confirmAnswer_eq : after.confirmAnswer = before.confirmAnswer
  faults_eq : after.faults = before.faults
  questions_eq : after.questions = before.questions
  requests_prefix : before.requests <+: after.requests

namespace Steady

variable {before middle after : Desktop}

theorem refl (desktop : Desktop) : Steady desktop desktop :=
  ⟨rfl, rfl, rfl, rfl, rfl, List.prefix_rfl⟩

theorem trans (first : Steady before middle) (second : Steady middle after) :
    Steady before after where
  capabilities_eq := second.capabilities_eq.trans first.capabilities_eq
  pointer_eq := second.pointer_eq.trans first.pointer_eq
  confirmAnswer_eq := second.confirmAnswer_eq.trans first.confirmAnswer_eq
  faults_eq := second.faults_eq.trans first.faults_eq
  questions_eq := second.questions_eq.trans first.questions_eq
  requests_prefix := first.requests_prefix.trans second.requests_prefix

variable (desktop : Desktop)

theorem attempt (request : Request) : Steady desktop (desktop.attempt request).1 :=
  ⟨rfl, rfl, rfl, rfl, rfl, List.prefix_append _ _⟩

theorem rearrange (windows : Table WindowId Window) (nextNumber : Nat)
    (cursor : Option CursorImage) :
    Steady desktop { desktop with windows, nextNumber, cursor } :=
  ⟨rfl, rfl, rfl, rfl, rfl, List.prefix_rfl⟩

theorem record {call : DesktopCall} (silent : call.isQuestion = false) :
    Steady desktop (desktop.record call) where
  capabilities_eq := rfl
  pointer_eq := rfl
  confirmAnswer_eq := rfl
  faults_eq := rfl
  questions_eq := by simp [questions, Desktop.record, silent]
  requests_prefix := List.prefix_rfl

end Steady

variable (desktop : Desktop)

theorem steady_createWindow (descriptor : WindowDescriptor) :
    Steady desktop (desktop.createWindow descriptor).1 := by
  have attempted := Steady.attempt desktop (.createWindow descriptor)
  unfold createWindow
  split
  · next same =>
      rw [same] at attempted
      exact attempted
  · next granted same =>
      rw [same] at attempted
      exact attempted.trans ((Steady.rearrange granted _ _ granted.cursor).trans (.record _ rfl))

theorem steady_destroyWindow (window : WindowId) :
    Steady desktop (desktop.destroyWindow window) := by
  unfold destroyWindow
  split
  · exact (Steady.rearrange desktop _ desktop.nextNumber desktop.cursor).trans (.record _ rfl)
  · exact .refl desktop

theorem steady_moveWindow (window : WindowId) (position : Point) :
    Steady desktop (desktop.moveWindow window position).1 := by
  have attempted := Steady.attempt desktop (.moveWindow window position)
  unfold moveWindow
  split
  · next same =>
      rw [same] at attempted
      exact attempted
  · next granted same =>
      rw [same] at attempted
      split
      · exact attempted
      · split
        · exact attempted
        · exact attempted.trans
            ((Steady.rearrange granted _ granted.nextNumber granted.cursor).trans (.record _ rfl))

theorem steady_startSystemDrag (window : WindowId) (payload : DragPayload) :
    Steady desktop (desktop.startSystemDrag window payload).1 := by
  have attempted := Steady.attempt desktop (.startSystemDrag window payload)
  unfold startSystemDrag
  split
  · next same =>
      rw [same] at attempted
      exact attempted
  · next granted same =>
      rw [same] at attempted
      split
      · exact attempted
      · split
        · exact attempted
        · exact attempted.trans (.record granted rfl)

theorem steady_setDragCursor (image : CursorImage) :
    Steady desktop (desktop.setDragCursor image).1 := by
  have attempted := Steady.attempt desktop (.setDragCursor image)
  unfold setDragCursor
  split
  · next same =>
      rw [same] at attempted
      exact attempted
  · next granted same =>
      rw [same] at attempted
      split
      · exact attempted
      · exact attempted.trans
          ((Steady.rearrange granted granted.windows granted.nextNumber _).trans (.record _ rfl))

theorem steady_clearDragCursor : Steady desktop desktop.clearDragCursor :=
  (Steady.rearrange desktop desktop.windows desktop.nextNumber none).trans (.record _ rfl)

end Desktop

open Desktop (Steady)

theorem Scene.steady_openWindow (scene : Scene) (title : String) (node : NodeId)
    (position : Option Point) :
    Steady scene.desktop (scene.openWindow title node position).1.desktop := by
  have created := scene.desktop.steady_createWindow (.borderless title position
    (.ofPoint ((scene.tree.layout? node).getD .zero).extent))
  unfold Scene.openWindow
  dsimp only
  split
  · next same =>
      rw [same] at created
      exact created
  · next same =>
      rw [same] at created
      exact created

namespace Carrier

variable (carrier : Carrier) (scene : Scene) (settings : Settings) (node : NodeId)

theorem steady_dropWindow : Steady scene.desktop (carrier.dropWindow scene node).2.desktop := by
  unfold dropWindow
  split
  · exact .refl _
  · exact scene.desktop.steady_destroyWindow _

theorem steady_clearCursor : Steady scene.desktop (carrier.clearCursor scene).2.desktop := by
  unfold clearCursor
  split
  · exact scene.desktop.steady_clearDragCursor
  · exact .refl _

theorem steady_takeWindow (position : Option Point) :
    Steady scene.desktop (carrier.takeWindow scene settings node position).scene.desktop := by
  have opened := scene.steady_openWindow settings.windowTitle node position
  unfold takeWindow
  split
  · next same =>
      rw [same] at opened
      exact opened
  · next same =>
      rw [same] at opened
      exact opened

theorem steady_showCursor (grab : Point) :
    Steady scene.desktop (showCursor scene settings node grab).1.desktop := by
  unfold showCursor
  split
  · exact .refl _
  · next image _ =>
      have shown := scene.desktop.steady_setDragCursor image
      split
      · next same =>
          rw [same] at shown
          exact shown
      · next same =>
          rw [same] at shown
          exact shown

theorem steady_undock (root grab : Point) :
    Steady scene.desktop (carrier.undock scene settings node root grab).scene.desktop := by
  unfold undock
  split
  · exact (steady_dropWindow _ scene node).trans (steady_takeWindow _ _ settings node _)
  · have taken := (carrier.steady_dropWindow scene node).trans
      ((carrier.dropWindow scene node).1.steady_takeWindow
        (carrier.dropWindow scene node).2 settings node none)
    dsimp only
    split
    · exact taken
    · next window _ =>
        have started := taken.trans (Desktop.steady_startSystemDrag _ window
          ⟨settings.markerMime, markerData node⟩)
        split
        · next same =>
            rw [same] at started
            exact started
        · next same =>
            rw [same] at started
            exact started
  · exact (carrier.steady_dropWindow scene node).trans (steady_showCursor _ settings node grab)

theorem steady_beforeDock : Steady scene.desktop (carrier.beforeDock scene node).2.desktop :=
  (carrier.steady_clearCursor scene).trans (steady_dropWindow _ _ node)

theorem steady_afterRelease : Steady scene.desktop (carrier.afterRelease scene).2.desktop := by
  unfold afterRelease
  split
  · exact .refl _
  · exact .refl _
  · exact carrier.steady_clearCursor scene

theorem steady_settle (root : Point) :
    Steady scene.desktop (carrier.settle scene settings node root).scene.desktop := by
  unfold settle
  split
  · exact .refl _
  · exact carrier.steady_takeWindow scene settings node _

theorem steady_release : Steady scene.desktop (carrier.release scene node).2.desktop := by
  have dropped (released : Carrier) := (released.steady_clearCursor scene).trans
    ((released.clearCursor scene).1.steady_dropWindow (released.clearCursor scene).2 node)
  exact dropped _

end Carrier

namespace Session

/-- The settings never change, and the windowing system is steady. -/
structure Steady (before after : Session) : Prop where
  settings_eq : after.settings = before.settings
  desktop : Desktop.Steady before.desktop after.desktop

namespace Steady

variable {before middle after : Session}

theorem refl (session : Session) : Steady session session :=
  ⟨rfl, .refl _⟩

theorem trans (first : Steady before middle) (second : Steady middle after) :
    Steady before after :=
  ⟨second.settings_eq.trans first.settings_eq, first.desktop.trans second.desktop⟩

theorem of_eq (settings_eq : after.settings = before.settings)
    (desktop_eq : after.desktop = before.desktop) : Steady before after :=
  ⟨settings_eq, desktop_eq ▸ .refl _⟩

end Steady

variable (session : Session) (node : NodeId)

theorem steady_update (change : Dockable → Dockable) :
    Steady session (session.update node change) :=
  .of_eq rfl rfl

theorem steady_enterPhase (phase : Phase) : Steady session (session.enterPhase node phase) := by
  unfold enterPhase repaint
  split <;> exact .of_eq rfl rfl

theorem steady_withCarrier {action : Carrier → Scene → Carrier × Scene}
    (steady : ∀ carrier,
      Desktop.Steady session.desktop (action carrier session.toScene).2.desktop) :
    Steady session (session.withCarrier node action) := by
  unfold withCarrier
  split
  · exact .refl _
  · next dockable _ => exact ⟨rfl, steady dockable.carrier⟩

theorem steady_tryCarrier
    {action : Carrier → Scene → Carrier.Outcome (Except DesktopError Unit)}
    (steady : ∀ carrier,
      Desktop.Steady session.desktop (action carrier session.toScene).scene.desktop) :
    Steady session (session.tryCarrier node action).1 := by
  unfold tryCarrier
  split
  · exact .refl _
  · next dockable _ => exact ⟨rfl, steady dockable.carrier⟩

theorem steady_settleCarrier (root : Point) : Steady session (session.settleCarrier node root) :=
  session.steady_tryCarrier node fun carrier =>
    carrier.steady_settle session.toScene session.settings node root

theorem steady_beforeDock :
    Steady session
      (session.withCarrier node fun carrier scene => carrier.beforeDock scene node) :=
  session.steady_withCarrier node fun carrier => carrier.steady_beforeDock session.toScene node

theorem steady_afterRelease : Steady session (session.withCarrier node Carrier.afterRelease) :=
  session.steady_withCarrier node fun carrier => carrier.steady_afterRelease session.toScene

theorem steady_forgetDockable (destroyed : List NodeId) :
    Steady session (forgetDockable destroyed session node) := by
  rcases session.forgetDockable_cases node destroyed with ⟨_, same⟩ | ⟨dockable, _, _, _, same⟩
  · rw [same]
    exact .refl _
  · rw [same]
    exact ⟨rfl, dockable.carrier.steady_release session.toScene node⟩

theorem steady_forgetTargets (destroyed : List NodeId) :
    Steady session (forgetTargets destroyed session node) := by
  unfold forgetTargets
  split
  · exact .refl _
  · dsimp only
    split
    · exact (session.steady_update node _).trans (steady_enterPhase _ node .dragging)
    · exact session.steady_update node _

theorem steady_syncDestroyed : Steady session session.syncDestroyed := by
  refine syncDestroyed_induction (motive := Steady session) (.of_eq rfl rfl) ?_ ?_
  · exact fun current node earlier => earlier.trans (current.steady_forgetDockable node _)
  · exact fun current node earlier => earlier.trans (current.steady_forgetTargets node _)

theorem steady_destroyWidget : Steady session (session.destroyWidget node) := by
  have removed : Steady session { session with tree := (session.tree.destroy node).1 } :=
    .of_eq rfl rfl
  exact removed.trans (steady_syncDestroyed _)

theorem steady_leaveActiveTarget : Steady session (session.leaveActiveTarget node) := by
  unfold leaveActiveTarget
  split <;> exact .of_eq rfl rfl

theorem steady_settleUndocked (root : Point) :
    Steady session (session.settleUndocked node root) := by
  have settled := ((session.steady_leaveActiveTarget node).trans
    (steady_settleCarrier _ node root)).trans (steady_afterRelease _ node)
  have rested := (settled.trans (steady_update _ node fun dockable =>
    { dockable with originTarget := none })).trans (steady_enterPhase _ node .undocked)
  unfold settleUndocked
  dsimp only
  split
  · exact ⟨rested.settings_eq, rested.desktop⟩
  · exact rested

/-- The user would be asked whether to keep a released dockable, and would not keep it. -/
def Declines (session : Session) : Prop :=
  session.settings.confirmOnRelease = true ∧ session.desktop.confirmAnswer = false

theorem Steady.declines_iff {before after : Session} (steady : Steady before after) :
    after.Declines ↔ before.Declines := by
  unfold Declines
  rw [steady.settings_eq, steady.desktop.confirmAnswer_eq]

def question (session : Session) : DesktopCall :=
  .confirm session.settings.confirmTitle session.settings.confirmMessage

theorem questions_releaseUndocked (root : Point) :
    (session.releaseUndocked node root).desktop.questions =
      session.desktop.questions ++
        if session.settings.confirmOnRelease then [session.question] else [] := by
  have steady := session.steady_settleUndocked node root
  have settings_eq := steady.settings_eq
  have questions_eq := steady.desktop.questions_eq
  unfold releaseUndocked
  generalize session.settleUndocked node root = settled at settings_eq questions_eq ⊢
  have asked : (settled.desktop.confirm settled.settings.confirmTitle
      settled.settings.confirmMessage).1.questions =
      session.desktop.questions ++ [session.question] := by
    rw [← questions_eq, settings_eq]
    simp [Desktop.questions, Desktop.confirm, Desktop.record, question, DesktopCall.isQuestion]
  dsimp only
  rw [settings_eq] at asked ⊢
  split
  · split
    · exact asked
    · exact (steady_destroyWidget _ node).desktop.questions_eq.trans asked
  · rw [List.append_nil]
    exact questions_eq

end Session
end Docking

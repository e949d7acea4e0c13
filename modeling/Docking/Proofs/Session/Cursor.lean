import Docking.Proofs.Session.Deed

namespace Docking

/-! The picture that may take the place of the pointer. As long as the application shows none
of its own, a picture is that of a dockable in flight. -/

namespace Desktop

variable (desktop : Desktop)

@[simp] theorem cursor_createWindow (descriptor : WindowDescriptor) :
    (desktop.createWindow descriptor).1.cursor = desktop.cursor := by
  unfold createWindow attempt
  cases desktop.faults (.createWindow descriptor) desktop.requests <;> rfl

@[simp] theorem cursor_destroyWindow (window : WindowId) :
    (desktop.destroyWindow window).cursor = desktop.cursor := by
  unfold destroyWindow
  split <;> rfl

@[simp] theorem cursor_moveWindow (window : WindowId) (position : Point) :
    (desktop.moveWindow window position).1.cursor = desktop.cursor := by
  unfold moveWindow attempt
  cases desktop.faults (.moveWindow window position) desktop.requests with
  | some report => rfl
  | none =>
      dsimp only
      split
      · rfl
      · split <;> rfl

@[simp] theorem cursor_startSystemDrag (window : WindowId) (payload : DragPayload) :
    (desktop.startSystemDrag window payload).1.cursor = desktop.cursor := by
  unfold startSystemDrag attempt
  cases desktop.faults (.startSystemDrag window payload) desktop.requests with
  | some report => rfl
  | none =>
      dsimp only
      split
      · rfl
      · split <;> rfl

theorem cursor_setDragCursor_of_error {image : CursorImage} {error : DesktopError}
    (failed : (desktop.setDragCursor image).2 = .error error) :
    (desktop.setDragCursor image).1.cursor = desktop.cursor := by
  unfold setDragCursor attempt at failed ⊢
  cases faulty : desktop.faults (.setDragCursor image) desktop.requests with
  | some report => rfl
  | none =>
      rw [faulty] at failed
      dsimp only at failed ⊢
      split
      · rfl
      · next capable =>
          rw [if_neg capable] at failed
          cases failed

@[simp] theorem cursor_startInteractiveResize (window : WindowId) (edge : ResizeEdge) :
    (desktop.startInteractiveResize window edge).1.cursor = desktop.cursor := by
  unfold startInteractiveResize attempt
  cases desktop.faults (.startInteractiveResize window edge) desktop.requests with
  | some report => rfl
  | none =>
      dsimp only
      split
      · rfl
      · split <;> rfl

end Desktop

@[simp] theorem Scene.cursor_openWindow (scene : Scene) (title : String) (node : NodeId)
    (position : Option Point) :
    (scene.openWindow title node position).1.desktop.cursor = scene.desktop.cursor := by
  have created := scene.desktop.cursor_createWindow (.borderless title position
    (.ofPoint ((scene.tree.layout? node).getD .zero).extent))
  unfold Scene.openWindow
  dsimp only
  split
  · next same =>
      rw [same] at created
      exact created
  · next same =>
      rw [same] at created
      exact created

namespace Carrier

def shows (carrier : Carrier) : Bool :=
  match carrier.means with
  | .imageCursor _ shown => shown
  | _ => false

/-- The carrier has acted. A picture that is shown now is its own, or was shown before and was
not its own. -/
def Vouches (carrier : Carrier) (before : Desktop) (acted : Carrier) (after : Desktop) : Prop :=
  after.cursor.isSome = true →
    acted.shows = true ∨ before.cursor.isSome = true ∧ carrier.shows = false

theorem Vouches.of_eq {carrier acted : Carrier} {before after : Desktop}
    (shows_eq : acted.shows = carrier.shows) (cursor_eq : after.cursor = before.cursor) :
    Vouches carrier before acted after := by
  intro shown
  rw [cursor_eq] at shown
  cases mine : carrier.shows with
  | true => exact .inl (shows_eq.trans mine)
  | false => exact .inr ⟨shown, rfl⟩

theorem Vouches.trans {first second third : Carrier} {before middle after : Desktop}
    (earlier : Vouches first before second middle) (later : Vouches second middle third after) :
    Vouches first before third after := by
  intro shown
  rcases later shown with mine | ⟨shownEarlier, hidden⟩
  · exact .inl mine
  · refine (earlier shownEarlier).imp_left fun mine => ?_
    rw [hidden] at mine
    cases mine

variable (carrier : Carrier) (scene : Scene) (settings : Settings) (node : NodeId)

@[simp] theorem shows_dropWindow :
    (carrier.dropWindow scene node).1.shows = carrier.shows := by
  unfold dropWindow
  split <;> rfl

@[simp] theorem cursor_dropWindow :
    (carrier.dropWindow scene node).2.desktop.cursor = scene.desktop.cursor := by
  unfold dropWindow
  split
  · rfl
  · exact scene.desktop.cursor_destroyWindow _

theorem vouches_dropWindow :
    Vouches carrier scene.desktop (carrier.dropWindow scene node).1
      (carrier.dropWindow scene node).2.desktop :=
  .of_eq (carrier.shows_dropWindow scene node) (carrier.cursor_dropWindow scene node)

@[simp] theorem shows_clearCursor : (carrier.clearCursor scene).1.shows = false := by
  unfold clearCursor
  split
  · rfl
  · next other =>
      unfold shows
      split
      · next grab shown same =>
          cases shown with
          | false => rfl
          | true => exact absurd same (other grab)
      · rfl

theorem vouches_clearCursor :
    Vouches carrier scene.desktop (carrier.clearCursor scene).1
      (carrier.clearCursor scene).2.desktop := by
  unfold clearCursor
  split
  · exact fun shown => nomatch shown
  · exact .of_eq rfl rfl

theorem shows_takeWindow (position : Option Point) :
    (carrier.takeWindow scene settings node position).carrier.shows = carrier.shows := by
  unfold takeWindow
  split <;> rfl

theorem vouches_takeWindow (position : Option Point) :
    Vouches carrier scene.desktop (carrier.takeWindow scene settings node position).carrier
      (carrier.takeWindow scene settings node position).scene.desktop := by
  refine .of_eq (carrier.shows_takeWindow scene settings node position) ?_
  have opened := scene.cursor_openWindow settings.windowTitle node position
  unfold takeWindow
  split
  · next same =>
      rw [same] at opened
      exact opened
  · next same =>
      rw [same] at opened
      exact opened

theorem cursor_showCursor {grab : Point}
    (hidden : (showCursor scene settings node grab).2 = false) :
    (showCursor scene settings node grab).1.desktop.cursor = scene.desktop.cursor := by
  unfold showCursor at hidden ⊢
  split
  · rfl
  · next image rendered =>
      rw [rendered] at hidden
      dsimp only at hidden
      split
      · next same =>
          rw [same] at hidden
          cases hidden
      · next error same =>
          have kept := scene.desktop.cursor_setDragCursor_of_error (congrArg Prod.snd same)
          rw [same] at kept
          exact kept

theorem vouches_undock (root grab : Point) :
    Vouches carrier scene.desktop (carrier.undock scene settings node root grab).carrier
      (carrier.undock scene settings node root grab).scene.desktop := by
  unfold undock
  split
  · next means =>
      have kept : Vouches carrier scene.desktop { carrier with means := .generic grab }
          scene.desktop := .of_eq (by simp only [shows, means]) rfl
      exact (kept.trans (vouches_dropWindow _ scene node)).trans (vouches_takeWindow _ _ _ node _)
  · next means =>
      have taken := (carrier.vouches_dropWindow scene node).trans
        ((carrier.dropWindow scene node).1.vouches_takeWindow (carrier.dropWindow scene node).2
          settings node none)
      have idle : ((carrier.dropWindow scene node).1.takeWindow (carrier.dropWindow scene node).2
          settings node none).carrier.shows = false := by
        rw [shows_takeWindow, shows_dropWindow, shows, means]
      dsimp only
      generalize (carrier.dropWindow scene node).1.takeWindow (carrier.dropWindow scene node).2
        settings node none = outcome at taken idle ⊢
      split
      · exact taken
      · next window _ =>
          have started := outcome.scene.desktop.cursor_startSystemDrag window
            ⟨settings.markerMime, markerData node⟩
          split
          · next same =>
              rw [same] at started
              exact taken.trans (.of_eq rfl started)
          · next same =>
              rw [same] at started
              exact taken.trans (.of_eq idle.symm started)
  · next shown means =>
      have dropped := carrier.cursor_dropWindow scene node
      dsimp only
      intro picture
      cases showing : (showCursor (carrier.dropWindow scene node).2 settings node grab).2 with
      | true => exact .inl (Bool.or_true shown)
      | false =>
          rw [cursor_showCursor _ settings node showing, dropped] at picture
          cases shown with
          | true => exact .inl rfl
          | false => exact .inr ⟨picture, by rw [shows, means]⟩

@[simp] theorem shows_beforeDock : (carrier.beforeDock scene node).1.shows = false :=
  (shows_dropWindow _ _ node).trans (carrier.shows_clearCursor scene)

theorem vouches_beforeDock :
    Vouches carrier scene.desktop (carrier.beforeDock scene node).1
      (carrier.beforeDock scene node).2.desktop :=
  (carrier.vouches_clearCursor scene).trans (vouches_dropWindow _ _ node)

@[simp] theorem shows_afterRelease : (carrier.afterRelease scene).1.shows = false := by
  unfold afterRelease
  split <;> rfl

theorem vouches_afterRelease :
    Vouches carrier scene.desktop (carrier.afterRelease scene).1
      (carrier.afterRelease scene).2.desktop := by
  unfold afterRelease
  split
  · next means => exact .of_eq (by simp only [shows, means]) rfl
  · next means => exact .of_eq (by simp only [shows, means]) rfl
  · exact (carrier.vouches_clearCursor scene).trans
      (.of_eq (carrier.shows_clearCursor scene).symm rfl)

theorem shows_settle (root : Point) :
    (carrier.settle scene settings node root).carrier.shows = carrier.shows := by
  unfold settle
  split
  · rfl
  · exact carrier.shows_takeWindow scene settings node _

theorem vouches_settle (root : Point) :
    Vouches carrier scene.desktop (carrier.settle scene settings node root).carrier
      (carrier.settle scene settings node root).scene.desktop := by
  unfold settle
  split
  · exact .of_eq rfl rfl
  · exact carrier.vouches_takeWindow scene settings node _

theorem vouches_release :
    Vouches carrier scene.desktop (carrier.release scene node).1
        (carrier.release scene node).2.desktop ∧
      (carrier.release scene node).1.shows = false := by
  have dropped (released : Carrier) :
      Vouches released scene.desktop ((released.clearCursor scene).1.dropWindow
          (released.clearCursor scene).2 node).1
        ((released.clearCursor scene).1.dropWindow (released.clearCursor scene).2 node).2.desktop ∧
      ((released.clearCursor scene).1.dropWindow
        (released.clearCursor scene).2 node).1.shows = false := by
    refine ⟨(released.vouches_clearCursor scene).trans (vouches_dropWindow _ _ node), ?_⟩
    rw [shows_dropWindow, shows_clearCursor]
  unfold release
  split
  · next means =>
      have kept : Vouches carrier scene.desktop { carrier with means := .compositor false }
          scene.desktop := .of_eq (by simp only [shows, means]) rfl
      have idle := dropped { carrier with means := .compositor false }
      exact ⟨kept.trans idle.1, idle.2⟩
  · exact dropped carrier

theorem cursor_follow (root : Point) :
    (carrier.follow scene root).desktop.cursor = scene.desktop.cursor := by
  unfold follow
  split
  · exact scene.desktop.cursor_moveWindow _ _
  · rfl

theorem cursor_startInteractiveResize (edge : ResizeEdge) :
    (carrier.startInteractiveResize scene edge).1.desktop.cursor = scene.desktop.cursor := by
  unfold startInteractiveResize
  split
  · rfl
  · split
    · rfl
    · exact scene.desktop.cursor_startInteractiveResize _ edge

end Carrier
end Docking

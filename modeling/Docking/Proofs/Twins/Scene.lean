import Docking.Proofs.Session.Steady
import Docking.Proofs.Twins.Veil
import Docking.Proofs.Window.Carrier

namespace Docking

/-! What a carrier does is out of sight. A veil lies over its dockable, and the window that it
owns is none of the windows known elsewhere. -/

open Docking.Tree (Rehouses)

/-! ### The windowing system -/

namespace Desktop

/-- The pointer, the user's answer and the known windows are the same. -/
structure Alike (known : WindowId → Prop) (first second : Desktop) : Prop where
  pointer_eq : second.pointer = first.pointer
  confirmAnswer_eq : second.confirmAnswer = first.confirmAnswer
  windowPosition?_eq : ∀ window, known window →
    second.windowPosition? window = first.windowPosition? window

/-- The known windows are not touched, and numbers are given out in ascending order. -/
structure Respects (known : WindowId → Prop) (before after : Desktop) : Prop where
  steady : Steady before after
  windowPosition?_eq : ∀ window, known window →
    after.windowPosition? window = before.windowPosition? window
  nextNumber_le : before.nextNumber ≤ after.nextNumber

variable {known : WindowId → Prop}

theorem Respects.refl (desktop : Desktop) : Respects known desktop desktop :=
  ⟨.refl desktop, fun _ _ => rfl, Nat.le_refl _⟩

theorem Respects.alike {before after : Desktop} (respects : Respects known before after) :
    Alike known before after :=
  ⟨respects.steady.pointer_eq, respects.steady.confirmAnswer_eq, respects.windowPosition?_eq⟩

namespace Alike

variable {first second third : Desktop}

theorem symm (alike : Alike known first second) : Alike known second first where
  pointer_eq := alike.pointer_eq.symm
  confirmAnswer_eq := alike.confirmAnswer_eq.symm
  windowPosition?_eq window knows := (alike.windowPosition?_eq window knows).symm

theorem trans (left : Alike known first second) (right : Alike known second third) :
    Alike known first third where
  pointer_eq := right.pointer_eq.trans left.pointer_eq
  confirmAnswer_eq := right.confirmAnswer_eq.trans left.confirmAnswer_eq
  windowPosition?_eq window knows :=
    (right.windowPosition?_eq window knows).trans (left.windowPosition?_eq window knows)

end Alike

variable (desktop : Desktop)

theorem respects_of_windows_eq {after : Desktop} (steady : Steady desktop after)
    (windows_eq : after.windows = desktop.windows)
    (nextNumber_le : desktop.nextNumber ≤ after.nextNumber) : Respects known desktop after where
  steady := steady
  windowPosition?_eq window _ := by rw [windowPosition?, windows_eq, windowPosition?]
  nextNumber_le := nextNumber_le

theorem respects_createWindow (descriptor : WindowDescriptor)
    (given : ∀ window, known window → window.number < desktop.nextNumber) :
    Respects known desktop (desktop.createWindow descriptor).1 where
  steady := desktop.steady_createWindow descriptor
  nextNumber_le := (desktop.exchange_createWindow descriptor).nextNumber_le
  windowPosition?_eq window knows := by
    unfold createWindow attempt
    cases desktop.faults (.createWindow descriptor) desktop.requests with
    | some report => rfl
    | none =>
        have different : window ≠ ⟨desktop.nextNumber⟩ := by
          rintro rfl
          exact Nat.lt_irrefl _ (given _ knows)
        simp only [windowPosition?, record, Table.get?_insert, if_neg different]

theorem respects_destroyWindow {window : WindowId} (unknown : ¬ known window) :
    Respects known desktop (desktop.destroyWindow window) where
  steady := desktop.steady_destroyWindow window
  nextNumber_le := (desktop.exchange_destroyWindow window).nextNumber_le
  windowPosition?_eq other knows := by
    have different : other ≠ window := fun same => unknown (same ▸ knows)
    unfold destroyWindow
    split
    · simp only [windowPosition?, record, Table.get?_erase, if_neg different]
    · rfl

theorem respects_moveWindow {window : WindowId} (unknown : ¬ known window) (position : Point) :
    Respects known desktop (desktop.moveWindow window position).1 where
  steady := desktop.steady_moveWindow window position
  nextNumber_le := (desktop.exchange_moveWindow window position).nextNumber_le
  windowPosition?_eq other knows := by
    have different : other ≠ window := fun same => unknown (same ▸ knows)
    unfold moveWindow attempt
    cases desktop.faults (.moveWindow window position) desktop.requests with
    | some report => rfl
    | none =>
        dsimp only
        split
        · rfl
        · split
          · rfl
          · simp only [windowPosition?, record, Table.get?_modify, if_neg different]

theorem respects_startSystemDrag (window : WindowId) (payload : DragPayload) :
    Respects known desktop (desktop.startSystemDrag window payload).1 := by
  refine desktop.respects_of_windows_eq (desktop.steady_startSystemDrag window payload) ?_
    (desktop.exchange_startSystemDrag window payload).nextNumber_le
  unfold startSystemDrag attempt
  cases desktop.faults (.startSystemDrag window payload) desktop.requests with
  | some report => rfl
  | none =>
      dsimp only
      split
      · rfl
      · split <;> rfl

theorem respects_setDragCursor (image : CursorImage) :
    Respects known desktop (desktop.setDragCursor image).1 := by
  refine desktop.respects_of_windows_eq (desktop.steady_setDragCursor image) ?_
    (desktop.exchange_setDragCursor image).nextNumber_le
  unfold setDragCursor attempt
  cases desktop.faults (.setDragCursor image) desktop.requests with
  | some report => rfl
  | none =>
      dsimp only
      split <;> rfl

theorem respects_clearDragCursor : Respects known desktop desktop.clearDragCursor :=
  desktop.respects_of_windows_eq desktop.steady_clearDragCursor rfl (Nat.le_refl _)

end Desktop

/-! ### The scene -/

namespace Scene

structure Alike (inside : NodeId → Bool) (known : WindowId → Prop) (first second : Scene) :
    Prop where
  tree_eq : second.tree.veil inside = first.tree.veil inside
  desktop : Desktop.Alike known first.desktop second.desktop

/-- The node is a root below the veil, and all windows in sight are known and were given out. -/
structure Secludes (inside : NodeId → Bool) (known : WindowId → Prop) (node : NodeId)
    (scene : Scene) : Prop where
  wellFormed : scene.tree.WellFormed
  covers : Tree.Covers inside node scene.tree
  present : scene.tree.contains node = true
  rooted : scene.tree.parent? node = none
  given : ∀ window, known window → window.number < scene.desktop.nextNumber
  sighted : ∀ other window, inside other = false →
    scene.tree.window? other = some window → known window

variable {inside : NodeId → Bool} {known : WindowId → Prop} {node : NodeId}

namespace Alike

variable {first second third : Scene}

theorem refl (scene : Scene) : Alike inside known scene scene :=
  ⟨rfl, ⟨rfl, rfl, fun _ _ => rfl⟩⟩

theorem symm (alike : Alike inside known first second) : Alike inside known second first :=
  ⟨alike.tree_eq.symm, alike.desktop.symm⟩

theorem trans (left : Alike inside known first second) (right : Alike inside known second third) :
    Alike inside known first third :=
  ⟨right.tree_eq.trans left.tree_eq, left.desktop.trans right.desktop⟩

variable (alike : Alike inside known first second)
include alike

theorem read {Result : Type} (view : Tree → Result)
    (unveiled : ∀ tree, view (tree.veil inside) = view tree) :
    view second.tree = view first.tree := by
  rw [← unveiled, alike.tree_eq, unveiled]

theorem layout?_eq {target : NodeId} (outside : inside target = false) :
    second.tree.layout? target = first.tree.layout? target :=
  alike.read (·.layout? target) fun tree => tree.layout?_veil inside outside

theorem hits_eq (secludes : first.Secludes inside known node) {target : NodeId}
    (outside : inside target = false) (root : Point) :
    second.hits target root = first.hits target root := by
  have top_eq : second.tree.rootOf target = first.tree.rootOf target :=
    alike.read (·.rootOf target) fun tree => tree.rootOf_veil inside target
  have top_outside := secludes.covers.rootOf secludes.wellFormed outside
  have window_eq : second.tree.window? (first.tree.rootOf target) =
      first.tree.window? (first.tree.rootOf target) :=
    alike.read (·.window? _) fun tree => tree.window?_veil inside top_outside
  have origin_eq : second.originOf target = first.originOf target := by
    unfold originOf Tree.windowOf?
    rw [top_eq, window_eq]
    cases shown : first.tree.window? (first.tree.rootOf target) with
    | none => rfl
    | some window =>
        have knows := secludes.sighted _ window top_outside shown
        exact congrArg (Option.getD · Point.zero) (alike.desktop.windowPosition?_eq window knows)
  unfold hits screenRect?
  rw [alike.layout?_eq outside, origin_eq]

end Alike

namespace Secludes

variable {scene : Scene} (secludes : scene.Secludes inside known node)
include secludes

theorem alike_rehouse {after : Scene} (rehouses : Rehouses node scene.tree after.tree)
    (respects : Desktop.Respects known scene.desktop after.desktop) :
    Alike inside known scene after :=
  ⟨secludes.covers.veil_rehouses secludes.wellFormed rehouses secludes.rooted, respects.alike⟩

theorem rehouse {after : Scene} (rehouses : Rehouses node scene.tree after.tree)
    (respects : Desktop.Respects known scene.desktop after.desktop) :
    after.Secludes inside known node where
  wellFormed := rehouses.wellFormed secludes.wellFormed
  covers := secludes.covers.congr (rehouses.parent?_eq secludes.rooted)
  present := (rehouses.contains_eq secludes.rooted node).trans secludes.present
  rooted := rehouses.parent?_eq_none secludes.rooted
  given window knows := Nat.lt_of_lt_of_le (secludes.given window knows) respects.nextNumber_le
  sighted other window outside shown := by
    have alike := secludes.alike_rehouse rehouses respects
    refine secludes.sighted other window outside ?_
    rw [← shown]
    exact (alike.read (·.window? other) fun tree => tree.window?_veil inside outside).symm

theorem respects_openWindow (title : String) (position : Option Point) :
    Desktop.Respects known scene.desktop (scene.openWindow title node position).1.desktop := by
  have created := scene.desktop.respects_createWindow (.borderless title position
    (.ofPoint ((scene.tree.layout? node).getD .zero).extent)) secludes.given
  unfold openWindow
  dsimp only
  split
  · next same =>
      rw [same] at created
      exact created
  · next same =>
      rw [same] at created
      exact created

theorem openWindow {title : String} {position : Option Point} {window : WindowId}
    (opened : (scene.openWindow title node position).2 = .ok window) :
    ¬ known window ∧ (scene.openWindow title node position).1.tree.AtOrigin node := by
  have fresh {descriptor : WindowDescriptor} {desktop : Desktop} {window : WindowId}
      (created : scene.desktop.createWindow descriptor = (desktop, .ok window)) :
      ¬ known window := by
    intro knows
    have exchange := scene.desktop.exchange_createWindow descriptor
    rw [created] at exchange
    exact Nat.not_lt_of_le (exchange.fresh window rfl).1 (secludes.given window knows)
  unfold Scene.openWindow at opened ⊢
  dsimp only at opened ⊢
  split
  · next failed =>
      rw [failed] at opened
      cases opened
  · next created =>
      rw [created] at opened
      cases opened
      refine ⟨fresh created, fun layout placed => ?_⟩
      rw [Tree.layout?_attachWindow, Tree.layout?_place (secludes.wellFormed.detach node)] at placed
      obtain ⟨_, _, rfl⟩ := Option.map_eq_some_iff.mp placed
      rfl

end Secludes
end Scene

/-! ### The carrier -/

namespace Carrier

structure Acts (inside : NodeId → Bool) (known : WindowId → Prop) (node : NodeId)
    (before : Scene) (carrier : Carrier) (scene : Scene) : Prop where
  alike : Scene.Alike inside known before scene
  steady : Desktop.Steady before.desktop scene.desktop
  secludes : scene.Secludes inside known node
  discreet : ∀ window, carrier.window = some window →
    ¬ known window ∧ scene.tree.AtOrigin node

variable {inside : NodeId → Bool} {known : WindowId → Prop} {node : NodeId}

theorem respects_dropWindow {carrier : Carrier} (scene : Scene) (node : NodeId)
    (discreet : ∀ window, carrier.window = some window → ¬ known window) :
    Desktop.Respects known scene.desktop (carrier.dropWindow scene node).2.desktop := by
  unfold dropWindow
  cases owned : carrier.window with
  | none => exact .refl _
  | some window => exact scene.desktop.respects_destroyWindow (discreet window owned)

theorem respects_clearCursor (carrier : Carrier) (scene : Scene) :
    Desktop.Respects known scene.desktop (carrier.clearCursor scene).2.desktop := by
  unfold clearCursor
  split
  · exact scene.desktop.respects_clearDragCursor
  · exact .refl _

theorem respects_afterRelease (carrier : Carrier) (scene : Scene) :
    Desktop.Respects known scene.desktop (carrier.afterRelease scene).2.desktop := by
  unfold afterRelease
  split
  · exact .refl _
  · exact .refl _
  · exact carrier.respects_clearCursor scene

theorem respects_showCursor (scene : Scene) (settings : Settings) (node : NodeId) (grab : Point) :
    Desktop.Respects known scene.desktop (showCursor scene settings node grab).1.desktop := by
  unfold showCursor
  split
  · exact .refl _
  · next image _ =>
      have shown := @Desktop.respects_setDragCursor known scene.desktop image
      split
      · next same =>
          rw [same] at shown
          exact shown
      · next same =>
          rw [same] at shown
          exact shown

theorem alike_release {carrier : Carrier} (scene : Scene)
    (discreet : ∀ window, carrier.window = some window → inside node = true ∧ ¬ known window) :
    Scene.Alike inside known scene (carrier.release scene node).2 := by
  have dropped (carrier : Carrier) (current : Scene)
      (discreet : ∀ window, carrier.window = some window →
        inside node = true ∧ ¬ known window) :
      Scene.Alike inside known current (carrier.dropWindow current node).2 := by
    refine ⟨?_, (respects_dropWindow current node fun window owned =>
      (discreet window owned).2).alike⟩
    unfold dropWindow Scene.closeWindow
    cases owned : carrier.window with
    | none => rfl
    | some window =>
        dsimp only
        split
        · exact Tree.veil_modify_of_eq _ (discreet window owned).1 fun _ _ => rfl
        · rfl
  have released (carrier : Carrier)
      (discreet : ∀ window, carrier.window = some window →
        inside node = true ∧ ¬ known window) :
      Scene.Alike inside known scene
        ((carrier.clearCursor scene).1.dropWindow (carrier.clearCursor scene).2 node).2 := by
    have cleared : Scene.Alike inside known scene (carrier.clearCursor scene).2 := by
      refine ⟨?_, (carrier.respects_clearCursor scene).alike⟩
      rw [tree_clearCursor]
    refine cleared.trans (dropped _ _ fun window owned => discreet window ?_)
    rwa [window_clearCursor] at owned
  unfold release
  refine released _ fun window owned => discreet window ?_
  split at owned
  · exact owned
  · exact owned

namespace Acts

variable {before : Scene} {carrier : Carrier} {scene : Scene}

theorem refl (secludes : scene.Secludes inside known node)
    (discreet : ∀ window, carrier.window = some window →
      ¬ known window ∧ scene.tree.AtOrigin node) :
    Acts inside known node scene carrier scene :=
  ⟨.refl scene, .refl _, secludes, discreet⟩

variable (acts : Acts inside known node before carrier scene)
include acts

theorem rehouse {kept : Carrier} {after : Scene}
    (rehouses : Rehouses node scene.tree after.tree)
    (respects : Desktop.Respects known scene.desktop after.desktop)
    (discreet : ∀ window, kept.window = some window →
      carrier.window = some window ∨ ¬ known window ∧ after.tree.AtOrigin node) :
    Acts inside known node before kept after where
  alike := acts.alike.trans (acts.secludes.alike_rehouse rehouses respects)
  steady := acts.steady.trans respects.steady
  secludes := acts.secludes.rehouse rehouses respects
  discreet window owned := by
    rcases discreet window owned with earlier | new
    · have known := acts.discreet window earlier
      exact ⟨known.1, known.2.rehouses acts.secludes.wellFormed rehouses⟩
    · exact new

theorem dropWindow :
    Acts inside known node before (carrier.dropWindow scene node).1
      (carrier.dropWindow scene node).2 := by
  refine acts.rehouse (carrier.rehouses_dropWindow scene node)
    (respects_dropWindow scene node fun window owned => (acts.discreet window owned).1)
    fun window owned => ?_
  rw [window_dropWindow] at owned
  cases owned

theorem clearCursor :
    Acts inside known node before (carrier.clearCursor scene).1 (carrier.clearCursor scene).2 := by
  refine acts.rehouse ?_ (carrier.respects_clearCursor scene) fun window owned => .inl ?_
  · rw [tree_clearCursor]
    exact .refl
  · rwa [window_clearCursor] at owned

theorem takeWindow (settings : Settings) (position : Option Point) :
    Acts inside known node before (carrier.takeWindow scene settings node position).carrier
      (carrier.takeWindow scene settings node position).scene := by
  have respects := acts.secludes.respects_openWindow settings.windowTitle position
  have rehouses := scene.rehouses_openWindow settings.windowTitle node position
  unfold Carrier.takeWindow
  split
  · next failed =>
      rw [failed] at respects rehouses
      exact acts.rehouse rehouses respects fun window owned => .inl owned
  · next opened =>
      have new := acts.secludes.openWindow (congrArg Prod.snd opened)
      rw [opened] at respects rehouses new
      refine acts.rehouse rehouses respects fun window owned => .inr ?_
      cases owned
      exact new

theorem request {kept : Carrier} {desktop : Desktop} (window_eq : kept.window = carrier.window)
    (respects : Desktop.Respects known scene.desktop desktop) :
    Acts inside known node before kept { scene with desktop } :=
  acts.rehouse .refl respects fun _ owned => .inl (window_eq ▸ owned)

theorem undock (settings : Settings) (root grab : Point) :
    Acts inside known node before (carrier.undock scene settings node root grab).carrier
      (carrier.undock scene settings node root grab).scene := by
  unfold Carrier.undock
  split
  · have aimed : Acts inside known node before { carrier with means := .generic grab } scene :=
      acts.request rfl (.refl _)
    exact aimed.dropWindow.takeWindow settings _
  · have taken := acts.dropWindow.takeWindow settings none
    dsimp only
    split
    · exact taken
    · next window _ =>
        have started := @Desktop.respects_startSystemDrag known
          ((carrier.dropWindow scene node).1.takeWindow (carrier.dropWindow scene node).2 settings
            node none).scene.desktop window ⟨settings.markerMime, markerData node⟩
        split
        · next same =>
            rw [same] at started
            exact taken.request rfl started
        · next same =>
            rw [same] at started
            exact taken.request rfl started
  · refine acts.dropWindow.rehouse ?_ (respects_showCursor _ settings node grab)
      fun window owned => .inl owned
    rw [tree_showCursor]
    exact .refl

theorem beforeDock :
    Acts inside known node before (carrier.beforeDock scene node).1
      (carrier.beforeDock scene node).2 :=
  acts.clearCursor.dropWindow

theorem afterRelease :
    Acts inside known node before (carrier.afterRelease scene).1
      (carrier.afterRelease scene).2 := by
  refine acts.rehouse ?_ (carrier.respects_afterRelease scene) fun window owned => .inl ?_
  · rw [tree_afterRelease]
    exact .refl
  · rwa [window_afterRelease] at owned

theorem settle (settings : Settings) (root : Point) :
    Acts inside known node before (carrier.settle scene settings node root).carrier
      (carrier.settle scene settings node root).scene := by
  unfold Carrier.settle
  split
  · exact acts
  · exact acts.takeWindow settings _

theorem follow (root : Point) :
    Acts inside known node before carrier (carrier.follow scene root) := by
  unfold Carrier.follow
  split
  · next window _ owned =>
      exact acts.request rfl
        (scene.desktop.respects_moveWindow (acts.discreet window owned).1 _)
  · exact acts

theorem handle (press : Option Press) (inFlight : Bool) (event : Event) :
    Acts inside known node before carrier (carrier.handle scene press inFlight event).1 := by
  unfold Carrier.handle
  split
  · dsimp only
    split
    · exact acts.follow _
    · exact acts
  · exact acts

end Acts
end Carrier
end Docking

import Docking.Proofs.Session.Evolution
import Docking.Proofs.Tree.Geometry

namespace Docking

/-! What a carrier does to the tree: it moves its dockable and takes it in and out of windows.
A dockable that is a root of its own stays one, and all nodes keep their places in the tree. -/

namespace Tree

/-- One node is lodged in another way, and keeps its extent. -/
inductive Rehouses (node : NodeId) (before : Tree) : Tree → Prop
  | refl : Rehouses node before before
  | detach {tree : Tree} (earlier : Rehouses node before tree) :
      Rehouses node before (tree.detach node).1
  | place {tree : Tree} (earlier : Rehouses node before tree) {rect : Rect}
      (atOrigin : rect.position = .zero)
      (fits : ∀ layout, tree.layout? node = some layout → rect.extent = layout.extent) :
      Rehouses node before (tree.place node rect)
  | attachWindow {tree : Tree} (earlier : Rehouses node before tree) (window : WindowId) :
      Rehouses node before (tree.attachWindow node window)
  | detachWindow {tree : Tree} (earlier : Rehouses node before tree) :
      Rehouses node before (tree.detachWindow node)

namespace Rehouses

variable {node : NodeId} {before middle after : Tree}

theorem trans (first : Rehouses node before middle) (second : Rehouses node middle after) :
    Rehouses node before after := by
  induction second with
  | refl => exact first
  | detach _ earlier => exact earlier.detach
  | place _ atOrigin fits earlier => exact earlier.place atOrigin fits
  | attachWindow _ window earlier => exact earlier.attachWindow window
  | detachWindow _ earlier => exact earlier.detachWindow

theorem parent?_eq (rehouses : Rehouses node before after) (root : before.parent? node = none)
    (other : NodeId) : after.parent? other = before.parent? other := by
  induction rehouses generalizing other with
  | refl => rfl
  | detach _ same =>
      rw [detach_of_parent?_eq_none ((same node).trans root)]
      exact same other
  | place _ _ _ same => exact ((SameLinks.place _ node _).parent?_eq other).trans (same other)
  | attachWindow _ window same =>
      rw [parent?_attachWindow]
      exact same other
  | detachWindow _ same =>
      rw [parent?_detachWindow]
      exact same other

theorem parent?_eq_none (rehouses : Rehouses node before after)
    (root : before.parent? node = none) : after.parent? node = none :=
  (rehouses.parent?_eq root node).trans root

theorem contains_eq (rehouses : Rehouses node before after) (root : before.parent? node = none)
    (other : NodeId) : after.contains other = before.contains other := by
  induction rehouses with
  | refl => rfl
  | detach earlier same => rwa [detach_of_parent?_eq_none (earlier.parent?_eq_none root)]
  | place _ _ _ same => exact ((SameLinks.place _ node _).contains_eq other).trans same
  | attachWindow _ window same => rwa [contains_attachWindow]
  | detachWindow _ same => rwa [contains_detachWindow]

theorem children_eq (rehouses : Rehouses node before after) (root : before.parent? node = none)
    (other : NodeId) : after.children other = before.children other := by
  induction rehouses with
  | refl => rfl
  | detach earlier same => rwa [detach_of_parent?_eq_none (earlier.parent?_eq_none root)]
  | place _ _ _ same => exact ((SameLinks.place _ node _).children_eq other).trans same
  | attachWindow _ window same => rwa [children_attachWindow]
  | detachWindow _ same => rwa [children_detachWindow]

theorem mooring?_eq (rehouses : Rehouses node before after) (root : before.parent? node = none)
    {other : NodeId} (different : other ≠ node) :
    after.mooring? other = before.mooring? other := by
  induction rehouses with
  | refl => rfl
  | detach earlier same => rwa [detach_of_parent?_eq_none (earlier.parent?_eq_none root)]
  | place _ _ _ same => exact ((SameLinks.place _ node _).mooring?_eq other).trans same
  | attachWindow _ window same => rwa [mooring?_attachWindow, if_neg fun both => different both.1]
  | detachWindow _ same => rwa [mooring?_detachWindow, if_neg different]

theorem nextIndex_eq (rehouses : Rehouses node before after) :
    after.nextIndex = before.nextIndex := by
  induction rehouses with
  | refl => rfl
  | detach _ same => rwa [nextIndex_detach]
  | place _ _ _ same => exact (SameLinks.place _ node _).nextIndex_eq.trans same
  | attachWindow _ window same => rwa [nextIndex_attachWindow]
  | detachWindow _ same => exact same

theorem destroyed_eq (rehouses : Rehouses node before after) :
    after.destroyed = before.destroyed := by
  induction rehouses with
  | refl => rfl
  | detach _ same => rwa [destroyed_detach]
  | place _ _ _ same => exact (SameLinks.place _ node _).destroyed_eq.trans same
  | attachWindow _ window same => rwa [destroyed_attachWindow]
  | detachWindow _ same => exact same

theorem wellFormed (rehouses : Rehouses node before after) (wellFormed : before.WellFormed) :
    after.WellFormed := by
  induction rehouses with
  | refl => exact wellFormed
  | detach _ earlier => exact earlier.detach node
  | place _ _ _ earlier => exact (SameLinks.place _ node _).wellFormed earlier
  | attachWindow _ window earlier => exact earlier.attachWindow node window
  | detachWindow _ earlier => exact earlier.detachWindow node

end Rehouses
end Tree

open Docking.Tree (Rehouses)

theorem Scene.rehouses_openWindow (scene : Scene) (title : String) (node : NodeId)
    (position : Option Point) :
    Rehouses node scene.tree (scene.openWindow title node position).1.tree := by
  unfold openWindow
  dsimp only
  split
  · exact .refl
  · refine .attachWindow (.place (.detach .refl) rfl fun layout placed => ?_) _
    rw [Tree.layout?_detach] at placed
    rw [placed]
    rfl

theorem Scene.rehouses_closeWindow (scene : Scene) (node : NodeId) (window : WindowId) :
    Rehouses node scene.tree (scene.closeWindow node window).tree := by
  unfold closeWindow
  dsimp only
  split
  · exact .detachWindow .refl
  · exact .refl

namespace Carrier

variable (carrier : Carrier) (scene : Scene) (settings : Settings) (node : NodeId)

theorem rehouses_dropWindow :
    Rehouses node scene.tree (carrier.dropWindow scene node).2.tree := by
  unfold dropWindow
  split
  · exact .refl
  · exact scene.rehouses_closeWindow node _

theorem rehouses_takeWindow (position : Option Point) :
    Rehouses node scene.tree (carrier.takeWindow scene settings node position).scene.tree := by
  have opened := scene.rehouses_openWindow settings.windowTitle node position
  unfold takeWindow
  generalize scene.openWindow settings.windowTitle node position = outcome at opened ⊢
  obtain ⟨left, result⟩ := outcome
  cases result with
  | error error => exact opened
  | ok window => exact opened

theorem rehouses_undock (root grab : Point) :
    Rehouses node scene.tree (carrier.undock scene settings node root grab).scene.tree := by
  have dropped := carrier.rehouses_dropWindow scene node
  unfold undock
  split
  · exact (rehouses_dropWindow _ scene node).trans (rehouses_takeWindow _ _ settings node _)
  · have taken := dropped.trans ((carrier.dropWindow scene node).1.rehouses_takeWindow
      (carrier.dropWindow scene node).2 settings node none)
    dsimp only
    split
    · exact taken
    · split
      · exact taken
      · exact taken
  · dsimp only
    rw [tree_showCursor]
    exact dropped

theorem rehouses_beforeDock : Rehouses node scene.tree (carrier.beforeDock scene node).2.tree := by
  have dropped := rehouses_dropWindow (carrier.clearCursor scene).1
    (carrier.clearCursor scene).2 node
  rw [tree_clearCursor] at dropped
  exact dropped

theorem rehouses_settle (root : Point) :
    Rehouses node scene.tree (carrier.settle scene settings node root).scene.tree := by
  unfold settle
  split
  · exact .refl
  · exact carrier.rehouses_takeWindow scene settings node _

end Carrier
end Docking

import Docking.Proofs.Tree.Preservation
import Docking.Dockable.Basic
import Docking.Scene

namespace Docking

/-! Painting changes neither where anything is nor what it hangs from. -/

namespace Tree

structure SameGeometry (before after : Tree) : Prop where
  links : SameLinks before after
  layout?_eq : ∀ node, after.layout? node = before.layout? node
  size_eq : after.size = before.size

theorem climb_congr {before after : Tree}
    (parent?_eq : ∀ node, after.parent? node = before.parent? node) (fuel : Nat)
    (node : NodeId) : after.climb fuel node = before.climb fuel node := by
  induction fuel generalizing node with
  | zero => rfl
  | succ fuel induction =>
      rw [climb, climb, parent?_eq]
      cases before.parent? node with
      | none => rfl
      | some parent => exact congrArg (parent :: ·) (induction parent)

theorem visit_congr {before after : Tree}
    (children_eq : ∀ node, after.children node = before.children node) (fuel : Nat)
    (stack : List NodeId) : after.visit fuel stack = before.visit fuel stack := by
  induction fuel generalizing stack with
  | zero => rfl
  | succ fuel induction =>
      cases stack with
      | nil => rfl
      | cons node pending => rw [visit, visit, children_eq, induction]

theorem descendants_congr {before after : Tree}
    (children_eq : ∀ node, after.children node = before.children node)
    (size_eq : after.size = before.size) (node : NodeId) :
    after.descendants node = before.descendants node := by
  rw [descendants, size_eq, children_eq, visit_congr children_eq, descendants]

theorem layout?_modify_of_eq (tree : Tree) (node : NodeId) {change : Node → Node}
    (same : ∀ data, (change data).layout = data.layout) (other : NodeId) :
    (tree.modify node change).layout? other = tree.layout? other := by
  rw [layout?, get?_modify, layout?]
  split
  · next here =>
      rw [here, Option.map_map]
      exact congrFun (congrArg Option.map (funext same)) _
  · rfl

theorem layout?_removeChild (tree : Tree) (parent child other : NodeId) :
    (tree.removeChild parent child).1.layout? other = tree.layout? other := by
  unfold removeChild
  cases (tree.children parent).idxOf? child with
  | none => rfl
  | some index =>
      dsimp only
      rw [layout?_modify_of_eq, layout?_modify_of_eq]
      · exact fun _ => rfl
      · exact fun _ => rfl

theorem layout?_detach (tree : Tree) (node other : NodeId) :
    (tree.detach node).1.layout? other = tree.layout? other := by
  unfold detach
  cases tree.parent? node with
  | none => rfl
  | some parent => exact tree.layout?_removeChild parent node other

theorem layout?_attachWindow (tree : Tree) (node : NodeId) (window : WindowId) (other : NodeId) :
    (tree.attachWindow node window).layout? other = tree.layout? other := by
  unfold attachWindow
  split
  · rfl
  · rw [layout?_modify_of_eq]
    exact fun _ => rfl

theorem layout?_detachWindow (tree : Tree) (node other : NodeId) :
    (tree.detachWindow node).layout? other = tree.layout? other := by
  rw [detachWindow, layout?_modify_of_eq]
  exact fun _ => rfl

namespace SameGeometry

variable {before middle after : Tree}

theorem refl (tree : Tree) : SameGeometry tree tree :=
  ⟨.refl tree, fun _ => rfl, rfl⟩

theorem trans (first : SameGeometry before middle) (second : SameGeometry middle after) :
    SameGeometry before after where
  links := first.links.trans second.links
  layout?_eq node := (second.layout?_eq node).trans (first.layout?_eq node)
  size_eq := second.size_eq.trans first.size_eq

theorem repaint (tree : Tree) (node : NodeId) (change : Widget → Widget) :
    SameGeometry tree
      (tree.modify node fun data => { data with widget := change data.widget }) where
  links := .modify tree node (fun _ => rfl) (fun _ => rfl) fun _ => rfl
  layout?_eq := tree.layout?_modify_of_eq node fun _ => rfl
  size_eq := tree.size_modify node _

theorem ancestors_eq (same : SameGeometry before after) (node : NodeId) :
    after.ancestors node = before.ancestors node := by
  rw [ancestors, same.size_eq, climb_congr same.links.parent?_eq, ancestors]

theorem isAncestor_eq (same : SameGeometry before after) (ancestor node : NodeId) :
    after.isAncestor ancestor node = before.isAncestor ancestor node := by
  rw [isAncestor, same.ancestors_eq, isAncestor]

theorem windowOf?_eq (same : SameGeometry before after) (node : NodeId) :
    after.windowOf? node = before.windowOf? node := by
  rw [windowOf?, rootOf, same.ancestors_eq, same.links.window?_eq, windowOf?, rootOf]

theorem hits_eq (same : SameGeometry before after) (desktop : Desktop) (node : NodeId)
    (root : Point) :
    Scene.hits ⟨after, desktop⟩ node root = Scene.hits ⟨before, desktop⟩ node root := by
  simp only [Scene.hits, Scene.screenRect?, Scene.originOf, same.layout?_eq, same.windowOf?_eq]

end SameGeometry
end Tree

theorem Dockable.sameGeometry_paint (dockable : Dockable) (node : NodeId) (tree : Tree) :
    tree.SameGeometry (dockable.paint node tree) := by
  unfold paint
  dsimp only
  split
  · exact (Tree.SameGeometry.repaint tree _ _).trans (.repaint _ _ _)
  · exact .repaint tree _ _

/-- Nothing moves, and what is a placeholder stays one. -/
structure Tree.Repaints (before after : Tree) : Prop where
  geometry : before.SameGeometry after
  isTargetBox_eq : ∀ node, after.isTargetBox node = before.isTargetBox node

namespace Tree.Repaints

variable {before middle after : Tree}

theorem refl (tree : Tree) : Repaints tree tree :=
  ⟨.refl tree, fun _ => rfl⟩

theorem trans (first : Repaints before middle) (second : Repaints middle after) :
    Repaints before after :=
  ⟨first.geometry.trans second.geometry, fun node =>
    (second.isTargetBox_eq node).trans (first.isTargetBox_eq node)⟩

theorem modify (tree : Tree) (node : NodeId) {change : Widget → Widget}
    (same : ∀ widget, (change widget).isTargetBox = widget.isTargetBox) :
    Repaints tree (tree.modify node fun data => { data with widget := change data.widget }) where
  geometry := .repaint tree node change
  isTargetBox_eq other := by
    unfold isTargetBox widget?
    rw [get?_modify]
    by_cases here : other = node
    · rw [if_pos here, here]
      cases tree.get? node with
      | none => rfl
      | some data => exact same data.widget
    · rw [if_neg here]

end Tree.Repaints

theorem Dockable.repaints_paint (dockable : Dockable) (node : NodeId) (tree : Tree) :
    tree.Repaints (dockable.paint node tree) := by
  have coloured := Tree.Repaints.modify tree (dockable.styledNode node)
    (Widget.isTargetBox_setBackground dockable.style.colour)
  unfold paint
  dsimp only
  split
  · next label _ => exact coloured.trans (.modify _ _ (Widget.isTargetBox_setLabel label))
  · exact coloured

end Docking

import Docking.Tree.Edit

namespace Docking

/-! The ready-made ways of docking a widget at a target and of taking it out again, as
edits of the tree they are computed from. -/

namespace Placement

/-- Docks at the target's rectangle. A placeholder box gives up its slot to the dockable
and is destroyed; any other target takes the dockable as its last child. -/
def insertAtTarget (tree : Tree) (target dockable : NodeId) : List Tree.Edit :=
  match tree.layout? target with
  | none => []
  | some rect =>
      match tree.isTargetBox target, tree.parent? target, tree.indexOf? target with
      | true, some parent, some index =>
          [.insertChild parent index dockable, .place dockable rect, .destroy target]
      | _, _, _ => [.addChild target dockable, .place dockable rect]

def removeLeavingBox (tree : Tree) (dockable : NodeId) : List Tree.Edit :=
  match tree.parent? dockable, tree.indexOf? dockable with
  | some parent, some index =>
      [.detach dockable,
        .add .newTargetBox ((tree.layout? dockable).getD .zero),
        .insertChild parent index tree.nextId]
  | _, _ => []

def fits (tree : Tree) (target dockable : NodeId) : Bool :=
  match tree.layout? target, tree.layout? dockable with
  | some space, some wanted => wanted.width ≤ space.width && wanted.height ≤ space.height
  | _, _ => false

end Placement
end Docking

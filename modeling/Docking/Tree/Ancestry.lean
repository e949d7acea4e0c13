import Docking.Tree.Basic

namespace Docking.Tree

/-! Walks along the links of a tree. Each walk takes at most as many steps as the tree
has nodes, which on links without a cycle is as many as it needs. -/

/-- At most `fuel` steps along parent links, nearest first. -/
def climb (tree : Tree) : Nat → NodeId → List NodeId
  | 0, _ => []
  | fuel + 1, node =>
      match tree.parent? node with
      | none => []
      | some parent => parent :: tree.climb fuel parent

def ancestors (tree : Tree) (node : NodeId) : List NodeId :=
  tree.climb tree.size node

/-- The topmost ancestor of a node, or the node itself when it has no parent. -/
def rootOf (tree : Tree) (node : NodeId) : NodeId :=
  (tree.ancestors node).getLastD node

def windowOf? (tree : Tree) (node : NodeId) : Option WindowId :=
  tree.window? (tree.rootOf node)

def isAncestor (tree : Tree) (ancestor node : NodeId) : Bool :=
  (tree.ancestors node).contains ancestor

/-- Visits at most `fuel` nodes from a stack of pending ones, each before its children. -/
def visit (tree : Tree) : Nat → List NodeId → List NodeId
  | 0, _ => []
  | _ + 1, [] => []
  | fuel + 1, node :: pending =>
      node :: tree.visit fuel (tree.children node ++ pending)

def descendants (tree : Tree) (node : NodeId) : List NodeId :=
  tree.visit tree.size (tree.children node)

end Docking.Tree

import Docking.Geometry
import Docking.Ident
import Docking.Table
import Docking.Widget

namespace Docking

/-! The widget tree: an arena of nodes with parent and child links. A node's layout is
absolute within the top-level window that hosts the root above it. -/

structure Node where
  widget : Widget
  layout : Rect
  parent : Option NodeId
  children : List NodeId
  /-- The top-level window whose content this node is; carried by roots only. -/
  window : Option WindowId
deriving DecidableEq, Inhabited

def Node.lone (widget : Widget) (layout : Rect) : Node :=
  ⟨widget, layout, none, [], none⟩

/-- Identifiers are given out in ascending order and never again. -/
structure Tree where
  nodes : Table NodeId Node
  nextIndex : Nat
  /-- What was destroyed since the record was last taken, oldest first. -/
  destroyed : List NodeId

namespace Tree

def empty : Tree := ⟨.empty, 0, []⟩

instance : Inhabited Tree := ⟨empty⟩

def nextId (tree : Tree) : NodeId := ⟨tree.nextIndex⟩

def ids (tree : Tree) : List NodeId := tree.nodes.keys

def size (tree : Tree) : Nat := tree.nodes.size

def get? (tree : Tree) (node : NodeId) : Option Node := tree.nodes.get? node

def contains (tree : Tree) (node : NodeId) : Bool := tree.nodes.contains node

def widget? (tree : Tree) (node : NodeId) : Option Widget :=
  (tree.get? node).map Node.widget

def layout? (tree : Tree) (node : NodeId) : Option Rect :=
  (tree.get? node).map Node.layout

def parent? (tree : Tree) (node : NodeId) : Option NodeId :=
  (tree.get? node).bind Node.parent

def children (tree : Tree) (node : NodeId) : List NodeId :=
  match tree.get? node with
  | some data => data.children
  | none => []

def window? (tree : Tree) (node : NodeId) : Option WindowId :=
  (tree.get? node).bind Node.window

def indexOf? (tree : Tree) (node : NodeId) : Option Nat :=
  (tree.parent? node).bind fun parent => (tree.children parent).idxOf? node

def isTargetBox (tree : Tree) (node : NodeId) : Bool :=
  match tree.widget? node with
  | some widget => widget.isTargetBox
  | none => false

def isPanel (tree : Tree) (node : NodeId) : Bool :=
  match tree.widget? node with
  | some widget => widget.isPanel
  | none => false

def background? (tree : Tree) (node : NodeId) : Option Colour :=
  (tree.widget? node).map Widget.background

def boxLabel? (tree : Tree) (node : NodeId) : Option String :=
  ((tree.widget? node).filter Widget.isTargetBox).map Widget.label

def ofKind (tree : Tree) (kindName : String) : List NodeId :=
  (tree.nodes.entries.filter fun entry => entry.2.widget.kindName = kindName).map
    Prod.fst

def modify (tree : Tree) (node : NodeId) (change : Node → Node) : Tree :=
  { tree with nodes := tree.nodes.modify node change }

theorem get?_modify (tree : Tree) (node : NodeId) (change : Node → Node)
    (other : NodeId) :
    (tree.modify node change).get? other =
      if other = node then (tree.get? node).map change else tree.get? other :=
  tree.nodes.get?_modify node change other

@[simp] theorem ids_modify (tree : Tree) (node : NodeId) (change : Node → Node) :
    (tree.modify node change).ids = tree.ids :=
  tree.nodes.keys_modify node change

@[simp] theorem size_modify (tree : Tree) (node : NodeId) (change : Node → Node) :
    (tree.modify node change).size = tree.size := by
  simp [size, modify, Table.size, Table.modify, Table.mapValues]

end Tree
end Docking

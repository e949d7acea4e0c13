import Docking.Tree.Ancestry

namespace Docking

/-! Changes of a tree. `Tree.Edit` names every public change, so that a program that
edits a tree is a list of edits. -/

namespace Tree

def add (tree : Tree) (widget : Widget) (layout : Rect) : Tree :=
  { tree with
    nodes := tree.nodes.insert tree.nextId (.lone widget layout)
    nextIndex := tree.nextIndex + 1 }

def removeChild (tree : Tree) (parent child : NodeId) : Tree × Option Nat :=
  match (tree.children parent).idxOf? child with
  | none => (tree, none)
  | some index =>
      let shortened := tree.modify parent fun data =>
        { data with children := data.children.eraseIdx index }
      (shortened.modify child fun data => { data with parent := none }, some index)

/-- Makes a node a root and reports the parent and index it had. -/
def detach (tree : Tree) (node : NodeId) : Tree × Option (NodeId × Nat) :=
  match tree.parent? node with
  | none => (tree, none)
  | some parent =>
      let removed := tree.removeChild parent node
      (removed.1, removed.2.map fun index => (parent, index))

/-- Whether `child` may become a child of `parent`: both exist and no cycle arises. -/
def admits (tree : Tree) (parent child : NodeId) : Bool :=
  parent ≠ child && tree.contains parent && tree.contains child &&
    !tree.isAncestor child parent

/-- Hangs `child` below `parent` at `index`, or last when there are fewer children. The
child leaves its former parent and any window it was the content of. -/
def insertChild (tree : Tree) (parent : NodeId) (index : Nat) (child : NodeId) : Tree :=
  if tree.admits parent child then
    let freed := (tree.detach child).1
    let linked := freed.modify child fun data =>
      { data with parent := some parent, window := none }
    linked.modify parent fun data =>
      { data with
        children := data.children.insertIdx (min index data.children.length) child }
  else
    tree

def addChild (tree : Tree) (parent child : NodeId) : Tree :=
  tree.insertChild parent (tree.children parent).length child

/-- Moves a node to `rect` and its descendants along with it; they keep their extents. -/
def place (tree : Tree) (node : NodeId) (rect : Rect) : Tree :=
  match tree.layout? node with
  | none => tree
  | some old =>
      let offset := rect.position - old.position
      let placed := tree.modify node fun data => { data with layout := rect }
      if offset == Point.zero then placed
      else
        (placed.descendants node).foldl
          (fun current descendant => current.modify descendant fun data =>
            { data with layout := data.layout.translate offset })
          placed

/-- Makes a root the content of a window; a node with a parent is left alone. -/
def attachWindow (tree : Tree) (node : NodeId) (window : WindowId) : Tree :=
  match tree.parent? node with
  | some _ => tree
  | none => tree.modify node fun data => { data with window := some window }

def detachWindow (tree : Tree) (node : NodeId) : Tree :=
  tree.modify node fun data => { data with window := none }

def subtree (tree : Tree) (node : NodeId) : List NodeId :=
  node :: tree.descendants node

def destroy (tree : Tree) (node : NodeId) : Tree × List NodeId :=
  if tree.contains node then
    let freed := (tree.detach node).1
    let removed := freed.subtree node
    ({ freed with
        nodes := removed.foldl Table.erase freed.nodes
        destroyed := freed.destroyed ++ removed },
      removed)
  else
    (tree, [])

def forgetDestroyed (tree : Tree) : Tree := { tree with destroyed := [] }

def setLabel (tree : Tree) (node : NodeId) (label : String) : Tree :=
  tree.modify node fun data => { data with widget := data.widget.setLabel label }

def setBackground (tree : Tree) (node : NodeId) (background : Colour) : Tree :=
  tree.modify node fun data =>
    { data with widget := data.widget.setBackground background }

inductive Edit
  | add (widget : Widget) (layout : Rect)
  | addChild (parent child : NodeId)
  | insertChild (parent : NodeId) (index : Nat) (child : NodeId)
  | removeChild (parent child : NodeId)
  | detach (node : NodeId)
  | place (node : NodeId) (rect : Rect)
  | attachWindow (node : NodeId) (window : WindowId)
  | detachWindow (node : NodeId)
  | destroy (node : NodeId)
  | forgetDestroyed
  | setLabel (node : NodeId) (label : String)
  | setBackground (node : NodeId) (background : Colour)
deriving DecidableEq

def apply (tree : Tree) : Edit → Tree
  | .add widget layout => tree.add widget layout
  | .addChild parent child => tree.addChild parent child
  | .insertChild parent index child => tree.insertChild parent index child
  | .removeChild parent child => (tree.removeChild parent child).1
  | .detach node => (tree.detach node).1
  | .place node rect => tree.place node rect
  | .attachWindow node window => tree.attachWindow node window
  | .detachWindow node => tree.detachWindow node
  | .destroy node => (tree.destroy node).1
  | .forgetDestroyed => tree.forgetDestroyed
  | .setLabel node label => tree.setLabel node label
  | .setBackground node background => tree.setBackground node background

def edit (tree : Tree) (edits : List Edit) : Tree :=
  edits.foldl apply tree

@[simp] theorem edit_nil (tree : Tree) : tree.edit [] = tree :=
  rfl

@[simp] theorem edit_cons (tree : Tree) (first : Edit) (rest : List Edit) :
    tree.edit (first :: rest) = (tree.apply first).edit rest :=
  rfl

theorem edit_append (tree : Tree) (first second : List Edit) :
    tree.edit (first ++ second) = (tree.edit first).edit second :=
  List.foldl_append

end Tree
end Docking

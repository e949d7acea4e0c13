import Docking.Desktop.Basic
import Docking.Tree.Edit

namespace Docking

/-! The widget tree together with the windowing system that shows it. -/

structure Scene where
  tree : Tree
  desktop : Desktop

namespace Scene

/-- Where the window hosting a node begins; the root origin when none is known. -/
def originOf (scene : Scene) (node : NodeId) : Point :=
  ((scene.tree.windowOf? node).bind scene.desktop.windowPosition?).getD .zero

def screenRect? (scene : Scene) (node : NodeId) : Option Rect :=
  (scene.tree.layout? node).map fun layout => layout.translate (scene.originOf node)

def hits (scene : Scene) (node : NodeId) (root : Point) : Bool :=
  match scene.screenRect? node with
  | some rect => rect.contains root
  | none => false

def openWindow (scene : Scene) (title : String) (node : NodeId)
    (position : Option Point) : Scene × Except DesktopError WindowId :=
  let extent := ((scene.tree.layout? node).getD .zero).extent
  match scene.desktop.createWindow (.borderless title position (.ofPoint extent)) with
  | (desktop, .error error) => ({ scene with desktop }, .error error)
  | (desktop, .ok window) =>
      let placed := (scene.tree.detach node).1.place node (.placedAt .zero extent)
      ({ tree := placed.attachWindow node window, desktop }, .ok window)

/-- Separates a node from a window, if it is its content, and destroys the window. -/
def closeWindow (scene : Scene) (node : NodeId) (window : WindowId) : Scene :=
  let tree :=
    if scene.tree.window? node = some window then scene.tree.detachWindow node
    else scene.tree
  { tree, desktop := scene.desktop.destroyWindow window }

end Scene
end Docking

import Docking.Desktop.Window
import Docking.Snapshot.Canvas
import Docking.Tree.Edit

namespace Docking

/-! A flat picture of a subtree, shown in place of the pointer during a drag: every
background painted over its rectangle, back to front, within a darker border. -/

namespace Snapshot

def borderDarkening : Float32 := 0.35

def pixels (length : Float32) (edge : Nat) : Nat :=
  max 1 (min (ceilWord length) edge)

/-- Shrinks so that the longest edge fits, and never enlarges. -/
def scaleFor (longest : Float32) (edge : UInt32) : Float32 :=
  smaller (edge.toFloat32 / longest) 1

def hotspotWithin (coordinate : Float32) (length : Nat) : Nat :=
  min (larger coordinate 0).toUInt32.toNat (length - 1)

def paintNode (tree : Tree) (origin : Point) (scale : Float32) (canvas : Canvas)
    (node : NodeId) : Canvas :=
  match tree.get? node with
  | none => canvas
  | some data =>
      canvas.fill ((data.layout.position - origin).scale scale)
        (data.layout.extent.scale scale) data.widget.background

/-- The picture of a node and its descendants with no edge longer than `maxEdge`, whose
hotspot is the grabbed point. An unknown or empty node has none. -/
def render (tree : Tree) (node : NodeId) (maxEdge : UInt32) (grab : Point) :
    Option CursorImage :=
  match tree.get? node with
  | none => none
  | some data =>
      let layout := data.layout
      let longest := larger layout.width layout.height
      if longest ≤ 0 then none
      else
        let edge := if maxEdge = 0 then 1 else maxEdge
        let scale := scaleFor longest edge
        let width := pixels (layout.width * scale) edge.toNat
        let height := pixels (layout.height * scale) edge.toNat
        let painted := (tree.subtree node).foldl
          (paintNode tree layout.position scale) (Canvas.blank width height)
        let framed := painted.border (data.widget.background.darken borderDarkening)
        some
          { width
            height
            rgba := framed.bytes
            hotspot :=
              (hotspotWithin (grab.x * scale) width,
                hotspotWithin (grab.y * scale) height) }

end Snapshot
end Docking

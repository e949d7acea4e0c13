import Docking.Proofs.Snapshot.Bounds
import Docking.Proofs.Snapshot.Rounding
import Docking.Proofs.Tree.DepthFirst
import Docking.Proofs.Tree.Evolution

namespace Docking.Snapshot

/-! A picture shows at each of its pixels what lies on top there: the border, or the background
of the last node in depth-first order that covers the pixel. -/

variable {tree : Tree} {node : NodeId} {maxEdge : UInt32} {grab : Point} {image : CursorImage}
  {canvas : Canvas} {cell : Cell}

/-- The near end rounded down is at most the index, and the far end rounded up is above it. An end
that is not a number counts as zero. -/
def Spans (near far : Float32) (index : Nat) : Prop :=
  ¬ (reading near).Passes ((index + 1 : Nat) ≤ ·) ∧ (reading far).Passes (index < ·)

instance (near far : Float32) (index : Nat) : Decidable (Spans near far index) :=
  inferInstanceAs (Decidable (_ ∧ _))

/-- The colour in which a node paints a cell. A node without opacity paints none, nor does one
whose rectangle lies elsewhere. -/
def tint? (tree : Tree) (origin : Point) (scale : Float32) (cell : Cell) (node : NodeId) :
    Option Colour :=
  match tree.get? node with
  | none => none
  | some data =>
      let near := (data.layout.position - origin).scale scale
      let far := near + data.layout.extent.scale scale
      if ¬ data.widget.background.alpha ≤ 0 ∧ Spans near.x far.x cell.x ∧
          Spans near.y far.y cell.y then
        some data.widget.background
      else none

def frameOf (background : Colour) : Colour where
  red := background.red * (1 - 0.35)
  green := background.green * (1 - 0.35)
  blue := background.blue * (1 - 0.35)
  alpha := background.alpha

/-- A pixel on which nothing was painted is all zeros. -/
def Presents (pixel : Pixel) : Option Colour → Prop
  | none => pixel = ⟨0, 0, 0, 0⟩
  | some colour => pixel.Shows colour

theorem presents_iff {pixel : Pixel} {shown : Option Colour} :
    Presents pixel shown ↔ pixel = (shown.map Colour.toPixel).getD ⟨0, 0, 0, 0⟩ := by
  cases shown with
  | none => rfl
  | some colour => exact Colour.shows_iff.trans eq_comm

theorem darken_borderDarkening (background : Colour) :
    background.darken borderDarkening = frameOf background := by
  have unclamped : clampUnit borderDarkening = 0.35 := by decide +kernel
  rw [Colour.darken, unclamped]
  rfl

theorem spans_iff {index : Nat} (within : index + 1 < UInt32.size) (near far : Float32) :
    Spans near far index ↔ floorWord (larger near 0) ≤ index ∧ index < ceilWord far := by
  have positive : ∀ value ≤ 0, ¬ ((index + 1 : Nat) : Rat) ≤ value := fun value small large =>
    Rat.not_le.mpr (Rat.natCast_pos.mpr (Nat.succ_pos index)) (Rat.le_trans large small)
  rw [Spans, lt_ceilWord_iff within, ← Nat.not_lt, ← Nat.succ_le_iff,
    le_floorWord_iff (Nat.succ_pos index) within, passes_larger_zero_iff positive]

theorem covers_clip_iff (contained : canvas.Contains cell) (right : cell.x + 1 < UInt32.size)
    (bottom : cell.y + 1 < UInt32.size) (near extent : Point) :
    (canvas.clip near extent).Covers cell ↔
      Spans near.x (near + extent).x cell.x ∧ Spans near.y (near + extent).y cell.y := by
  rw [spans_iff right, spans_iff bottom, Region.Covers, Canvas.clip, Nat.lt_min, Nat.lt_min,
    and_iff_left contained.1, and_iff_left contained.2]
  rfl

theorem pixelAt_paintNode (sized : canvas.Sized) (contained : canvas.Contains cell)
    (right : cell.x + 1 < UInt32.size) (bottom : cell.y + 1 < UInt32.size) (tree : Tree)
    (origin : Point) (scale : Float32) (node : NodeId) :
    (paintNode tree origin scale canvas node).pixelAt cell =
      ((tint? tree origin scale cell node).map Colour.toPixel).getD (canvas.pixelAt cell) := by
  unfold paintNode tint?
  cases tree.get? node with
  | none => rfl
  | some data =>
      dsimp only
      rw [sized.pixelAt_fill _ _ _ contained]
      simp only [covers_clip_iff contained right bottom]
      split <;> rfl

/-- A cell shows the colour of the node that painted it last. -/
theorem pixelAt_foldl_paintNode (sized : canvas.Sized) (contained : canvas.Contains cell)
    (right : cell.x + 1 < UInt32.size) (bottom : cell.y + 1 < UInt32.size) (tree : Tree)
    (origin : Point) (scale : Float32) (order : List NodeId) :
    (order.foldl (paintNode tree origin scale) canvas).pixelAt cell =
      ((order.filterMap (tint? tree origin scale cell)).getLast?.map Colour.toPixel).getD
        (canvas.pixelAt cell) := by
  induction order generalizing canvas with
  | nil => rfl
  | cons node rest induction =>
      have same := sameShape_paintNode tree origin scale canvas node
      rw [List.foldl_cons, induction (same.sized sized) ((same.contains_iff cell).mpr contained),
        pixelAt_paintNode sized contained right bottom]
      -- a node that paints here is what the cell shows, unless a later one does
      cases tint : tint? tree origin scale cell node with
      | none => rw [List.filterMap_cons_none tint, Option.map_none, Option.getD_none]
      | some colour =>
          rw [List.filterMap_cons_some tint, List.getLast?_cons, Option.map_some,
            Option.getD_some, Option.map_some, Option.getD_some, Option.getD_map]

theorem mem_frame_iff_of_contains (contained : canvas.Contains cell) :
    cell ∈ canvas.frame ↔ cell.x = 0 ∨ cell.x = canvas.width - 1 ∨ cell.y = 0 ∨
      cell.y = canvas.height - 1 := by
  rw [Canvas.mem_frame, and_iff_right contained.1, and_iff_right contained.2]
  omega

theorem pixels_lt_size (length : Float32) (maxEdge : UInt32) :
    pixels length (longestEdge maxEdge).toNat < UInt32.size :=
  Nat.lt_of_le_of_lt (pixels_le length (one_le_longestEdge maxEdge)) (UInt32.toNat_lt _)

theorem presents_pictureOf (tree : Tree) (node : NodeId) (data : Node) (maxEdge : UInt32)
    (grab : Point) {x y : Nat} (left : x < widthOf data.layout maxEdge)
    (top : y < heightOf data.layout maxEdge) :
    Presents ((pictureOf tree node data maxEdge grab).pixelAt x y)
      (if x = 0 ∨ x = widthOf data.layout maxEdge - 1 ∨ y = 0 ∨
          y = heightOf data.layout maxEdge - 1 then
        some (frameOf data.widget.background)
      else
        ((tree.subtree node).filterMap
          (tint? tree data.layout.position (scaleOf data.layout maxEdge) ⟨x, y⟩)).getLast?) := by
  have same := sameShape_backdrop tree node data.layout maxEdge
  have sized : (blankOf data.layout maxEdge).Sized := Canvas.sized_blank _ _
  have inside : (blankOf data.layout maxEdge).Contains ⟨x, y⟩ := ⟨left, top⟩
  have contained := (same.contains_iff ⟨x, y⟩).mpr inside
  have bordered := (same.sized sized).pixelAt_border
    (one_le_width_backdrop tree node data.layout maxEdge)
    (one_le_height_backdrop tree node data.layout maxEdge)
    (data.widget.background.darken borderDarkening) contained
  have framed := mem_frame_iff_of_contains contained
  rw [same.width_eq, same.height_eq] at framed
  have clear : (blankOf data.layout maxEdge).pixelAt ⟨x, y⟩ = ⟨0, 0, 0, 0⟩ :=
    Canvas.pixelAt_blank _ _ _
  have right := Nat.lt_of_le_of_lt left (pixels_lt_size _ maxEdge)
  have bottom := Nat.lt_of_le_of_lt top (pixels_lt_size _ maxEdge)
  have layered := pixelAt_foldl_paintNode sized inside right bottom tree data.layout.position
    (scaleOf data.layout maxEdge) (tree.subtree node)
  rw [← backdrop, clear] at layered
  rw [presents_iff, CursorImage.pixelAt_eq (same.trans (.border _ _)).width_eq rfl, bordered,
    darken_borderDarkening, layered, apply_ite (Option.map Colour.toPixel),
    apply_ite (Option.getD · _)]
  exact if_congr framed rfl rfl

/-- The frame shows the darkened background of the node, every other pixel the background of the
last node that covers it, each node coming before those below it. -/
theorem pixelAt_render (reachable : Tree.Evolves .empty tree)
    (rendered : render tree node maxEdge grab = some image) :
    ∃ data order, tree.get? node = some data ∧ tree.DepthFirst [node] order ∧
      ∀ x y, x < image.width → y < image.height →
        Presents (image.pixelAt x y)
          (if x = 0 ∨ x = image.width - 1 ∨ y = 0 ∨ y = image.height - 1 then
            some (frameOf data.widget.background)
          else
            let longest := larger data.layout.width data.layout.height
            let scale := smaller ((longestEdge maxEdge).toFloat32 / longest) 1
            (order.filterMap (tint? tree data.layout.position scale ⟨x, y⟩)).getLast?) := by
  obtain ⟨data, found, _, rfl⟩ := render_eq_some_iff.mp rendered
  have wellFormed := reachable.wellFormed Tree.wellFormed_empty
  exact ⟨data, tree.subtree node, found, wellFormed.depthFirst_subtree node,
    fun _ _ => presents_pictureOf tree node data maxEdge grab⟩

/-- A tile on a board, a translucent one that hangs over the tile and over the edge of the board,
and a pane of glass in front. -/
def stackedTiles : Tree :=
  .edit .empty
    [.add (.panel "board" (.ofPixel ⟨200, 100, 40, 255⟩)) ⟨10, 20, 16, 12⟩,
      .add (.panel "tile" (.ofPixel ⟨10, 20, 30, 255⟩)) ⟨12, 22, 6, 6⟩,
      .add (.panel "veil" (.ofPixel ⟨0, 250, 0, 128⟩)) ⟨15, 24, 40, 5⟩,
      .add (.panel "glass" ⟨1, 1, 1, 0⟩) ⟨10, 20, 16, 12⟩, .addChild ⟨0⟩ ⟨1⟩, .addChild ⟨1⟩ ⟨2⟩,
      .addChild ⟨0⟩ ⟨3⟩]

/-- The frame, the board beneath the glass, the tile on it, and the veil over the tile. -/
theorem pixelAt_stackedTiles :
    ∃ image, render stackedTiles ⟨0⟩ 8 .zero = some image ∧
      image.pixelAt 0 0 = ⟨130, 65, 26, 255⟩ ∧ image.pixelAt 5 1 = ⟨200, 100, 40, 255⟩ ∧
      image.pixelAt 1 1 = ⟨10, 20, 30, 255⟩ ∧ image.pixelAt 3 3 = ⟨0, 250, 0, 128⟩ := by
  have extent : (render stackedTiles ⟨0⟩ 8 .zero).map (fun image => (image.width, image.height)) =
      some (8, 6) := by decide +kernel
  obtain ⟨image, rendered, extent⟩ := Option.map_eq_some_iff.mp extent
  obtain ⟨width_eq, height_eq⟩ := Prod.mk.inj extent
  have reachable : Tree.Evolves .empty stackedTiles := ⟨_, rfl⟩
  obtain ⟨data, order, found, ordered, shown⟩ := pixelAt_render reachable rendered
  have wellFormed := reachable.wellFormed Tree.wellFormed_empty
  obtain rfl : order = [⟨0⟩, ⟨1⟩, ⟨2⟩, ⟨3⟩] :=
    (wellFormed.eq_subtree_of_depthFirst ordered).trans (by decide +kernel)
  have board : stackedTiles.get? ⟨0⟩ = some
      ⟨.panel "board" (.ofPixel ⟨200, 100, 40, 255⟩), ⟨10, 20, 16, 12⟩, none, [⟨1⟩, ⟨3⟩], none⟩ := by
    decide +kernel
  obtain rfl := Option.some.inj (board.symm.trans found)
  rw [width_eq, height_eq] at shown
  refine ⟨image, rendered, ?_, ?_, ?_, ?_⟩
  · exact (presents_iff.mp (shown 0 0 (by decide) (by decide))).trans (by decide +kernel)
  · exact (presents_iff.mp (shown 5 1 (by decide) (by decide))).trans (by decide +kernel)
  · exact (presents_iff.mp (shown 1 1 (by decide) (by decide))).trans (by decide +kernel)
  · exact (presents_iff.mp (shown 3 3 (by decide) (by decide))).trans (by decide +kernel)

end Docking.Snapshot

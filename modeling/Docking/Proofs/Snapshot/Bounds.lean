import Docking.Proofs.Snapshot.Painting

namespace Docking

/-! Painting under checks. A checked step has no result where a byte lies beyond the canvas, an
index exceeds the largest one, a length falls below zero or the bounds of a clamp are crossed.
Taking a picture passes all checks, wherever the nodes lie and whatever their colours are. -/

namespace Canvas

variable {canvas painted : Canvas} {limit : Nat}

def blank? (limit width height : Nat) : Option Canvas :=
  if width * height * 4 ≤ limit then some (blank width height) else none

def put? (limit : Nat) (pixel : Pixel) (canvas : Canvas) (cell : Cell) : Option Canvas :=
  if canvas.offset cell + 4 ≤ canvas.bytes.size ∧ canvas.offset cell + 4 ≤ limit then
    some (canvas.put pixel cell)
  else none

def paint? (limit : Nat) (canvas : Canvas) (pixel : Pixel) (cells : List Cell) : Option Canvas :=
  cells.foldlM (put? limit pixel) canvas

def fill? (limit : Nat) (canvas : Canvas) (position extent : Point) (colour : Colour) :
    Option Canvas :=
  if colour.alpha ≤ 0 then some canvas
  else canvas.paint? limit colour.toPixel (canvas.clip position extent).cells

/-- The last column and the last row are one less than the width and the height. -/
def border? (limit : Nat) (canvas : Canvas) (colour : Colour) : Option Canvas :=
  if 1 ≤ canvas.width ∧ 1 ≤ canvas.height then canvas.paint? limit colour.toPixel canvas.frame
  else none

structure Indexed (limit : Nat) (canvas : Canvas) : Prop where
  sized : canvas.Sized
  fits : canvas.bytes.size ≤ limit

theorem SameShape.indexed (same : SameShape canvas painted) (indexed : canvas.Indexed limit) :
    painted.Indexed limit :=
  ⟨same.sized indexed.sized, same.size_eq ▸ indexed.fits⟩

/-- A fold whose checks pass on every canvas of the same shape passes as a whole. -/
theorem SameShape.foldlM_eq_some {Item : Type} {step : Canvas → Item → Option Canvas}
    {sure : Canvas → Item → Canvas} {items : List Item}
    (kept : ∀ painted item, SameShape painted (sure painted item))
    (passes : ∀ painted, SameShape canvas painted →
      ∀ item ∈ items, step painted item = some (sure painted item)) :
    items.foldlM step canvas = some (items.foldl sure canvas) := by
  induction items generalizing canvas with
  | nil => rfl
  | cons item rest induction =>
      rw [List.foldlM_cons, passes canvas (.refl canvas) item List.mem_cons_self]
      exact induction fun painted same other listed =>
        passes painted ((kept canvas item).trans same) other (List.mem_cons_of_mem _ listed)

theorem indexed_blank {width height : Nat} (fits : width * height * 4 ≤ limit) :
    (blank width height).Indexed limit :=
  ⟨sized_blank width height, Nat.le_trans (Nat.le_of_eq (sized_blank width height)) fits⟩

namespace Indexed

variable (indexed : canvas.Indexed limit)
include indexed

theorem put?_eq_some {cell : Cell} (pixel : Pixel) (contained : canvas.Contains cell) :
    canvas.put? limit pixel cell = some (canvas.put pixel cell) :=
  have within := indexed.sized.offset_le contained
  if_pos ⟨within, Nat.le_trans within indexed.fits⟩

theorem paint?_eq_some {cells : List Cell} (pixel : Pixel)
    (contained : ∀ cell ∈ cells, canvas.Contains cell) :
    canvas.paint? limit pixel cells = some (canvas.paint pixel cells) := by
  refine SameShape.foldlM_eq_some (.put pixel) fun painted same cell listed => ?_
  exact (same.indexed indexed).put?_eq_some pixel
    ((same.contains_iff cell).mpr (contained cell listed))

theorem fill?_eq_some (position extent : Point) (colour : Colour) :
    canvas.fill? limit position extent colour = some (canvas.fill position extent colour) := by
  unfold fill? fill
  split
  · rfl
  · exact indexed.paint?_eq_some _ fun _ => contains_of_mem_clip

theorem border?_eq_some (wide : 1 ≤ canvas.width) (high : 1 ≤ canvas.height) (colour : Colour) :
    canvas.border? limit colour = some (canvas.border colour) := by
  rw [border?, if_pos ⟨wide, high⟩]
  exact indexed.paint?_eq_some _ fun _ => contains_of_mem_frame wide high

end Indexed
end Canvas

namespace Snapshot

variable {tree : Tree} {node : NodeId} {data : Node} {maxEdge : UInt32} {grab : Point}
  {image : CursorImage} {limit : Nat}

def longestEdge (maxEdge : UInt32) : UInt32 :=
  if maxEdge = 0 then 1 else maxEdge

def scaleOf (layout : Rect) (maxEdge : UInt32) : Float32 :=
  scaleFor (larger layout.width layout.height) (longestEdge maxEdge)

def widthOf (layout : Rect) (maxEdge : UInt32) : Nat :=
  pixels (layout.width * scaleOf layout maxEdge) (longestEdge maxEdge).toNat

def heightOf (layout : Rect) (maxEdge : UInt32) : Nat :=
  pixels (layout.height * scaleOf layout maxEdge) (longestEdge maxEdge).toNat

def blankOf (layout : Rect) (maxEdge : UInt32) : Canvas :=
  .blank (widthOf layout maxEdge) (heightOf layout maxEdge)

/-- The backgrounds of a node and its descendants, without the border. -/
def backdrop (tree : Tree) (node : NodeId) (layout : Rect) (maxEdge : UInt32) : Canvas :=
  (tree.subtree node).foldl (paintNode tree layout.position (scaleOf layout maxEdge))
    (blankOf layout maxEdge)

def pictureOf (tree : Tree) (node : NodeId) (data : Node) (maxEdge : UInt32)
    (grab : Point) : CursorImage :=
  let layout := data.layout
  let colour := data.widget.background.darken borderDarkening
  { width := widthOf layout maxEdge
    height := heightOf layout maxEdge
    rgba := ((backdrop tree node layout maxEdge).border colour).bytes
    hotspot :=
      (hotspotWithin (grab.x * scaleOf layout maxEdge) (widthOf layout maxEdge),
        hotspotWithin (grab.y * scaleOf layout maxEdge) (heightOf layout maxEdge)) }

theorem render_eq_some_iff :
    render tree node maxEdge grab = some image ↔
      ∃ data, tree.get? node = some data ∧ ¬ larger data.layout.width data.layout.height ≤ 0 ∧
        pictureOf tree node data maxEdge grab = image := by
  unfold render
  cases found : tree.get? node with
  | none =>
      constructor
      · intro impossible
        cases impossible
      · rintro ⟨data, impossible, _⟩
        cases impossible
  | some data =>
      dsimp only
      split
      · next empty =>
          constructor
          · intro impossible
            cases impossible
          · rintro ⟨data, same, large, _⟩
            cases same
            exact absurd empty large
      · next large =>
          constructor
          · intro rendered
            exact ⟨data, rfl, large, Option.some.inj rendered⟩
          · rintro ⟨data, same, _, rfl⟩
            cases same
            rfl

theorem one_le_longestEdge (maxEdge : UInt32) : 1 ≤ (longestEdge maxEdge).toNat := by
  unfold longestEdge
  split
  · exact Nat.le_refl 1
  · next present =>
      exact Nat.one_le_iff_ne_zero.mpr fun absent => present (UInt32.toNat_inj.mp absent)

theorem longestEdge_le (maxEdge : UInt32) : (longestEdge maxEdge).toNat ≤ max maxEdge.toNat 1 := by
  unfold longestEdge
  split
  · exact Nat.le_max_right _ _
  · exact Nat.le_max_left _ _

theorem one_le_pixels (length : Float32) (edge : Nat) : 1 ≤ pixels length edge :=
  Nat.le_max_left _ _

theorem pixels_le (length : Float32) {edge : Nat} (present : 1 ≤ edge) :
    pixels length edge ≤ edge :=
  Nat.max_le.mpr ⟨present, Nat.min_le_right _ _⟩

theorem one_le_widthOf (layout : Rect) (maxEdge : UInt32) : 1 ≤ widthOf layout maxEdge :=
  one_le_pixels _ _

theorem one_le_heightOf (layout : Rect) (maxEdge : UInt32) : 1 ≤ heightOf layout maxEdge :=
  one_le_pixels _ _

theorem hotspotWithin_lt (coordinate : Float32) {length : Nat} (present : 1 ≤ length) :
    hotspotWithin coordinate length < length :=
  Nat.lt_of_le_of_lt (Nat.min_le_right _ _) (Nat.sub_one_lt_of_le present (Nat.le_refl _))

theorem sameShape_paintNode (tree : Tree) (origin : Point) (scale : Float32) (canvas : Canvas)
    (node : NodeId) : canvas.SameShape (paintNode tree origin scale canvas node) := by
  unfold paintNode
  split
  · exact .refl canvas
  · exact .fill canvas _ _ _

theorem sameShape_backdrop (tree : Tree) (node : NodeId) (layout : Rect) (maxEdge : UInt32) :
    (blankOf layout maxEdge).SameShape (backdrop tree node layout maxEdge) :=
  .foldl (sameShape_paintNode tree layout.position (scaleOf layout maxEdge)) _ _

theorem one_le_width_backdrop (tree : Tree) (node : NodeId) (layout : Rect) (maxEdge : UInt32) :
    1 ≤ (backdrop tree node layout maxEdge).width := by
  rw [(sameShape_backdrop tree node layout maxEdge).width_eq]
  exact one_le_widthOf layout maxEdge

theorem one_le_height_backdrop (tree : Tree) (node : NodeId) (layout : Rect) (maxEdge : UInt32) :
    1 ≤ (backdrop tree node layout maxEdge).height := by
  rw [(sameShape_backdrop tree node layout maxEdge).height_eq]
  exact one_le_heightOf layout maxEdge

structure WellShaped (maxEdge : UInt32) (image : CursorImage) : Prop where
  width_pos : 1 ≤ image.width
  height_pos : 1 ≤ image.height
  width_le : image.width ≤ max maxEdge.toNat 1
  height_le : image.height ≤ max maxEdge.toNat 1
  size_eq : image.rgba.size = image.width * image.height * 4
  hotspot_left : image.hotspot.1 < image.width
  hotspot_top : image.hotspot.2 < image.height

theorem wellShaped_pictureOf (tree : Tree) (node : NodeId) (data : Node) (maxEdge : UInt32)
    (grab : Point) : WellShaped maxEdge (pictureOf tree node data maxEdge grab) where
  width_pos := one_le_widthOf data.layout maxEdge
  height_pos := one_le_heightOf data.layout maxEdge
  width_le := Nat.le_trans (pixels_le _ (one_le_longestEdge maxEdge)) (longestEdge_le maxEdge)
  height_le := Nat.le_trans (pixels_le _ (one_le_longestEdge maxEdge)) (longestEdge_le maxEdge)
  size_eq := by
    have framed := Canvas.SameShape.border (backdrop tree node data.layout maxEdge)
      (data.widget.background.darken borderDarkening)
    have same := (sameShape_backdrop tree node data.layout maxEdge).trans framed
    exact same.size_eq.trans (Canvas.sized_blank _ _)
  hotspot_left := hotspotWithin_lt _ (one_le_widthOf data.layout maxEdge)
  hotspot_top := hotspotWithin_lt _ (one_le_heightOf data.layout maxEdge)

theorem wellShaped_of_render (rendered : render tree node maxEdge grab = some image) :
    WellShaped maxEdge image := by
  obtain ⟨data, _, _, rfl⟩ := render_eq_some_iff.mp rendered
  exact wellShaped_pictureOf tree node data maxEdge grab

def pixels? (length : Float32) (edge : Nat) : Option Nat :=
  if 1 ≤ edge then some (pixels length edge) else none

def hotspotWithin? (coordinate : Float32) (length : Nat) : Option Nat :=
  if 1 ≤ length then some (hotspotWithin coordinate length) else none

def paintNode? (limit : Nat) (tree : Tree) (origin : Point) (scale : Float32) (canvas : Canvas)
    (node : NodeId) : Option Canvas :=
  match tree.get? node with
  | none => some canvas
  | some data =>
      canvas.fill? limit ((data.layout.position - origin).scale scale)
        (data.layout.extent.scale scale) data.widget.background

/-- `limit` is the largest index. -/
def picture? (limit : Nat) (tree : Tree) (node : NodeId) (data : Node) (maxEdge : UInt32)
    (grab : Point) : Option CursorImage := do
  let layout := data.layout
  let scale := scaleOf layout maxEdge
  let edge := (longestEdge maxEdge).toNat
  let width ← pixels? (layout.width * scale) edge
  let height ← pixels? (layout.height * scale) edge
  let canvas ← Canvas.blank? limit width height
  let painted ←
    (tree.subtree node).foldlM (paintNode? limit tree layout.position scale) canvas
  let framed ← painted.border? limit (data.widget.background.darken borderDarkening)
  let left ← hotspotWithin? (grab.x * scale) width
  let top ← hotspotWithin? (grab.y * scale) height
  some { width, height, rgba := framed.bytes, hotspot := (left, top) }

/-- `render` with every step checked: no result at all is a failed check. -/
def render? (limit : Nat) (tree : Tree) (node : NodeId) (maxEdge : UInt32) (grab : Point) :
    Option (Option CursorImage) :=
  match tree.get? node with
  | none => some none
  | some data =>
      if larger data.layout.width data.layout.height ≤ 0 then some none
      else (picture? limit tree node data maxEdge grab).map some

theorem pixels?_eq_some (length : Float32) (maxEdge : UInt32) :
    pixels? length (longestEdge maxEdge).toNat =
      some (pixels length (longestEdge maxEdge).toNat) :=
  if_pos (one_le_longestEdge maxEdge)

theorem hotspotWithin?_eq_some (coordinate : Float32) {length : Nat} (present : 1 ≤ length) :
    hotspotWithin? coordinate length = some (hotspotWithin coordinate length) :=
  if_pos present

theorem paintNode?_eq_some {canvas : Canvas} (indexed : canvas.Indexed limit) (tree : Tree)
    (origin : Point) (scale : Float32) (node : NodeId) :
    paintNode? limit tree origin scale canvas node =
      some (paintNode tree origin scale canvas node) := by
  unfold paintNode? paintNode
  cases tree.get? node with
  | none => rfl
  | some data => exact indexed.fill?_eq_some _ _ _

theorem foldlM_paintNode?_eq_some {canvas : Canvas} (indexed : canvas.Indexed limit)
    (tree : Tree) (origin : Point) (scale : Float32) (order : List NodeId) :
    order.foldlM (paintNode? limit tree origin scale) canvas =
      some (order.foldl (paintNode tree origin scale) canvas) :=
  Canvas.SameShape.foldlM_eq_some (sameShape_paintNode tree origin scale) fun _ same node _ =>
    paintNode?_eq_some (same.indexed indexed) tree origin scale node

theorem picture?_eq_some
    (fits : widthOf data.layout maxEdge * heightOf data.layout maxEdge * 4 ≤ limit) :
    picture? limit tree node data maxEdge grab = some (pictureOf tree node data maxEdge grab) := by
  have width := pixels?_eq_some (data.layout.width * scaleOf data.layout maxEdge) maxEdge
  have height := pixels?_eq_some (data.layout.height * scaleOf data.layout maxEdge) maxEdge
  rw [← widthOf] at width
  rw [← heightOf] at height
  have blank : Canvas.blank? limit (widthOf data.layout maxEdge) (heightOf data.layout maxEdge) =
      some (blankOf data.layout maxEdge) := if_pos fits
  -- painting keeps the shape, so that every later check is one about the blank canvas
  have indexed : (blankOf data.layout maxEdge).Indexed limit := Canvas.indexed_blank fits
  have painted := foldlM_paintNode?_eq_some indexed tree data.layout.position
    (scaleOf data.layout maxEdge) (tree.subtree node)
  have same := sameShape_backdrop tree node data.layout maxEdge
  have framed := (same.indexed indexed).border?_eq_some
    (one_le_width_backdrop tree node data.layout maxEdge)
    (one_le_height_backdrop tree node data.layout maxEdge)
    (data.widget.background.darken borderDarkening)
  have left := hotspotWithin?_eq_some (grab.x * scaleOf data.layout maxEdge)
    (one_le_widthOf data.layout maxEdge)
  have top := hotspotWithin?_eq_some (grab.y * scaleOf data.layout maxEdge)
    (one_le_heightOf data.layout maxEdge)
  unfold backdrop at framed
  simp only [picture?, width, height, blank, painted, framed, left, top, Option.bind_eq_bind,
    Option.bind_some]
  rfl

/-- With an index for every byte of the picture all checks pass, and the picture has the shape
that it should have, whatever the numbers in the layouts and colours are. -/
theorem render?_eq_some_render
    (fits : ∀ image, render tree node maxEdge grab = some image →
      image.width * image.height * 4 ≤ limit) :
    render? limit tree node maxEdge grab = some (render tree node maxEdge grab) ∧
      ∀ image, render tree node maxEdge grab = some image → WellShaped maxEdge image := by
  refine ⟨?_, fun _ => wellShaped_of_render⟩
  unfold render?
  cases found : tree.get? node with
  | none => simp only [render, found]
  | some data =>
      dsimp only
      split
      · next empty => simp only [render, found, if_pos empty]
      · next large =>
          have rendered : render tree node maxEdge grab =
              some (pictureOf tree node data maxEdge grab) :=
            render_eq_some_iff.mpr ⟨data, found, large, rfl⟩
          have indexed := fits _ rendered
          dsimp only [pictureOf] at indexed
          rw [rendered, picture?_eq_some indexed, Option.map_some]

/-- Tiles that reach beyond the pictured node on all sides, one of them without a size. -/
def strayTiles : Tree :=
  .edit .empty
    [.add (.newPanel "board") ⟨10, 20, 40, 20⟩, .add (.newPanel "wide") ⟨-90, 25, 1 / 0, 900⟩,
      .add (.panel "lost" ⟨0 / 0, -1, 2, 1⟩) ⟨30, 0 / 0, 0 / 0, 10⟩, .addChild ⟨0⟩ ⟨1⟩,
      .addChild ⟨1⟩ ⟨2⟩]

theorem render?_strayTiles :
    (render strayTiles ⟨0⟩ 4 ⟨90, -5⟩).isSome = true ∧
      render? (UInt64.size - 1) strayTiles ⟨0⟩ 4 ⟨90, -5⟩ =
        some (render strayTiles ⟨0⟩ 4 ⟨90, -5⟩) ∧
      ∀ image, render strayTiles ⟨0⟩ 4 ⟨90, -5⟩ = some image → WellShaped 4 image := by
  refine ⟨by decide +kernel, render?_eq_some_render fun image rendered => ?_⟩
  have shaped := wellShaped_of_render rendered
  have small : max (4 : UInt32).toNat 1 = 4 := by decide
  have indexed : 4 * 4 * 4 ≤ UInt64.size - 1 := by decide
  have width_le := shaped.width_le
  have height_le := shaped.height_le
  rw [small] at width_le height_le
  have area := Nat.mul_le_mul width_le height_le
  omega

end Snapshot
end Docking

import Docking.Snapshot.Bands
import Docking.Snapshot.Render
import Mathlib.Data.List.Basic

namespace Docking

/-! What painting does to the pixels of a canvas: each cell within it has four bytes of its own,
so that a cell shows what it was painted with last, and nothing else changes. -/

namespace Region

def Covers (region : Region) (cell : Cell) : Prop :=
  (region.left ≤ cell.x ∧ cell.x < region.right) ∧ region.top ≤ cell.y ∧ cell.y < region.bottom

instance (region : Region) (cell : Cell) : Decidable (region.Covers cell) :=
  inferInstanceAs (Decidable (_ ∧ _))

end Region

namespace Canvas

variable {canvas : Canvas} {cell other : Cell} {cells : List Cell} {pixel : Pixel}

def Sized (canvas : Canvas) : Prop :=
  canvas.bytes.size = canvas.width * canvas.height * 4

def Contains (canvas : Canvas) (cell : Cell) : Prop :=
  cell.x < canvas.width ∧ cell.y < canvas.height

def pixelAt (canvas : Canvas) (cell : Cell) : Pixel :=
  let start := canvas.offset cell
  ⟨canvas.bytes.getD start 0, canvas.bytes.getD (start + 1) 0,
    canvas.bytes.getD (start + 2) 0, canvas.bytes.getD (start + 3) 0⟩

structure SameShape (before after : Canvas) : Prop where
  width_eq : after.width = before.width
  height_eq : after.height = before.height
  size_eq : after.bytes.size = before.bytes.size

namespace SameShape

variable {before middle after : Canvas}

theorem refl (canvas : Canvas) : SameShape canvas canvas :=
  ⟨rfl, rfl, rfl⟩

theorem trans (first : SameShape before middle) (second : SameShape middle after) :
    SameShape before after where
  width_eq := second.width_eq.trans first.width_eq
  height_eq := second.height_eq.trans first.height_eq
  size_eq := second.size_eq.trans first.size_eq

theorem sized (same : SameShape before after) (sized : before.Sized) : after.Sized := by
  rw [Sized, same.size_eq, same.width_eq, same.height_eq]
  exact sized

theorem contains_iff (same : SameShape before after) (cell : Cell) :
    after.Contains cell ↔ before.Contains cell := by
  rw [Contains, same.width_eq, same.height_eq, Contains]

theorem put (pixel : Pixel) (canvas : Canvas) (cell : Cell) :
    SameShape canvas (canvas.put pixel cell) :=
  ⟨rfl, rfl, by simp only [Canvas.put, Array.size_setIfInBounds]⟩

theorem foldl {Item : Type} {step : Canvas → Item → Canvas}
    (kept : ∀ canvas item, SameShape canvas (step canvas item)) (canvas : Canvas)
    (items : List Item) : SameShape canvas (items.foldl step canvas) := by
  induction items generalizing canvas with
  | nil => exact .refl canvas
  | cons item rest induction => exact (kept canvas item).trans (induction _)

theorem paint (canvas : Canvas) (pixel : Pixel) (cells : List Cell) :
    SameShape canvas (canvas.paint pixel cells) :=
  .foldl (.put pixel) canvas cells

theorem fill (canvas : Canvas) (position extent : Point) (colour : Colour) :
    SameShape canvas (canvas.fill position extent colour) := by
  unfold Canvas.fill
  split
  · exact .refl canvas
  · exact .paint canvas _ _

theorem border (canvas : Canvas) (colour : Colour) : SameShape canvas (canvas.border colour) :=
  .paint canvas _ _

end SameShape

theorem sized_blank (width height : Nat) : (blank width height).Sized :=
  Array.size_replicate

theorem Sized.offset_le (sized : canvas.Sized) (contained : canvas.Contains cell) :
    canvas.offset cell + 4 ≤ canvas.bytes.size := by
  have rows : (cell.y + 1) * canvas.width ≤ canvas.height * canvas.width :=
    Nat.mul_le_mul_right _ contained.2
  have columns := contained.1
  rw [Nat.succ_mul, Nat.mul_comm canvas.height] at rows
  rw [sized, offset]
  omega

theorem offset_apart (contained : canvas.Contains cell) (contained' : canvas.Contains other)
    (different : other ≠ cell) :
    canvas.offset cell + 4 ≤ canvas.offset other ∨
      canvas.offset other + 4 ≤ canvas.offset cell := by
  have columns := contained.1
  have columns' := contained'.1
  have later {first second : Nat} (above : first < second) :
      first * canvas.width + canvas.width ≤ second * canvas.width := by
    rw [← Nat.succ_mul]
    exact Nat.mul_le_mul_right _ above
  unfold offset
  rcases Nat.lt_trichotomy cell.y other.y with above | same | below
  · have rows := later above
    omega
  · have apart : other.x ≠ cell.x := fun same_column =>
      different (by cases cell; cases other; cases same; cases same_column; rfl)
    rw [same]
    omega
  · have rows := later below
    omega

theorem getD_setIfInBounds_self {bytes : Array UInt8} {index : Nat} (inside : index < bytes.size)
    (value : UInt8) : (bytes.setIfInBounds index value).getD index 0 = value := by
  rw [Array.getD_eq_getD_getElem?, Array.getElem?_setIfInBounds_self_of_lt inside, Option.getD_some]

theorem getD_setIfInBounds_of_ne (bytes : Array UInt8) {place index : Nat} (apart : place ≠ index)
    (value : UInt8) : (bytes.setIfInBounds place value).getD index 0 = bytes.getD index 0 := by
  rw [Array.getD_eq_getD_getElem?, Array.getElem?_setIfInBounds_ne apart,
    Array.getD_eq_getD_getElem?]

theorem getD_put_of_apart (pixel : Pixel) (canvas : Canvas) {index : Nat}
    (apart : index < canvas.offset cell ∨ canvas.offset cell + 4 ≤ index) :
    (canvas.put pixel cell).bytes.getD index 0 = canvas.bytes.getD index 0 := by
  simp only [put]
  rw [getD_setIfInBounds_of_ne _ (by omega), getD_setIfInBounds_of_ne _ (by omega),
    getD_setIfInBounds_of_ne _ (by omega), getD_setIfInBounds_of_ne _ (by omega)]

theorem pixelAt_put_self (pixel : Pixel) (fits : canvas.offset cell + 4 ≤ canvas.bytes.size) :
    (canvas.put pixel cell).pixelAt cell = pixel := by
  have start_eq : (canvas.put pixel cell).offset cell = canvas.offset cell := rfl
  obtain ⟨red, green, blue, alpha⟩ := pixel
  simp only [pixelAt, start_eq]
  simp only [put, Pixel.mk.injEq]
  -- later bytes are written behind the one that is read
  refine ⟨?_, ?_, ?_, ?_⟩
  · rw [getD_setIfInBounds_of_ne _ (by omega), getD_setIfInBounds_of_ne _ (by omega),
      getD_setIfInBounds_of_ne _ (by omega), getD_setIfInBounds_self (by omega)]
  · rw [getD_setIfInBounds_of_ne _ (by omega), getD_setIfInBounds_of_ne _ (by omega),
      getD_setIfInBounds_self (by simp only [Array.size_setIfInBounds]; omega)]
  · rw [getD_setIfInBounds_of_ne _ (by omega),
      getD_setIfInBounds_self (by simp only [Array.size_setIfInBounds]; omega)]
  · rw [getD_setIfInBounds_self (by simp only [Array.size_setIfInBounds]; omega)]

theorem pixelAt_put_of_ne (pixel : Pixel) (painted : canvas.Contains cell)
    (contained : canvas.Contains other) (different : other ≠ cell) :
    (canvas.put pixel cell).pixelAt other = canvas.pixelAt other := by
  have apart := offset_apart painted contained different
  have start_eq : (canvas.put pixel cell).offset other = canvas.offset other := rfl
  simp only [pixelAt, start_eq]
  rw [getD_put_of_apart pixel canvas (by omega), getD_put_of_apart pixel canvas (by omega),
    getD_put_of_apart pixel canvas (by omega), getD_put_of_apart pixel canvas (by omega)]

/-- A painted cell shows the pixel, and all others what they showed before. -/
theorem Sized.pixelAt_paint (sized : canvas.Sized) (pixel : Pixel)
    (painted : ∀ cell ∈ cells, canvas.Contains cell) (contained : canvas.Contains cell) :
    (canvas.paint pixel cells).pixelAt cell =
      if cell ∈ cells then pixel else canvas.pixelAt cell := by
  induction cells generalizing canvas with
  | nil => rfl
  | cons first rest induction =>
      have same := SameShape.put pixel canvas first
      have covered := painted first List.mem_cons_self
      rw [paint, List.foldl_cons, ← paint, induction (same.sized sized)
        (fun other listed => (same.contains_iff other).mpr
          (painted other (List.mem_cons_of_mem _ listed))) ((same.contains_iff cell).mpr contained)]
      -- what is painted later wins, so the rest is asked before the first cell
      by_cases later : cell ∈ rest
      · rw [if_pos later, if_pos (List.mem_cons_of_mem _ later)]
      · rw [if_neg later]
        by_cases here : cell = first
        · subst here
          rw [if_pos List.mem_cons_self, pixelAt_put_self pixel (sized.offset_le contained)]
        · rw [if_neg (List.not_mem_cons_of_ne_of_not_mem here later),
            pixelAt_put_of_ne pixel covered contained here]

theorem pixelAt_blank (width height : Nat) (cell : Cell) :
    (blank width height).pixelAt cell = ⟨0, 0, 0, 0⟩ := by
  have byte (index : Nat) : (blank width height).bytes.getD index 0 = 0 := by
    rw [Array.getD_eq_getD_getElem?, blank, Array.getElem?_replicate]
    split <;> rfl
  simp only [pixelAt, byte]

theorem contains_of_mem_clip {position extent : Point}
    (listed : cell ∈ (canvas.clip position extent).cells) : canvas.Contains cell := by
  have covered := (Region.mem_cells _ cell).mp listed
  exact ⟨Nat.lt_of_lt_of_le covered.1.2 (Nat.min_le_right _ _),
    Nat.lt_of_lt_of_le covered.2.2 (Nat.min_le_right _ _)⟩

theorem mem_frame (canvas : Canvas) (cell : Cell) :
    cell ∈ canvas.frame ↔
      cell.x < canvas.width ∧ (cell.y = 0 ∨ cell.y = canvas.height - 1) ∨
        cell.y < canvas.height ∧ (cell.x = 0 ∨ cell.x = canvas.width - 1) := by
  obtain ⟨x, y⟩ := cell
  simp only [frame, List.mem_append, List.mem_flatMap, List.mem_range, List.mem_cons,
    List.not_mem_nil, or_false, Cell.mk.injEq]
  constructor
  · rintro (⟨column, inside, ⟨rfl, rfl⟩ | ⟨rfl, rfl⟩⟩ | ⟨row, inside, ⟨rfl, rfl⟩ | ⟨rfl, rfl⟩⟩)
    · exact .inl ⟨inside, .inl rfl⟩
    · exact .inl ⟨inside, .inr rfl⟩
    · exact .inr ⟨inside, .inl rfl⟩
    · exact .inr ⟨inside, .inr rfl⟩
  · rintro (⟨inside, edge⟩ | ⟨inside, edge⟩)
    · exact .inl ⟨x, inside, edge.imp (⟨rfl, ·⟩) (⟨rfl, ·⟩)⟩
    · exact .inr ⟨y, inside, edge.imp (⟨·, rfl⟩) (⟨·, rfl⟩)⟩

theorem contains_of_mem_frame (wide : 1 ≤ canvas.width) (high : 1 ≤ canvas.height)
    (listed : cell ∈ canvas.frame) : canvas.Contains cell := by
  have edge := (canvas.mem_frame cell).mp listed
  constructor <;> omega

theorem Sized.pixelAt_fill (sized : canvas.Sized) (position extent : Point) (colour : Colour)
    (contained : canvas.Contains cell) :
    (canvas.fill position extent colour).pixelAt cell =
      if ¬ colour.alpha ≤ 0 ∧ (canvas.clip position extent).Covers cell then colour.toPixel
      else canvas.pixelAt cell := by
  unfold fill
  split
  · next clear => rw [if_neg fun shown => shown.1 clear]
  · next opaque_ =>
      rw [sized.pixelAt_paint _ (fun _ => contains_of_mem_clip) contained]
      exact if_congr ((Region.mem_cells _ cell).trans (and_iff_right opaque_).symm) rfl rfl

theorem Sized.pixelAt_border (sized : canvas.Sized) (wide : 1 ≤ canvas.width)
    (high : 1 ≤ canvas.height) (colour : Colour) (contained : canvas.Contains cell) :
    (canvas.border colour).pixelAt cell =
      if cell ∈ canvas.frame then colour.toPixel else canvas.pixelAt cell :=
  sized.pixelAt_paint _ (fun _ => contains_of_mem_frame wide high) contained

end Canvas

theorem CursorImage.pixelAt_eq {image : CursorImage} {canvas : Canvas}
    (width_eq : canvas.width = image.width) (bytes_eq : canvas.bytes = image.rgba) (x y : Nat) :
    image.pixelAt x y = canvas.pixelAt ⟨x, y⟩ := by
  simp only [CursorImage.pixelAt, Canvas.pixelAt, Canvas.offset, width_eq, bytes_eq]

end Docking

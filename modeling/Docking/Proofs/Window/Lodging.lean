import Docking.Proofs.Window.Exchange
import Mathlib.Logic.Function.Basic

namespace Docking

/-! Who is lodged where. A dockable is lodged in its container while it is docked, and else
by itself, in a window if its carrier owns one. The registry, the tree and the windowing
system each keep a record of that. -/

structure Lodging where
  docked : Bool
  window : Option WindowId
deriving DecidableEq

/-- The tree bears out the registry. A dockable that is no longer in the tree was docked and
owns nothing. -/
def Lodging.Fits (lodging : Lodging) : Option Mooring → Prop
  | none => lodging.docked = true ∧ lodging.window = none
  | some mooring => mooring.window = lodging.window ∧ mooring.parent.isSome = lodging.docked

abbrev Lodgings := NodeId → Option Lodging

def Lodgings.window? (lodgings : Lodgings) (node : NodeId) : Option WindowId :=
  (lodgings node).bind Lodging.window

theorem Lodgings.window?_update (lodgings : Lodgings) (node : NodeId)
    (lodging : Option Lodging) (other : NodeId) :
    Lodgings.window? (Function.update lodgings node lodging) other =
      if other = node then lodging.bind Lodging.window else lodgings.window? other := by
  unfold Lodgings.window?
  rw [Function.update_apply]
  split <;> rfl

/-- What there was when docking set to work: the windows that are none of its own, and the
number up to which all are given out. -/
structure Survey where
  foreign : WindowId → Prop
  nextNumber : Nat

/-- The three records agree, but for the dockables that are adrift. Every window belongs to
one dockable, or is foreign. -/
structure House (survey : Survey) (adrift : NodeId → Prop) (lodgings : Lodgings)
    (scene : Scene) : Prop where
  wellFormed : scene.tree.WellFormed
  numbered : scene.desktop.Numbered
  hasWindow : ∀ node window, lodgings.window? node = some window →
    scene.desktop.hasWindow window = true
  distinct : ∀ first second window, lodgings.window? first = some window →
    lodgings.window? second = some window → first = second
  accounted : ∀ window, scene.desktop.hasWindow window = true →
    survey.foreign window ∨ ∃ node, lodgings.window? node = some window
  nextNumber_le : survey.nextNumber ≤ scene.desktop.nextNumber
  fits : ∀ node lodging, lodgings node = some lodging → ¬ adrift node →
    lodging.Fits (scene.tree.mooring? node)

namespace House

variable {survey : Survey} {adrift : NodeId → Prop} {lodgings : Lodgings}
  {scene : Scene}

theorem mono {more : NodeId → Prop} (house : House survey adrift lodgings scene)
    (excused : ∀ node, adrift node → more node) : House survey more lodgings scene :=
  { house with
    fits := fun node lodging lodged moored =>
      house.fits node lodging lodged fun drifts => moored (excused node drifts) }

theorem moor {node : NodeId} (house : House survey (· = node) lodgings scene)
    (fits : ∀ lodging, lodgings node = some lodging →
      lodging.Fits (scene.tree.mooring? node)) :
    House survey (fun _ => False) lodgings scene :=
  { house with
    fits := fun other lodging lodged _ => by
      by_cases same : other = node
      · subst same
        exact fits lodging lodged
      · exact house.fits other lodging lodged same }

variable (house : House survey adrift lodgings scene)
include house

theorem mooring?_of_free {node : NodeId} {lodging : Lodging}
    (lodged : lodgings node = some lodging) (moored : ¬ adrift node)
    (free : lodging.docked = false) :
    scene.tree.mooring? node = some ⟨none, lodging.window⟩ := by
  have fits := house.fits node lodging lodged moored
  cases found : scene.tree.mooring? node with
  | none =>
      rw [found] at fits
      exact absurd fits.1 (by rw [free]; exact Bool.false_ne_true)
  | some mooring =>
      rw [found] at fits
      obtain ⟨window_eq, parent_eq⟩ := fits
      obtain ⟨parent, window⟩ := mooring
      rw [free, Option.isSome_eq_false_iff, Option.isNone_iff_eq_none] at parent_eq
      cases window_eq
      cases parent_eq
      rfl

theorem docked_of_parent? {node parent : NodeId} {lodging : Lodging}
    (lodged : lodgings node = some lodging) (moored : ¬ adrift node)
    (linked : scene.tree.parent? node = some parent) :
    lodging.docked = true ∧ lodging.window = none := by
  have fits := house.fits node lodging lodged moored
  rw [Tree.parent?_eq_bind] at linked
  obtain ⟨mooring, found, parent_eq⟩ := Option.bind_eq_some_iff.mp linked
  rw [found] at fits
  refine ⟨?_, ?_⟩
  · rw [← fits.2, parent_eq]
    rfl
  · rw [← fits.1, Option.eq_none_iff_forall_ne_some]
    intro window shown
    have root := house.wellFormed.parent?_of_window node window (by
      rw [Tree.window?_eq_bind, found]
      exact shown)
    rw [Tree.parent?_eq_bind, found] at root
    exact Option.some_ne_none parent (parent_eq.symm.trans root)

omit house in
private theorem distinct_update {node : NodeId} {lodging : Option Lodging}
    (distinct : ∀ first second window, lodgings.window? first = some window →
      lodgings.window? second = some window → first = second)
    (unowned : ∀ other window, lodging.bind Lodging.window = some window →
      lodgings.window? other ≠ some window) (first second : NodeId) (window : WindowId)
    (firstOwns : Lodgings.window? (Function.update lodgings node lodging) first = some window)
    (secondOwns : Lodgings.window? (Function.update lodgings node lodging) second =
      some window) : first = second := by
  rw [Lodgings.window?_update] at firstOwns secondOwns
  split at firstOwns
  · next atFirst =>
      split at secondOwns
      · next atSecond => rw [atFirst, atSecond]
      · exact absurd secondOwns (unowned second window firstOwns)
  · split at secondOwns
    · exact absurd firstOwns (unowned first window secondOwns)
    · exact distinct first second window firstOwns secondOwns

theorem exchange {node : NodeId} {lodging : Option Lodging} {after : Scene}
    (exchange : Desktop.Exchange (lodgings.window? node) (lodging.bind Lodging.window)
      scene.desktop after.desktop)
    (wellFormed : after.tree.WellFormed)
    (elsewhere : ∀ other, other ≠ node →
      after.tree.mooring? other = scene.tree.mooring? other)
    (excused : lodging.isSome = true → adrift node) :
    House survey adrift (Function.update lodgings node lodging) after where
  wellFormed := wellFormed
  numbered := exchange.numbered house.numbered
  hasWindow other window owned := by
    rw [Lodgings.window?_update] at owned
    rw [exchange.hasWindow_iff]
    split at owned
    · exact .inl owned
    · next different =>
        refine .inr ⟨house.hasWindow other window owned, fun same => different ?_⟩
        exact house.distinct other node window owned same
  distinct := distinct_update house.distinct fun other window new owned =>
    Bool.false_ne_true ((exchange.not_hasWindow_new house.numbered new).symm.trans
      (house.hasWindow other window owned))
  accounted window present := by
    simp only [Lodgings.window?_update]
    rcases (exchange.hasWindow_iff window).mp present with new | ⟨earlier, kept⟩
    · exact .inr ⟨node, by rw [if_pos rfl]; exact new⟩
    · refine (house.accounted window earlier).imp_right ?_
      rintro ⟨owner, owned⟩
      refine ⟨owner, ?_⟩
      rw [if_neg fun same : owner = node => kept (same ▸ owned)]
      exact owned
  nextNumber_le := Nat.le_trans house.nextNumber_le exchange.nextNumber_le
  fits other known lodged moored := by
    rw [Function.update_apply] at lodged
    split at lodged
    · next same =>
        subst same
        exact absurd (excused (lodged ▸ rfl)) moored
    · next different =>
        rw [elsewhere other different]
        exact house.fits other known lodged moored

theorem rename {node : NodeId} {lodging : Lodging}
    (window_eq : lodgings.window? node = lodging.window) (drifts : adrift node) :
    House survey adrift (Function.update lodgings node (some lodging)) scene := by
  have owns (other : NodeId) :
      Lodgings.window? (Function.update lodgings node (some lodging)) other =
        lodgings.window? other := by
    rw [Lodgings.window?_update]
    split
    · next same => rw [same, window_eq, Option.bind_some]
    · rfl
  refine ⟨house.wellFormed, house.numbered, ?_, ?_, ?_, house.nextNumber_le, ?_⟩
  · intro other window owned
    rw [owns] at owned
    exact house.hasWindow other window owned
  · intro first second window
    rw [owns, owns]
    exact house.distinct first second window
  · intro window present
    simp only [owns]
    exact house.accounted window present
  · intro other known lodged moored
    rw [Function.update_apply] at lodged
    split at lodged
    · next same => exact absurd (same ▸ drifts) moored
    · exact house.fits other known lodged moored

theorem pass {old new : Option WindowId} {after : Scene}
    (exchange : Desktop.Exchange old new scene.desktop after.desktop)
    (unowned : ∀ node window, lodgings.window? node = some window → old ≠ some window)
    (strange : ∀ window, new = some window → survey.foreign window)
    (wellFormed : after.tree.WellFormed)
    (moorings : ∀ node lodging, lodgings node = some lodging → ¬ adrift node →
      after.tree.mooring? node = scene.tree.mooring? node) :
    House survey adrift lodgings after where
  wellFormed := wellFormed
  numbered := exchange.numbered house.numbered
  hasWindow node window owned := (exchange.hasWindow_iff window).mpr
    (.inr ⟨house.hasWindow node window owned, unowned node window owned⟩)
  distinct := house.distinct
  accounted window present := by
    rcases (exchange.hasWindow_iff window).mp present with opened | ⟨earlier, _⟩
    · exact .inl (strange window opened)
    · exact house.accounted window earlier
  nextNumber_le := Nat.le_trans house.nextNumber_le exchange.nextNumber_le
  fits node lodging lodged moored := by
    rw [moorings node lodging lodged moored]
    exact house.fits node lodging lodged moored

theorem request {desktop : Desktop}
    (exchange : Desktop.Exchange none none scene.desktop desktop) :
    House survey adrift lodgings { scene with desktop } :=
  house.pass exchange (fun _ _ _ closed => nomatch closed) (fun _ opened => nomatch opened)
    house.wellFormed fun _ _ _ _ => rfl

theorem relink {tree : Tree} (wellFormed : tree.WellFormed)
    (moorings : ∀ node lodging, lodgings node = some lodging → ¬ adrift node →
      tree.mooring? node = scene.tree.mooring? node) :
    House survey adrift lodgings { scene with tree } :=
  house.pass (.refl _) (fun _ _ _ closed => nomatch closed) (fun _ opened => nomatch opened)
    wellFormed moorings

theorem sameLinks {tree : Tree} (same : Tree.SameLinks scene.tree tree) :
    House survey adrift lodgings { scene with tree } :=
  house.relink (same.wellFormed house.wellFormed) fun node _ _ _ => same.mooring?_eq node

theorem destroy {node : NodeId} (excused : ∀ lodging, lodgings node = some lodging →
      adrift node ∨ (scene.tree.parent? node).isSome = true) :
    House survey adrift lodgings { scene with tree := (scene.tree.destroy node).1 } where
  wellFormed := house.wellFormed.destroy node
  numbered := house.numbered
  hasWindow := house.hasWindow
  distinct := house.distinct
  accounted := house.accounted
  nextNumber_le := house.nextNumber_le
  fits other lodging lodged moored := by
    dsimp only
    rw [house.wellFormed.mooring?_destroy]
    split
    · next removed =>
        -- below the node everything has a parent, the node itself is excused
        obtain ⟨parent, linked⟩ : ∃ parent, scene.tree.parent? other = some parent := by
          cases present : scene.tree.contains node with
          | false =>
              rw [Tree.destroy_of_not_contains present] at removed
              cases removed
          | true =>
              rcases (house.wellFormed.mem_destroy_iff present other).mp removed with
                rfl | above
              · exact Option.isSome_iff_exists.mp ((excused lodging lodged).resolve_left moored)
              · obtain ⟨parent, linked, _⟩ := above.cases_head
                exact ⟨parent, linked⟩
        exact house.docked_of_parent? lodged moored linked
    · exact house.fits other lodging lodged moored

end House
end Docking

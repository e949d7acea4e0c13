import Docking.Proofs.Tree.Evolution
import Docking.Target.Placement

namespace Docking.Tree

/-! When a node may be hung below another, and what the ready-made placements do to the
links. -/

namespace WellFormed

variable {tree : Tree} (wellFormed : tree.WellFormed)
include wellFormed

theorem mooring?_insertChild_of_ne {parent child other : NodeId} (index : Nat)
    (different : other ≠ child) :
    (tree.insertChild parent index child).mooring? other = tree.mooring? other := by
  by_cases admitted : tree.admits parent child = true
  · rw [wellFormed.mooring?_insertChild index admitted, if_neg different]
  · rw [insertChild_of_not_admits admitted]

theorem above_of_add {widget : Widget} {layout : Rect} {upper lower : NodeId}
    (above : (tree.add widget layout).Above upper lower) : tree.Above upper lower :=
  above.mono fun child _ linked => (wellFormed.parent?_add widget layout child).symm.trans linked

theorem not_above_nextId (lower : NodeId) : ¬ tree.Above tree.nextId lower :=
  fun above => Bool.false_ne_true
    (wellFormed.not_contains_nextId.symm.trans (wellFormed.contains_upper above))

theorem ne_nextId {node : NodeId} (present : tree.contains node = true) :
    node ≠ tree.nextId := by
  rintro rfl
  exact Bool.false_ne_true (wellFormed.not_contains_nextId.symm.trans present)

theorem admits_of_not_above {parent child : NodeId} (different : parent ≠ child)
    (parent_present : tree.contains parent = true) (child_present : tree.contains child = true)
    (beside : ¬ tree.Above child parent) : tree.admits parent child = true := by
  refine (tree.admits_iff parent child).mpr ⟨different, parent_present, child_present, ?_⟩
  rw [Bool.eq_false_iff]
  exact fun above => beside ((wellFormed.isAncestor_iff child parent).mp above)

theorem not_above_of_admits {parent child : NodeId}
    (admitted : tree.admits parent child = true) : ¬ tree.Above child parent := fun above =>
  Bool.false_ne_true (((tree.admits_iff parent child).mp admitted).2.2.2.symm.trans
    ((wellFormed.isAncestor_iff child parent).mpr above))

theorem admits_congr {after : Tree} (kept : after.WellFormed)
    (parent?_eq : ∀ node, after.parent? node = tree.parent? node)
    (contains_eq : ∀ node, after.contains node = tree.contains node) {parent child : NodeId}
    (admitted : tree.admits parent child = true) : after.admits parent child = true := by
  obtain ⟨different, parent_present, child_present, _⟩ :=
    (tree.admits_iff parent child).mp admitted
  refine kept.admits_of_not_above different ?_ ?_ fun above => ?_
  · rw [contains_eq, parent_present]
  · rw [contains_eq, child_present]
  · refine wellFormed.not_above_of_admits admitted (above.mono fun lower _ linked => ?_)
    rw [← parent?_eq lower]
    exact linked

theorem admits_detach {parent child : NodeId} (linked : tree.parent? child = some parent) :
    (tree.detach child).1.admits parent child = true := by
  have above := Above.of_parent? linked
  refine (wellFormed.detach child).admits_of_not_above (wellFormed.ne_of_above above) ?_ ?_ ?_
  · rw [wellFormed.contains_detach]
    exact wellFormed.contains_parent linked
  · rw [wellFormed.contains_detach]
    exact contains_of_parent? linked
  · exact fun below => wellFormed.acyclic parent (above.trans (wellFormed.above_of_detach below))

theorem indexOf?_of_parent? {parent child : NodeId}
    (linked : tree.parent? child = some parent) :
    ∃ index, tree.indexOf? child = some index := by
  have listed := (wellFormed.mem_children_iff parent child).mpr linked
  rw [indexOf?, linked, Option.bind_some]
  exact Option.isSome_iff_exists.mp (List.isSome_idxOf?.mpr listed)

theorem detach_snd_of_parent? {parent child : NodeId}
    (linked : tree.parent? child = some parent) :
    ∃ index, (tree.detach child).2 = some (parent, index) := by
  obtain ⟨index, indexed⟩ := wellFormed.indexOf?_of_parent? linked
  rw [indexOf?, linked, Option.bind_some] at indexed
  refine ⟨index, ?_⟩
  rw [detach_of_parent? linked, Tree.removeChild, indexed]
  rfl

section Removal

variable {node parent : NodeId} (linked : tree.parent? node = some parent)
include linked

theorem edit_removeLeavingBox :
    ∃ index rect, tree.edit (Placement.removeLeavingBox tree node) =
      ((tree.detach node).1.add .newTargetBox rect).insertChild parent index tree.nextId := by
  obtain ⟨index, indexed⟩ := wellFormed.indexOf?_of_parent? linked
  refine ⟨index, (tree.layout? node).getD .zero, ?_⟩
  rw [Placement.removeLeavingBox, linked, indexed]
  rfl

theorem mooring?_removeLeavingBox {other : NodeId} (known : other ≠ tree.nextId) :
    (tree.edit (Placement.removeLeavingBox tree node)).mooring? other =
      (tree.detach node).1.mooring? other := by
  obtain ⟨index, rect, edit_eq⟩ := wellFormed.edit_removeLeavingBox linked
  rw [edit_eq, ((wellFormed.detach node).add .newTargetBox rect).mooring?_insertChild_of_ne
    index known, mooring?_add, nextId_detach, if_neg known]

theorem admits_removeLeavingBox :
    (tree.edit (Placement.removeLeavingBox tree node)).admits parent node = true := by
  have detached := wellFormed.detach node
  have admitted := wellFormed.admits_detach linked
  have contains_eq (other : NodeId) (present : tree.contains other = true) :
      (tree.edit (Placement.removeLeavingBox tree node)).contains other = true := by
    rw [contains_eq_isSome, wellFormed.mooring?_removeLeavingBox linked
      (wellFormed.ne_nextId present), ← contains_eq_isSome, wellFormed.contains_detach]
    exact present
  obtain ⟨different, _⟩ := (admits_iff _ parent node).mp admitted
  refine (wellFormed.edit _).admits_of_not_above different
    (contains_eq parent (wellFormed.contains_parent linked))
    (contains_eq node (contains_of_parent? linked)) fun above => ?_
  obtain ⟨index, rect, edit_eq⟩ := wellFormed.edit_removeLeavingBox linked
  rw [edit_eq] at above
  -- the placeholder is a leaf, so no way up leads through it
  have added := detached.add .newTargetBox rect
  have beside : ¬ ((tree.detach node).1.add .newTargetBox rect).Above node parent :=
    fun above => detached.not_above_of_admits admitted (detached.above_of_add above)
  by_cases boxed : ((tree.detach node).1.add .newTargetBox rect).admits parent
      tree.nextId = true
  · rcases added.above_of_insertChild boxed above with above | ⟨_, box | below⟩
    · exact beside above
    · exact ((admits_iff _ parent tree.nextId).mp boxed).1 box
    · rw [← nextId_detach tree node] at below
      exact detached.not_above_nextId parent (detached.above_of_add below)
  · rw [insertChild_of_not_admits boxed] at above
    exact beside above

end Removal

theorem not_above_insertChild {node target parent : NodeId} (index : Nat)
    (root : tree.parent? node = none) (linked : tree.parent? target = some parent) :
    ¬ (tree.insertChild parent index node).Above target node := by
  intro above
  have inserted := wellFormed.insertChild parent index node
  have different : target ≠ node := by
    rintro rfl
    exact Option.some_ne_none parent (linked.symm.trans root)
  have stays : (tree.insertChild parent index node).parent? target = some parent := by
    rw [parent?_eq_bind, wellFormed.mooring?_insertChild_of_ne index different,
      ← parent?_eq_bind]
    exact linked
  obtain ⟨upper, upward, rest⟩ := above.cases_head
  by_cases admitted : tree.admits parent node = true
  · rw [wellFormed.parent?_insertChild index admitted, if_pos rfl] at upward
    cases upward
    rcases rest with rfl | rest
    · exact inserted.acyclic parent (.of_parent? stays)
    · exact inserted.acyclic target (rest.trans (.of_parent? stays))
  · rw [insertChild_of_not_admits admitted, root] at upward
    cases upward

end WellFormed
end Docking.Tree

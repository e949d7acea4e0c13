import Docking.Proofs.Tree.DepthFirst
import Docking.Proofs.Tree.Vacancy

namespace Docking.Tree

/-! Where the ready-made insertion leaves a node: in the slot of a placeholder, which goes with
what is left below it, or below any other target, behind the children that were there. -/

variable {tree : Tree} {node target parent : NodeId} {rect : Rect} {early late : List NodeId}

/-- The parent in whose row a target gives up its slot; only a placeholder does. -/
def yields? (tree : Tree) (target : NodeId) : Option NodeId :=
  if tree.isTargetBox target then tree.parent? target else none

/-- What is left of a subtree when a node is taken out with all that is below it. -/
def remnant (tree : Tree) (top node : NodeId) : List NodeId :=
  (tree.subtree top).filter fun other => !tree.within node other

/-- The node has the rectangle of the target and hangs below `parent` in the row `row`. The nodes
in `gone` are destroyed, in this order, and all other links are as they were, except that the node
has left the parent it had. -/
structure Berthed (before : Tree) (target node parent : NodeId) (row gone : List NodeId)
    (after : Tree) : Prop where
  layout?_eq : after.layout? node = before.layout? target
  mooring?_node : after.mooring? node = some ⟨some parent, none⟩
  children_parent : after.children parent = row
  destroyed_eq : after.destroyed = before.destroyed ++ gone
  mooring?_gone : ∀ other ∈ gone, after.mooring? other = none
  mooring?_eq : ∀ other, other ≠ node → other ∉ gone →
    after.mooring? other = before.mooring? other
  children_eq : ∀ other, other ≠ parent → other ∉ gone →
    after.children other = (before.children other).erase node

def BerthedAt (before : Tree) (target node : NodeId) (after : Tree) : Prop :=
  match before.yields? target with
  | some parent =>
      Berthed before target node parent
        (((before.children parent).erase node).replace target node)
        (before.remnant target node) after
  | none =>
      Berthed before target node target ((before.children target).erase node ++ [node]) [] after

theorem BerthedAt.berthed {before after : Tree} (berthedAt : BerthedAt before target node after) :
    ∃ row gone, Berthed before target node ((before.yields? target).getD target) row gone
      after := by
  unfold BerthedAt at berthedAt
  cases yielded : before.yields? target with
  | none =>
      rw [yielded] at berthedAt
      exact ⟨_, _, berthedAt⟩
  | some parent =>
      rw [yielded] at berthedAt
      exact ⟨_, _, berthedAt⟩

theorem erase_insertIdx_erase {row : List NodeId} (row_eq : row = early ++ target :: late)
    (nodup : row.Nodup) (different : node ≠ target) :
    ((row.erase node).insertIdx (min early.length (row.erase node).length) node).erase target =
      (row.erase node).replace target node := by
  subst row_eq
  have apart : target ∉ early := fun listed =>
    (List.nodup_append.mp nodup).2.2 target listed target List.mem_cons_self rfl
  by_cases first : node ∈ early
  · have still : target ∉ early.erase node := fun listed => apart (List.mem_of_mem_erase listed)
    have length_eq : early.length = (early.erase node ++ [target]).length := by
      have shorter := List.length_erase_of_mem first
      have positive := List.length_pos_of_mem first
      rw [List.length_append, List.length_singleton]
      omega
    have split_eq : early.erase node ++ target :: late =
        (early.erase node ++ [target]) ++ late := List.append_cons _ _ _
    rw [List.erase_append_left _ first, List.replace_append_right still, List.replace_cons_self,
      split_eq, length_eq, insertIdx_append, List.append_assoc, List.erase_append_right _ still]
    exact congrArg _ (List.erase_cons_head target _)
  · rw [List.erase_append_right _ first, List.erase_cons_tail (by simpa using different.symm),
      insertIdx_append, List.replace_append_right apart, List.replace_cons_self,
      List.erase_append_right _ apart, List.erase_cons_tail (by simpa using different),
      List.erase_cons_head]

namespace WellFormed

variable (wellFormed : tree.WellFormed)
include wellFormed

theorem filter_children_of_outside {other : NodeId} (outside : tree.within node other = false) :
    ((tree.children other).filter fun child => !tree.within node child) =
      (tree.children other).erase node := by
  rw [(wellFormed.children_nodup other).erase_eq_filter]
  refine List.filter_congr fun child listed => ?_
  have linked := (wellFormed.mem_children_iff other child).mp listed
  by_cases same : child = node
  · rw [same, bne_self_eq_false, (wellFormed.within_iff node node).mpr (.inl rfl)]
    rfl
  · rw [bne_iff_ne.mpr same, Bool.not_eq_true', Bool.eq_false_iff]
    intro within
    rcases (wellFormed.within_iff node child).mp within with here | above
    · exact same here
    · obtain ⟨upper, upward, rest⟩ := above.cases_head
      cases linked.symm.trans upward
      exact Bool.false_ne_true
        (outside.symm.trans ((wellFormed.within_iff node other).mpr rest))

theorem admits_of_parent? (linked : tree.parent? node = some parent) :
    tree.admits parent node = true := by
  have above := Above.of_parent? linked
  exact wellFormed.admits_of_not_above (wellFormed.ne_of_above above)
    (wellFormed.contains_parent linked) (contains_of_parent? linked)
    fun below => wellFormed.acyclic parent (above.trans below)

end WellFormed

theorem WellFormed.berthed_beneath (wellFormed : tree.WellFormed)
    (placed : tree.layout? target = some rect) (admitted : tree.admits target node = true) :
    Berthed tree target node target ((tree.children target).erase node ++ [node]) []
      ((tree.addChild target node).place node rect) where
  layout?_eq := (wellFormed.layout?_hang _ admitted rect).trans placed.symm
  mooring?_node := (wellFormed.mooring?_hang _ admitted rect node).trans (if_pos rfl)
  children_parent := by
    rw [addChild, wellFormed.children_hang _ admitted, if_pos rfl,
      Nat.min_eq_right List.length_erase_le, List.insertIdx_length_self]
  destroyed_eq := (tree.destroyed_hang target _ node rect).trans (List.append_nil _).symm
  mooring?_gone _ listed := nomatch listed
  mooring?_eq other different _ :=
    (wellFormed.mooring?_hang _ admitted rect other).trans (if_neg different)
  children_eq other apart _ :=
    (wellFormed.children_hang _ admitted rect other).trans (if_neg apart)

section Placeholder

variable (slot : tree.Slot target parent early late rect) (different : node ≠ target)
  (admitted : tree.admits parent node = true)
include slot different admitted

theorem Slot.not_above : ¬ tree.Above node target := by
  intro above
  obtain ⟨upper, upward, rest⟩ := above.cases_head
  cases slot.linked.symm.trans upward
  rcases rest with rfl | rest
  · exact ((tree.admits_iff parent parent).mp admitted).1 rfl
  · exact slot.wellFormed.not_above_of_admits admitted rest

theorem Slot.target_outside : tree.within node target = false := by
  rw [Bool.eq_false_iff]
  intro within
  rcases (slot.wellFormed.within_iff node target).mp within with same | above
  · exact different same.symm
  · exact slot.not_above different admitted above

omit different admitted in
theorem Slot.parent_not_mem_subtree : parent ∉ tree.subtree target :=
  slot.wellFormed.parent_not_mem_subtree slot.linked

omit different admitted in
theorem Slot.not_mem_children {other : NodeId} (apart : other ≠ parent) :
    target ∉ (tree.children other).erase node := fun listed =>
  apart (Option.some.inj (((slot.wellFormed.mem_children_iff other target).mp
    (List.mem_of_mem_erase listed)).symm.trans slot.linked))

theorem Slot.contains_hang :
    ((tree.insertChild parent early.length node).place node rect).contains target = true := by
  rw [contains_eq_isSome, slot.wellFormed.mooring?_hang _ admitted, if_neg different.symm,
    ← contains_eq_isSome]
  exact slot.present

theorem Slot.snd_destroy :
    (((tree.insertChild parent early.length node).place node rect).destroy target).2 =
      tree.remnant target node := by
  have sound := slot.wellFormed
  have hung := sound.hang parent early.length node rect
  have outside := slot.target_outside different admitted
  have pruned : (((tree.insertChild parent early.length node).place node rect).detach
      target).1.DepthFirst ([target].filter fun other => !tree.within node other)
        (tree.remnant target node) := by
    refine (sound.depthFirst_subtree target).prune (fun upper lower listed => ?_)
      fun other listed beyond => ?_
    · exact sound.within_of_parent? ((sound.mem_children_iff upper lower).mp listed)
    · have apart : other ≠ parent := fun same => slot.parent_not_mem_subtree (same ▸ listed)
      rw [hung.children_detach, sound.children_hang _ admitted, if_neg apart,
        List.erase_of_not_mem (slot.not_mem_children apart),
        sound.filter_children_of_outside beyond]
  rw [List.filter_cons_of_pos (by rw [outside]; rfl), List.filter_nil] at pruned
  rw [destroy_of_contains (slot.contains_hang different admitted)]
  exact ((hung.detach target).eq_subtree_of_depthFirst pruned).symm

omit different admitted in
theorem Slot.node_not_mem_remnant : node ∉ tree.remnant target node := by
  intro listed
  have outside := (List.mem_filter.mp listed).2
  rw [(slot.wellFormed.within_iff node node).mpr (.inl rfl)] at outside
  cases outside

omit different admitted in
theorem Slot.parent_not_mem_remnant : parent ∉ tree.remnant target node := fun listed =>
  slot.parent_not_mem_subtree (List.mem_filter.mp listed).1

theorem Slot.berthed :
    Berthed tree target node parent (((tree.children parent).erase node).replace target node)
      (tree.remnant target node)
      (((tree.insertChild parent early.length node).place node rect).destroy target).1 := by
  have sound := slot.wellFormed
  have hung := sound.hang parent early.length node rect
  have known := slot.contains_hang different admitted
  have gone := slot.snd_destroy different admitted
  refine ⟨?_, ?_, ?_, ?_, fun other listed => ?_, fun other apart kept => ?_,
    fun other apart kept => ?_⟩
  · rw [layout?_eq_map, look?_destroy, if_neg (gone ▸ slot.node_not_mem_remnant), ← layout?_eq_map,
      sound.layout?_hang _ admitted, slot.layout?_eq]
  · rw [hung.mooring?_destroy, gone, if_neg slot.node_not_mem_remnant,
      sound.mooring?_hang _ admitted, if_pos rfl]
  · rw [hung.children_destroy, gone, if_neg slot.parent_not_mem_remnant, if_pos known,
      sound.children_hang _ admitted, if_pos rfl]
    exact erase_insertIdx_erase slot.children_eq (sound.children_nodup parent) different
  · rw [destroyed_destroy, gone, destroyed_hang]
  · rw [hung.mooring?_destroy, gone, if_pos listed]
  · rw [hung.mooring?_destroy, gone, if_neg kept, sound.mooring?_hang _ admitted, if_neg apart]
  · rw [hung.children_destroy, gone, if_neg kept, if_pos known, sound.children_hang _ admitted,
      if_neg apart, List.erase_of_not_mem (slot.not_mem_children apart)]

end Placeholder

theorem edit_insertAtTarget_of_unknown (unknown : tree.contains target = false) :
    tree.edit (Placement.insertAtTarget tree target node) = tree := by
  have unplaced : tree.layout? target = none := by
    rw [layout?, (contains_eq_false_iff tree target).mp unknown, Option.map_none]
  rw [Placement.insertAtTarget, unplaced]
  rfl

theorem edit_insertAtTarget_of_stays (stays : tree.yields? target = none)
    (placed : tree.layout? target = some rect) :
    tree.edit (Placement.insertAtTarget tree target node) =
      (tree.addChild target node).place node rect := by
  rw [Placement.insertAtTarget, placed]
  unfold yields? at stays
  cases box : tree.isTargetBox target with
  | false => rfl
  | true =>
      rw [box, if_pos rfl] at stays
      rw [stays]
      rfl

theorem WellFormed.edit_insertAtTarget_of_yields (wellFormed : tree.WellFormed)
    (yields : tree.yields? target = some parent) (placed : tree.layout? target = some rect)
    (node : NodeId) :
    ∃ early late, tree.Slot target parent early late rect ∧
      tree.edit (Placement.insertAtTarget tree target node) =
        (((tree.insertChild parent early.length node).place node rect).destroy target).1 := by
  unfold yields? at yields
  split at yields
  · next box =>
      obtain ⟨index, indexed⟩ := wellFormed.indexOf?_of_parent? yields
      have slot := wellFormed.slot yields indexed placed
      refine ⟨_, _, slot, ?_⟩
      rw [Placement.insertAtTarget, placed, box, yields, slot.indexOf?_eq]
      rfl
  · cases yields

theorem WellFormed.berthedAt_of_admits (wellFormed : tree.WellFormed)
    (known : tree.contains target = true) (different : node ≠ target)
    (admitted : tree.admits ((tree.yields? target).getD target) node = true) :
    BerthedAt tree target node (tree.edit (Placement.insertAtTarget tree target node)) := by
  obtain ⟨rect, placed⟩ := layout?_of_contains known
  unfold BerthedAt
  cases yielded : tree.yields? target with
  | none =>
      rw [yielded] at admitted
      rw [edit_insertAtTarget_of_stays yielded placed]
      exact wellFormed.berthed_beneath placed admitted
  | some parent =>
      rw [yielded] at admitted
      obtain ⟨early, late, slot, edit_eq⟩ :=
        wellFormed.edit_insertAtTarget_of_yields yielded placed node
      rw [edit_eq]
      exact slot.berthed different admitted

theorem parent?_of_yields? (yields : tree.yields? target = some parent) :
    tree.parent? target = some parent := by
  unfold yields? at yields
  split at yields
  · exact yields
  · cases yields

/-- A node that is neither the target nor above it docks there. -/
theorem berthedAt_insertAtTarget (wellFormed : tree.WellFormed)
    (known : tree.contains target = true) (present : tree.contains node = true)
    (different : node ≠ target) (beside : ¬ tree.Above node target) :
    BerthedAt tree target node (tree.edit (Placement.insertAtTarget tree target node)) := by
  refine wellFormed.berthedAt_of_admits known different ?_
  cases yielded : tree.yields? target with
  | none => exact wellFormed.admits_of_not_above different.symm known present beside
  | some parent =>
      have linked := parent?_of_yields? yielded
      refine wellFormed.admits_of_not_above ?_ (wellFormed.contains_parent linked) present ?_
      · rintro rfl
        exact beside (.of_parent? linked)
      · exact fun above => beside (above.trans (.of_parent? linked))

/-- A placeholder with a child of its own between two other nodes. -/
def crowdedRow : Tree :=
  empty.edit
    [.add (.newPanel "row") ⟨0, 0, 300, 100⟩, .add (.newPanel "tool") ⟨0, 0, 80, 40⟩,
      .add .newTargetBox ⟨100, 0, 100, 100⟩, .add (.newPanel "last") ⟨200, 0, 100, 100⟩,
      .add (.newPanel "inner") ⟨110, 10, 20, 20⟩, .addChild ⟨0⟩ ⟨1⟩, .addChild ⟨0⟩ ⟨2⟩,
      .addChild ⟨0⟩ ⟨3⟩, .addChild ⟨2⟩ ⟨4⟩]

theorem berthedAt_crowdedRow :
    let after := crowdedRow.edit (Placement.insertAtTarget crowdedRow ⟨2⟩ ⟨1⟩)
    BerthedAt crowdedRow ⟨2⟩ ⟨1⟩ after ∧ after.children ⟨0⟩ = [⟨1⟩, ⟨3⟩] ∧
      after.layout? ⟨1⟩ = some ⟨100, 0, 100, 100⟩ ∧ after.destroyed = [⟨2⟩, ⟨4⟩] := by
  have wellFormed : crowdedRow.WellFormed := wellFormed_empty.edit _
  refine ⟨?_, by decide +kernel, by decide +kernel, by decide +kernel⟩
  refine berthedAt_insertAtTarget wellFormed (by decide +kernel) (by decide +kernel) (by decide)
    fun above => ?_
  have found := (wellFormed.isAncestor_iff ⟨1⟩ ⟨2⟩).mpr above
  exact absurd found (by decide +kernel)

end Docking.Tree

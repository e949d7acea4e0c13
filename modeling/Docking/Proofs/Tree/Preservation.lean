import Docking.Proofs.Tree.Links

namespace Docking.Tree

/-! Every change of a tree keeps its links sound and brings no lost node back. -/

variable {tree : Tree}

theorem wellFormed_empty : empty.WellFormed where
  mem_children_iff _ _ := ⟨nofun, nofun⟩
  children_nodup _ := List.nodup_nil
  acyclic _ above := nomatch above.cases_head
  parent?_of_window _ _ shown := nomatch shown
  index_lt _ present := nomatch present
  lost_of_destroyed _ member := nomatch member

theorem WellFormed.transfer {after : Tree} (wellFormed : tree.WellFormed)
    (contains_eq : ∀ node, after.contains node = tree.contains node)
    (parent?_eq : ∀ node, after.parent? node = tree.parent? node)
    (children_eq : ∀ node, after.children node = tree.children node)
    (parent?_of_window : ∀ node window,
      after.window? node = some window → tree.parent? node = none)
    (nextIndex_eq : after.nextIndex = tree.nextIndex)
    (destroyed_subset : after.destroyed ⊆ tree.destroyed) : after.WellFormed where
  mem_children_iff parent child := by
    rw [children_eq, parent?_eq]
    exact wellFormed.mem_children_iff parent child
  children_nodup parent := by
    rw [children_eq]
    exact wellFormed.children_nodup parent
  acyclic node above := wellFormed.acyclic node
    (above.mono fun child _ linked => (parent?_eq child).symm.trans linked)
  parent?_of_window node window shown := by
    rw [parent?_eq]
    exact parent?_of_window node window shown
  index_lt node present := by
    rw [nextIndex_eq]
    exact wellFormed.index_lt node ((contains_eq node).symm.trans present)
  lost_of_destroyed node member := by
    rw [Lost, nextIndex_eq, contains_eq]
    exact wellFormed.lost_of_destroyed node (destroyed_subset member)

structure SameLinks (before after : Tree) : Prop where
  mooring?_eq : ∀ node, after.mooring? node = before.mooring? node
  children_eq : ∀ node, after.children node = before.children node
  nextIndex_eq : after.nextIndex = before.nextIndex
  destroyed_eq : after.destroyed = before.destroyed

namespace SameLinks

variable {before middle after : Tree}

theorem refl (tree : Tree) : SameLinks tree tree :=
  ⟨fun _ => rfl, fun _ => rfl, rfl, rfl⟩

theorem trans (first : SameLinks before middle) (second : SameLinks middle after) :
    SameLinks before after where
  mooring?_eq node := (second.mooring?_eq node).trans (first.mooring?_eq node)
  children_eq node := (second.children_eq node).trans (first.children_eq node)
  nextIndex_eq := second.nextIndex_eq.trans first.nextIndex_eq
  destroyed_eq := second.destroyed_eq.trans first.destroyed_eq

theorem contains_eq (same : SameLinks before after) (node : NodeId) :
    after.contains node = before.contains node := by
  rw [contains_eq_isSome, same.mooring?_eq, contains_eq_isSome]

theorem parent?_eq (same : SameLinks before after) (node : NodeId) :
    after.parent? node = before.parent? node := by
  rw [parent?_eq_bind, same.mooring?_eq, parent?_eq_bind]

theorem window?_eq (same : SameLinks before after) (node : NodeId) :
    after.window? node = before.window? node := by
  rw [window?_eq_bind, same.mooring?_eq, window?_eq_bind]

theorem wellFormed (same : SameLinks before after) (wellFormed : before.WellFormed) :
    after.WellFormed :=
  wellFormed.transfer same.contains_eq same.parent?_eq same.children_eq
    (fun node window shown =>
      wellFormed.parent?_of_window node window ((same.window?_eq node).symm.trans shown))
    same.nextIndex_eq fun _ member => same.destroyed_eq ▸ member

theorem modify (tree : Tree) (node : NodeId) {change : Node → Node}
    (parent_eq : ∀ data, (change data).parent = data.parent)
    (children_eq : ∀ data, (change data).children = data.children)
    (window_eq : ∀ data, (change data).window = data.window) :
    SameLinks tree (tree.modify node change) :=
  ⟨tree.mooring?_modify_of_eq node parent_eq window_eq,
    tree.children_modify_of_eq node children_eq, rfl, rfl⟩

theorem setLabel (tree : Tree) (node : NodeId) (label : String) :
    SameLinks tree (tree.setLabel node label) :=
  modify tree node (fun _ => rfl) (fun _ => rfl) (fun _ => rfl)

theorem setBackground (tree : Tree) (node : NodeId) (background : Colour) :
    SameLinks tree (tree.setBackground node background) :=
  modify tree node (fun _ => rfl) (fun _ => rfl) (fun _ => rfl)

private theorem foldl_modify (nodes : List NodeId) {change : Node → Node} (tree : Tree)
    (parent_eq : ∀ data, (change data).parent = data.parent)
    (children_eq : ∀ data, (change data).children = data.children)
    (window_eq : ∀ data, (change data).window = data.window) :
    SameLinks tree (nodes.foldl (fun current node => current.modify node change) tree) := by
  induction nodes generalizing tree with
  | nil => exact refl tree
  | cons node rest induction =>
      exact (modify tree node parent_eq children_eq window_eq).trans (induction _)

theorem place (tree : Tree) (node : NodeId) (rect : Rect) :
    SameLinks tree (tree.place node rect) := by
  unfold Tree.place
  cases tree.layout? node with
  | none => exact refl tree
  | some old =>
      have placed : SameLinks tree (tree.modify node fun data =>
          { data with layout := rect }) :=
        modify tree node (fun _ => rfl) (fun _ => rfl) (fun _ => rfl)
      dsimp only
      split
      · exact placed
      · exact placed.trans (foldl_modify _ _ (fun _ => rfl) (fun _ => rfl) (fun _ => rfl))

end SameLinks

namespace WellFormed

variable (wellFormed : tree.WellFormed)
include wellFormed

theorem above_of_detach {node upper lower : NodeId}
    (above : (tree.detach node).1.Above upper lower) : tree.Above upper lower := by
  apply above.mono
  intro child parent linked
  rw [wellFormed.parent?_detach] at linked
  split at linked
  · cases linked
  · exact linked

theorem detach (node : NodeId) : (tree.detach node).1.WellFormed where
  mem_children_iff parent child := by
    rw [wellFormed.children_detach, wellFormed.parent?_detach,
      (wellFormed.children_nodup parent).mem_erase_iff, wellFormed.mem_children_iff]
    split
    · next same => simp [same]
    · next different => simp [different]
  children_nodup parent := by
    rw [wellFormed.children_detach]
    exact (wellFormed.children_nodup parent).erase node
  acyclic other above := wellFormed.acyclic other (wellFormed.above_of_detach above)
  parent?_of_window other window shown := by
    rw [wellFormed.window?_detach] at shown
    rw [wellFormed.parent?_detach, wellFormed.parent?_of_window other window shown, ite_self]
  index_lt other present := by
    rw [wellFormed.contains_detach] at present
    rw [nextIndex_detach]
    exact wellFormed.index_lt other present
  lost_of_destroyed other member := by
    rw [destroyed_detach] at member
    rw [Lost, nextIndex_detach, wellFormed.contains_detach]
    exact wellFormed.lost_of_destroyed other member

theorem removeChild (parent child : NodeId) :
    (tree.removeChild parent child).1.WellFormed := by
  by_cases member : child ∈ tree.children parent
  · have linked := (wellFormed.mem_children_iff parent child).mp member
    have detached := wellFormed.detach child
    rwa [detach_of_parent? linked] at detached
  · rw [Tree.removeChild, List.idxOf?_eq_none_iff.mpr member]
    exact wellFormed

theorem parent?_insertChild {parent child : NodeId} (index : Nat)
    (admitted : tree.admits parent child = true) (other : NodeId) :
    (tree.insertChild parent index child).parent? other =
      if other = child then some parent else tree.parent? other := by
  rw [parent?_eq_bind, wellFormed.mooring?_insertChild index admitted, parent?_eq_bind]
  split <;> rfl

theorem window?_insertChild {parent child : NodeId} (index : Nat)
    (admitted : tree.admits parent child = true) (other : NodeId) :
    (tree.insertChild parent index child).window? other =
      if other = child then none else tree.window? other := by
  rw [window?_eq_bind, wellFormed.mooring?_insertChild index admitted, window?_eq_bind]
  split <;> rfl

theorem contains_insertChild (parent child : NodeId) (index : Nat) (other : NodeId) :
    (tree.insertChild parent index child).contains other = tree.contains other := by
  by_cases admitted : tree.admits parent child = true
  · rw [contains_eq_isSome, wellFormed.mooring?_insertChild index admitted]
    split
    · next same =>
        rw [same, ((tree.admits_iff parent child).mp admitted).2.2.1, Option.isSome_some]
    · rw [contains_eq_isSome]
  · rw [insertChild_of_not_admits admitted]

/-- The tie makes `parent` and all above it lie above `child` and all below it, no more. -/
theorem above_of_insertChild {parent child upper lower : NodeId} {index : Nat}
    (admitted : tree.admits parent child = true)
    (above : (tree.insertChild parent index child).Above upper lower) :
    tree.Above upper lower ∨
      (upper = parent ∨ tree.Above upper parent) ∧
        (lower = child ∨ tree.Above child lower) := by
  induction above using Relation.TransGen.head_induction_on with
  | single linked =>
      rw [wellFormed.parent?_insertChild index admitted] at linked
      split at linked
      · next same => exact .inr ⟨.inl (Option.some.inj linked).symm, .inl same⟩
      · exact .inl (.of_parent? linked)
  | head linked _ rest =>
      rw [wellFormed.parent?_insertChild index admitted] at linked
      split at linked
      · next same =>
          cases linked
          exact .inr ⟨rest.elim .inr And.left, .inl same⟩
      · rcases rest with rest | ⟨higher, rfl | lower⟩
        · exact .inl (.head linked rest)
        · exact .inr ⟨higher, .inr (.of_parent? linked)⟩
        · exact .inr ⟨higher, .inr (.head linked lower)⟩

section Insertion

variable {parent child : NodeId} (index : Nat)
  (admitted : tree.admits parent child = true)
include admitted

private theorem mem_children_insertChild_iff (upper lower : NodeId) :
    lower ∈ (tree.insertChild parent index child).children upper ↔
      (tree.insertChild parent index child).parent? lower = some upper := by
  rw [wellFormed.children_insertChild index admitted,
    wellFormed.parent?_insertChild index admitted]
  have kept : lower ∈ (tree.children upper).erase child ↔
      lower ≠ child ∧ tree.parent? lower = some upper := by
    rw [(wellFormed.children_nodup upper).mem_erase_iff, wellFormed.mem_children_iff]
  split
  · next same =>
      subst same
      rw [List.mem_insertIdx (Nat.min_le_right _ _), kept]
      split
      · next same => simp [same]
      · next different => simp [different]
  · next apart =>
      rw [kept]
      split
      · next same => simp [same, Ne.symm apart]
      · next different => simp [different]

private theorem children_nodup_insertChild (upper : NodeId) :
    ((tree.insertChild parent index child).children upper).Nodup := by
  rw [wellFormed.children_insertChild index admitted]
  have kept := (wellFormed.children_nodup upper).erase child
  split
  · next same =>
      subst same
      rw [(List.perm_insertIdx child _ (Nat.min_le_right _ _)).nodup_iff]
      exact List.nodup_cons.mpr ⟨(wellFormed.children_nodup upper).not_mem_erase, kept⟩
  · exact kept

private theorem acyclic_insertChild (node : NodeId) :
    ¬ (tree.insertChild parent index child).Above node node := by
  obtain ⟨different, _, _, notAbove⟩ := (tree.admits_iff parent child).mp admitted
  have noCycle : ¬ tree.Above child parent := fun above =>
    Bool.false_ne_true (notAbove.symm.trans
      ((wellFormed.isAncestor_iff child parent).mpr above))
  intro above
  rcases wellFormed.above_of_insertChild admitted above with above | ⟨higher, lower⟩
  · exact wellFormed.acyclic node above
  · rcases higher with rfl | higher <;> rcases lower with rfl | lower
    · exact different rfl
    · exact noCycle lower
    · exact noCycle higher
    · exact noCycle (lower.trans higher)

end Insertion

theorem insertChild (parent : NodeId) (index : Nat) (child : NodeId) :
    (tree.insertChild parent index child).WellFormed := by
  by_cases admitted : tree.admits parent child = true
  · refine ⟨wellFormed.mem_children_insertChild_iff index admitted,
      wellFormed.children_nodup_insertChild index admitted,
      wellFormed.acyclic_insertChild index admitted, ?_, ?_, ?_⟩
    · intro node window shown
      rw [wellFormed.window?_insertChild index admitted] at shown
      rw [wellFormed.parent?_insertChild index admitted]
      split at shown
      · cases shown
      · next apart =>
          rw [if_neg apart]
          exact wellFormed.parent?_of_window node window shown
    · intro node present
      rw [wellFormed.contains_insertChild] at present
      rw [nextIndex_insertChild]
      exact wellFormed.index_lt node present
    · intro node member
      rw [destroyed_insertChild] at member
      rw [Lost, nextIndex_insertChild, wellFormed.contains_insertChild]
      exact wellFormed.lost_of_destroyed node member
  · rw [insertChild_of_not_admits admitted]
    exact wellFormed

theorem not_contains_nextId : tree.contains tree.nextId = false := by
  rw [Bool.eq_false_iff]
  exact fun present => Nat.lt_irrefl _ (wellFormed.index_lt tree.nextId present)

theorem parent?_add (widget : Widget) (layout : Rect) (other : NodeId) :
    (tree.add widget layout).parent? other = tree.parent? other := by
  rw [parent?_eq_bind, mooring?_add, parent?_eq_bind]
  split
  · next same =>
      rw [same, (tree.mooring?_eq_none_iff tree.nextId).mpr wellFormed.not_contains_nextId]
      rfl
  · rfl

theorem add (widget : Widget) (layout : Rect) : (tree.add widget layout).WellFormed where
  mem_children_iff parent child := by
    rw [children_add, wellFormed.parent?_add, ← wellFormed.mem_children_iff]
    split
    · next same =>
        rw [same, children_of_not_contains wellFormed.not_contains_nextId]
    · exact Iff.rfl
  children_nodup parent := by
    rw [children_add]
    split
    · exact List.nodup_nil
    · exact wellFormed.children_nodup parent
  acyclic node above := wellFormed.acyclic node
    (above.mono fun child _ linked => (wellFormed.parent?_add widget layout child).symm.trans
      linked)
  parent?_of_window node window shown := by
    rw [wellFormed.parent?_add]
    rw [window?_eq_bind, mooring?_add] at shown
    split at shown
    · cases shown
    · rw [← window?_eq_bind] at shown
      exact wellFormed.parent?_of_window node window shown
  index_lt node present := by
    rw [contains_eq_isSome, mooring?_add] at present
    split at present
    · next same => rw [same]; exact Nat.lt_succ_self _
    · rw [← contains_eq_isSome] at present
      exact Nat.lt_succ_of_lt (wellFormed.index_lt node present)
  lost_of_destroyed node member := by
    obtain ⟨below, absent⟩ := wellFormed.lost_of_destroyed node member
    refine ⟨Nat.lt_succ_of_lt below, ?_⟩
    rw [contains_eq_isSome, mooring?_add, if_neg, ← contains_eq_isSome]
    · exact absent
    · exact fun same => Nat.lt_irrefl _ (same ▸ below)

theorem forgetDestroyed : tree.forgetDestroyed.WellFormed :=
  wellFormed.transfer (fun _ => rfl) (fun _ => rfl) (fun _ => rfl)
    wellFormed.parent?_of_window rfl (List.nil_subset _)

theorem attachWindow (node : NodeId) (window : WindowId) :
    (tree.attachWindow node window).WellFormed := by
  apply wellFormed.transfer (tree.contains_attachWindow node window)
    (tree.parent?_attachWindow node window) (tree.children_attachWindow node window)
  · intro other shown found
    rw [window?_eq_bind, mooring?_attachWindow] at found
    split at found
    · next both => rw [both.1]; exact both.2
    · rw [← window?_eq_bind] at found
      exact wellFormed.parent?_of_window other shown found
  · exact tree.nextIndex_attachWindow node window
  · rw [destroyed_attachWindow]
    exact List.Subset.refl _

theorem detachWindow (node : NodeId) : (tree.detachWindow node).WellFormed := by
  apply wellFormed.transfer (tree.contains_detachWindow node)
    (tree.parent?_detachWindow node) (tree.children_detachWindow node)
  · intro other shown found
    rw [window?_eq_bind, mooring?_detachWindow] at found
    split at found
    · cases moored : tree.mooring? node with
      | none => rw [moored] at found; cases found
      | some mooring => rw [moored] at found; cases found
    · rw [← window?_eq_bind] at found
      exact wellFormed.parent?_of_window other shown found
  · rfl
  · exact List.Subset.refl _

end WellFormed
end Docking.Tree

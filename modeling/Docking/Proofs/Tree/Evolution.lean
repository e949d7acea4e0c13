import Docking.Proofs.Tree.Preservation

namespace Docking.Tree

/-! Removal of a node with everything below it, and what any number of public changes, in
any order, leaves true of a tree. -/

variable {tree : Tree}

theorem destroy_of_not_contains {node : NodeId} (absent : tree.contains node = false) :
    tree.destroy node = (tree, []) := by
  simp only [destroy, absent, Bool.false_eq_true, if_false]

theorem destroy_of_contains {node : NodeId} (present : tree.contains node = true) :
    tree.destroy node =
      ({ (tree.detach node).1 with
          nodes := ((tree.detach node).1.subtree node).foldl Table.erase
            (tree.detach node).1.nodes
          destroyed := tree.destroyed ++ (tree.detach node).1.subtree node },
        (tree.detach node).1.subtree node) := by
  simp only [destroy, present, if_true, destroyed_detach]

@[simp] theorem nextIndex_destroy (tree : Tree) (node : NodeId) :
    (tree.destroy node).1.nextIndex = tree.nextIndex := by
  unfold destroy
  split
  · exact tree.nextIndex_detach node
  · rfl

theorem destroyed_destroy (tree : Tree) (node : NodeId) :
    (tree.destroy node).1.destroyed = tree.destroyed ++ (tree.destroy node).2 := by
  unfold destroy
  split
  · exact congrArg (· ++ _) (tree.destroyed_detach node)
  · exact (List.append_nil _).symm

namespace WellFormed

variable (wellFormed : tree.WellFormed)
include wellFormed

theorem above_detach_iff (node lower : NodeId) :
    (tree.detach node).1.Above node lower ↔ tree.Above node lower := by
  refine ⟨wellFormed.above_of_detach, fun above => ?_⟩
  induction above using Relation.TransGen.head_induction_on with
  | single linked =>
      apply Above.of_parent?
      rw [wellFormed.parent?_detach, if_neg]
      · exact linked
      · exact (wellFormed.ne_of_above (.of_parent? linked)).symm
  | head linked rest above =>
      apply Above.head _ above
      rw [wellFormed.parent?_detach, if_neg]
      · exact linked
      · exact (wellFormed.ne_of_above (.head linked rest)).symm

theorem mem_destroy_iff {node : NodeId} (present : tree.contains node = true)
    (other : NodeId) :
    other ∈ (tree.destroy node).2 ↔ other = node ∨ tree.Above node other := by
  rw [destroy_of_contains present, subtree, List.mem_cons,
    (wellFormed.detach node).mem_descendants_iff, wellFormed.above_detach_iff]

theorem contains_of_mem_destroy {node other : NodeId}
    (member : other ∈ (tree.destroy node).2) : tree.contains other = true := by
  cases present : tree.contains node with
  | false => rw [destroy_of_not_contains present] at member; cases member
  | true =>
      rcases (wellFormed.mem_destroy_iff present other).mp member with rfl | above
      · exact present
      · exact above.contains_lower

theorem mooring?_destroy (node other : NodeId) :
    (tree.destroy node).1.mooring? other =
      if other ∈ (tree.destroy node).2 then none else tree.mooring? other := by
  cases present : tree.contains node with
  | false =>
      rw [destroy_of_not_contains present]
      rfl
  | true =>
      have listed : node ∈ (tree.destroy node).2 :=
        (wellFormed.mem_destroy_iff present node).mpr (.inl rfl)
      rw [destroy_of_contains present] at listed ⊢
      simp only [mooring?, get?, Table.get?_foldl_erase]
      split
      · rfl
      · next kept =>
          have moored := wellFormed.mooring?_detach node other
          rw [if_neg fun same : other = node => kept (same ▸ listed)] at moored
          exact moored

theorem parent?_destroy (node other : NodeId) :
    (tree.destroy node).1.parent? other =
      if other ∈ (tree.destroy node).2 then none else tree.parent? other := by
  rw [parent?_eq_bind, wellFormed.mooring?_destroy, parent?_eq_bind]
  split <;> rfl

theorem window?_destroy (node other : NodeId) :
    (tree.destroy node).1.window? other =
      if other ∈ (tree.destroy node).2 then none else tree.window? other := by
  rw [window?_eq_bind, wellFormed.mooring?_destroy, window?_eq_bind]
  split <;> rfl

theorem contains_destroy (node other : NodeId) :
    (tree.destroy node).1.contains other =
      if other ∈ (tree.destroy node).2 then false else tree.contains other := by
  rw [contains_eq_isSome, wellFormed.mooring?_destroy, contains_eq_isSome]
  split <;> rfl

theorem children_destroy (node other : NodeId) :
    (tree.destroy node).1.children other =
      if other ∈ (tree.destroy node).2 then []
      else if tree.contains node then (tree.children other).erase node
      else tree.children other := by
  cases present : tree.contains node with
  | false =>
      rw [destroy_of_not_contains present]
      rfl
  | true =>
      rw [destroy_of_contains present]
      simp only [children_eq_getD, get?, Table.get?_foldl_erase]
      split
      · rfl
      · have detached := wellFormed.children_detach node other
        rw [children_eq_getD, children_eq_getD] at detached
        exact detached

theorem mem_destroy_of_parent? {node child parent : NodeId}
    (linked : tree.parent? child = some parent)
    (member : parent ∈ (tree.destroy node).2) : child ∈ (tree.destroy node).2 := by
  cases present : tree.contains node with
  | false => rw [destroy_of_not_contains present] at member; cases member
  | true =>
      apply (wellFormed.mem_destroy_iff present child).mpr
      rcases (wellFormed.mem_destroy_iff present parent).mp member with rfl | above
      · exact .inr (.of_parent? linked)
      · exact .inr (.head linked above)

private theorem mem_children_destroy_iff {node : NodeId}
    (present : tree.contains node = true) (parent child : NodeId) :
    child ∈ (tree.destroy node).1.children parent ↔
      (tree.destroy node).1.parent? child = some parent := by
  rw [wellFormed.children_destroy, wellFormed.parent?_destroy, if_pos present]
  split
  · next gone =>
      refine ⟨fun member => (nomatch member), fun linked => ?_⟩
      split at linked
      · cases linked
      · next kept => exact absurd (wellFormed.mem_destroy_of_parent? linked gone) kept
  · next kept =>
      rw [(wellFormed.children_nodup parent).mem_erase_iff, wellFormed.mem_children_iff]
      constructor
      · rintro ⟨different, linked⟩
        rw [if_neg]
        · exact linked
        · intro gone
          rcases (wellFormed.mem_destroy_iff present child).mp gone with same | above
          · exact different same
          · obtain ⟨upper, upward, rest⟩ := above.cases_head
            rw [linked] at upward
            cases upward
            exact kept ((wellFormed.mem_destroy_iff present parent).mpr rest)
      · intro linked
        split at linked
        · cases linked
        · next here =>
            refine ⟨fun same => here ?_, linked⟩
            exact (wellFormed.mem_destroy_iff present child).mpr (.inl same)

theorem destroy (node : NodeId) : (tree.destroy node).1.WellFormed := by
  cases present : tree.contains node with
  | false =>
      rw [destroy_of_not_contains present]
      exact wellFormed
  | true =>
      refine ⟨wellFormed.mem_children_destroy_iff present, ?_, ?_, ?_, ?_, ?_⟩
      · intro parent
        rw [wellFormed.children_destroy, if_pos present]
        split
        · exact List.nodup_nil
        · exact (wellFormed.children_nodup parent).erase node
      · intro other above
        apply wellFormed.acyclic other
        apply above.mono
        intro child parent linked
        rw [wellFormed.parent?_destroy] at linked
        split at linked
        · cases linked
        · exact linked
      · intro other window shown
        rw [wellFormed.window?_destroy] at shown
        rw [wellFormed.parent?_destroy]
        split at shown
        · cases shown
        · next kept =>
            rw [if_neg kept]
            exact wellFormed.parent?_of_window other window shown
      · intro other here
        rw [wellFormed.contains_destroy] at here
        rw [nextIndex_destroy]
        split at here
        · cases here
        · exact wellFormed.index_lt other here
      · intro other member
        rw [destroyed_destroy, List.mem_append] at member
        rw [Lost, nextIndex_destroy, wellFormed.contains_destroy]
        rcases member with earlier | now
        · obtain ⟨below, absent⟩ := wellFormed.lost_of_destroyed other earlier
          rw [absent, ite_self]
          exact ⟨below, rfl⟩
        · rw [if_pos now]
          exact ⟨wellFormed.index_lt other (wellFormed.contains_of_mem_destroy now), rfl⟩

theorem apply (edit : Edit) : (tree.apply edit).WellFormed := by
  cases edit with
  | add widget layout => exact wellFormed.add widget layout
  | addChild parent child => exact wellFormed.insertChild parent _ child
  | insertChild parent index child => exact wellFormed.insertChild parent index child
  | removeChild parent child => exact wellFormed.removeChild parent child
  | detach node => exact wellFormed.detach node
  | place node rect => exact (SameLinks.place tree node rect).wellFormed wellFormed
  | attachWindow node window => exact wellFormed.attachWindow node window
  | detachWindow node => exact wellFormed.detachWindow node
  | destroy node => exact wellFormed.destroy node
  | forgetDestroyed => exact wellFormed.forgetDestroyed
  | setLabel node label => exact (SameLinks.setLabel tree node label).wellFormed wellFormed
  | setBackground node background =>
      exact (SameLinks.setBackground tree node background).wellFormed wellFormed

omit wellFormed in
theorem edit (wellFormed : tree.WellFormed) (edits : List Edit) :
    (tree.edit edits).WellFormed := by
  induction edits generalizing tree with
  | nil => exact wellFormed
  | cons first rest induction => exact induction (wellFormed.apply first)

/-- Nothing comes into being but by `add`. -/
theorem contains_apply {change : Edit} {node : NodeId}
    (present : (tree.apply change).contains node = true) :
    tree.contains node = true ∨ node = tree.nextId := by
  cases change with
  | add widget layout =>
      rw [Tree.apply, contains_eq_isSome, mooring?_add] at present
      split at present
      · next fresh => exact .inr fresh
      · exact .inl ((tree.contains_eq_isSome node).trans present)
  | addChild parent child =>
      exact .inl ((wellFormed.contains_insertChild parent child _ node).symm.trans present)
  | insertChild parent index child =>
      exact .inl ((wellFormed.contains_insertChild parent child index node).symm.trans present)
  | removeChild parent child =>
      exact .inl ((tree.contains_removeChild parent child node).symm.trans present)
  | detach other => exact .inl ((wellFormed.contains_detach other node).symm.trans present)
  | place other rect =>
      exact .inl (((SameLinks.place tree other rect).contains_eq node).symm.trans present)
  | attachWindow other window =>
      exact .inl ((tree.contains_attachWindow other window node).symm.trans present)
  | detachWindow other =>
      exact .inl ((tree.contains_detachWindow other node).symm.trans present)
  | destroy other =>
      rw [Tree.apply, wellFormed.contains_destroy] at present
      split at present
      · cases present
      · exact .inl present
  | forgetDestroyed => exact .inl present
  | setLabel other label =>
      exact .inl (((SameLinks.setLabel tree other label).contains_eq node).symm.trans present)
  | setBackground other background =>
      exact .inl
        (((SameLinks.setBackground tree other background).contains_eq node).symm.trans present)

end WellFormed

theorem nextIndex_le_apply (tree : Tree) (change : Edit) :
    tree.nextIndex ≤ (tree.apply change).nextIndex := by
  cases change with
  | add widget layout => exact Nat.le_succ _
  | addChild parent child =>
      exact Nat.le_of_eq (tree.nextIndex_insertChild parent _ child).symm
  | insertChild parent index child =>
      exact Nat.le_of_eq (tree.nextIndex_insertChild parent index child).symm
  | removeChild parent child =>
      exact Nat.le_of_eq (tree.nextIndex_removeChild parent child).symm
  | detach node => exact Nat.le_of_eq (tree.nextIndex_detach node).symm
  | place node rect => exact Nat.le_of_eq (SameLinks.place tree node rect).nextIndex_eq.symm
  | attachWindow node window =>
      exact Nat.le_of_eq (tree.nextIndex_attachWindow node window).symm
  | detachWindow node => exact Nat.le_refl _
  | destroy node => exact Nat.le_of_eq (tree.nextIndex_destroy node).symm
  | forgetDestroyed => exact Nat.le_refl _
  | setLabel node label => exact Nat.le_refl _
  | setBackground node background => exact Nat.le_refl _

theorem nextIndex_le_edit (tree : Tree) (edits : List Edit) :
    tree.nextIndex ≤ (tree.edit edits).nextIndex := by
  induction edits generalizing tree with
  | nil => exact Nat.le_refl _
  | cons first rest induction =>
      exact Nat.le_trans (tree.nextIndex_le_apply first) (induction _)

theorem WellFormed.lost_edit (wellFormed : tree.WellFormed) {node : NodeId}
    (lost : tree.Lost node) (edits : List Edit) : (tree.edit edits).Lost node := by
  induction edits generalizing tree with
  | nil => exact lost
  | cons first rest induction =>
      apply induction (wellFormed.apply first)
      refine ⟨Nat.lt_of_lt_of_le lost.1 (tree.nextIndex_le_apply first), ?_⟩
      rw [Bool.eq_false_iff]
      intro present
      rcases wellFormed.contains_apply present with present | fresh
      · exact Bool.false_ne_true (lost.2.symm.trans present)
      · exact Nat.lt_irrefl _ (fresh ▸ lost.1)

/-- `after` comes from `before` by public changes alone. -/
def Evolves (before after : Tree) : Prop :=
  ∃ edits, after = before.edit edits

namespace Evolves

variable {before middle after : Tree}

theorem refl (tree : Tree) : Evolves tree tree :=
  ⟨[], rfl⟩

theorem edit (tree : Tree) (edits : List Edit) : Evolves tree (tree.edit edits) :=
  ⟨edits, rfl⟩

theorem apply (tree : Tree) (change : Edit) : Evolves tree (tree.apply change) :=
  ⟨[change], rfl⟩

theorem trans (first : Evolves before middle) (second : Evolves middle after) :
    Evolves before after := by
  obtain ⟨early, rfl⟩ := first
  obtain ⟨late, rfl⟩ := second
  exact ⟨early ++ late, (before.edit_append early late).symm⟩

theorem wellFormed (evolves : Evolves before after) (wellFormed : before.WellFormed) :
    after.WellFormed := by
  obtain ⟨edits, rfl⟩ := evolves
  exact wellFormed.edit edits

theorem lost (evolves : Evolves before after) (wellFormed : before.WellFormed)
    {node : NodeId} (lost : before.Lost node) : after.Lost node := by
  obtain ⟨edits, rfl⟩ := evolves
  exact wellFormed.lost_edit lost edits

theorem nextIndex_le (evolves : Evolves before after) :
    before.nextIndex ≤ after.nextIndex := by
  obtain ⟨edits, rfl⟩ := evolves
  exact before.nextIndex_le_edit edits

end Evolves
end Docking.Tree

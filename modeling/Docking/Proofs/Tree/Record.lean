import Docking.Proofs.Tree.Evolution
import Docking.Target.Placement

namespace Docking.Tree

/-! What a tree can still account for: the nodes that are there, and those that are on its
record of destructions. Only who empties the record loses track of a node. -/

def Accounts (tree : Tree) (node : NodeId) : Prop :=
  tree.contains node = true ∨ node ∈ tree.destroyed

/-- Links stay sound, and no node goes unaccounted for. -/
structure Traces (before after : Tree) : Prop where
  wellFormed : before.WellFormed → after.WellFormed
  accounts : before.WellFormed → ∀ node, before.Accounts node → after.Accounts node

/-- Links stay sound, no node goes, and the record is as it was. -/
structure Retains (before after : Tree) : Prop where
  wellFormed : before.WellFormed → after.WellFormed
  contains : before.WellFormed → ∀ node,
    before.contains node = true → after.contains node = true
  destroyed_eq : after.destroyed = before.destroyed

variable {tree before middle after : Tree}

namespace Traces

theorem refl (tree : Tree) : Traces tree tree :=
  ⟨id, fun _ _ => id⟩

theorem trans (first : Traces before middle) (second : Traces middle after) :
    Traces before after where
  wellFormed wellFormed := second.wellFormed (first.wellFormed wellFormed)
  accounts wellFormed node accounted :=
    second.accounts (first.wellFormed wellFormed) node (first.accounts wellFormed node accounted)

end Traces

namespace Retains

theorem refl (tree : Tree) : Retains tree tree :=
  ⟨id, fun _ _ => id, rfl⟩

theorem trans (first : Retains before middle) (second : Retains middle after) :
    Retains before after where
  wellFormed wellFormed := second.wellFormed (first.wellFormed wellFormed)
  contains wellFormed node present :=
    second.contains (first.wellFormed wellFormed) node (first.contains wellFormed node present)
  destroyed_eq := second.destroyed_eq.trans first.destroyed_eq

theorem of_sameLinks (same : SameLinks before after) : Retains before after where
  wellFormed := same.wellFormed
  contains _ node present := (same.contains_eq node).trans present
  destroyed_eq := same.destroyed_eq

theorem traces (retains : Retains before after) : Traces before after where
  wellFormed := retains.wellFormed
  accounts wellFormed node accounted := by
    rcases accounted with present | recorded
    · exact .inl (retains.contains wellFormed node present)
    · exact .inr (retains.destroyed_eq ▸ recorded)

theorem add (tree : Tree) (widget : Widget) (layout : Rect) :
    Retains tree (tree.add widget layout) where
  wellFormed wellFormed := wellFormed.add widget layout
  contains _ node present := by
    rw [contains_eq_isSome, mooring?_add]
    split
    · rfl
    · rwa [← contains_eq_isSome]
  destroyed_eq := rfl

theorem insertChild (tree : Tree) (parent : NodeId) (index : Nat) (child : NodeId) :
    Retains tree (tree.insertChild parent index child) where
  wellFormed wellFormed := wellFormed.insertChild parent index child
  contains wellFormed node present := by rwa [wellFormed.contains_insertChild]
  destroyed_eq := tree.destroyed_insertChild parent index child

theorem detach (tree : Tree) (node : NodeId) : Retains tree (tree.detach node).1 where
  wellFormed wellFormed := wellFormed.detach node
  contains wellFormed other present := by rwa [wellFormed.contains_detach]
  destroyed_eq := tree.destroyed_detach node

theorem attachWindow (tree : Tree) (node : NodeId) (window : WindowId) :
    Retains tree (tree.attachWindow node window) where
  wellFormed wellFormed := wellFormed.attachWindow node window
  contains _ other present := by rwa [contains_attachWindow]
  destroyed_eq := tree.destroyed_attachWindow node window

theorem detachWindow (tree : Tree) (node : NodeId) : Retains tree (tree.detachWindow node) where
  wellFormed wellFormed := wellFormed.detachWindow node
  contains _ other present := by rwa [contains_detachWindow]
  destroyed_eq := rfl

end Retains

theorem traces_destroy (tree : Tree) (node : NodeId) : Traces tree (tree.destroy node).1 where
  wellFormed wellFormed := wellFormed.destroy node
  accounts wellFormed other accounted := by
    unfold Accounts
    rw [wellFormed.contains_destroy, destroyed_destroy, List.mem_append]
    by_cases gone : other ∈ (tree.destroy node).2
    · exact .inr (.inr gone)
    · rw [if_neg gone]
      exact accounted.imp_right .inl

theorem retains_apply (tree : Tree) {change : Edit} (keeps : change ≠ .forgetDestroyed)
    (spares : ∀ node, change ≠ .destroy node) : Retains tree (tree.apply change) := by
  cases change with
  | add widget layout => exact .add tree widget layout
  | addChild parent child => exact .insertChild tree parent _ child
  | insertChild parent index child => exact .insertChild tree parent index child
  | removeChild parent child =>
      exact ⟨fun wellFormed => wellFormed.removeChild parent child,
        fun _ node present => (tree.contains_removeChild parent child node).trans present,
        tree.destroyed_removeChild parent child⟩
  | detach node => exact .detach tree node
  | place node rect => exact .of_sameLinks (.place tree node rect)
  | attachWindow node window => exact .attachWindow tree node window
  | detachWindow node => exact .detachWindow tree node
  | destroy node => exact absurd rfl (spares node)
  | forgetDestroyed => exact absurd rfl keeps
  | setLabel node label => exact .of_sameLinks (.setLabel tree node label)
  | setBackground node background => exact .of_sameLinks (.setBackground tree node background)

theorem traces_apply (tree : Tree) {change : Edit} (keeps : change ≠ .forgetDestroyed) :
    Traces tree (tree.apply change) := by
  by_cases destroys : ∃ node, change = .destroy node
  · obtain ⟨node, rfl⟩ := destroys
    exact tree.traces_destroy node
  · exact (tree.retains_apply keeps fun node same => destroys ⟨node, same⟩).traces

theorem traces_edit (tree : Tree) {changes : List Edit} (keeps : .forgetDestroyed ∉ changes) :
    Traces tree (tree.edit changes) := by
  induction changes generalizing tree with
  | nil => exact .refl tree
  | cons change rest induction =>
      obtain ⟨first, others⟩ := List.ne_and_not_mem_of_not_mem_cons keeps
      exact (tree.traces_apply first.symm).trans (induction _ others)

theorem WellFormed.contains_edit (wellFormed : tree.WellFormed) {changes : List Edit}
    (spares : ∀ other, .destroy other ∉ changes) {node : NodeId}
    (present : tree.contains node = true) : (tree.edit changes).contains node = true := by
  induction changes generalizing tree with
  | nil => exact present
  | cons change rest induction =>
      refine induction (wellFormed.apply change)
        (fun other listed => spares other (List.mem_cons_of_mem _ listed)) ?_
      by_cases forgets : change = .forgetDestroyed
      · rw [forgets]
        exact present
      · exact (tree.retains_apply forgets fun other same =>
          spares other (same ▸ List.mem_cons_self)).contains wellFormed node present

theorem forgetDestroyed_not_mem_insertAtTarget (tree : Tree) (target node : NodeId) :
    .forgetDestroyed ∉ Placement.insertAtTarget tree target node := by
  unfold Placement.insertAtTarget
  split
  · simp
  · split <;> simp

theorem forgetDestroyed_not_mem_removeLeavingBox (tree : Tree) (node : NodeId) :
    .forgetDestroyed ∉ Placement.removeLeavingBox tree node := by
  unfold Placement.removeLeavingBox
  split <;> simp

end Docking.Tree

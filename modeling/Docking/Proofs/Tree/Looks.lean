import Docking.Proofs.Tree.Evolution
import Docking.Target.Placement

namespace Docking.Tree

/-! What the nodes of a tree look like. Only the setting of a label or a background changes the
widget of a node that is there. -/

theorem map_get?_modify_of_eq {Trait : Type} (tree : Tree) (node : NodeId) {change : Node → Node}
    {trait : Node → Trait} (same : ∀ data, trait (change data) = trait data) (other : NodeId) :
    ((tree.modify node change).get? other).map trait = (tree.get? other).map trait := by
  rw [get?_modify]
  split
  · next here =>
      rw [here, Option.map_map]
      exact congrFun (congrArg Option.map (funext same)) _
  · rfl

def look? (tree : Tree) (node : NodeId) : Option (Widget × Rect) :=
  (tree.get? node).map fun data => (data.widget, data.layout)

theorem layout?_eq_map (tree : Tree) (node : NodeId) :
    tree.layout? node = (tree.look? node).map Prod.snd := by
  rw [look?, Option.map_map]
  rfl

theorem widget?_eq_map (tree : Tree) (node : NodeId) :
    tree.widget? node = (tree.look? node).map Prod.fst := by
  rw [look?, Option.map_map]
  rfl

theorem isTargetBox_eq_any (tree : Tree) (node : NodeId) :
    tree.isTargetBox node = (tree.look? node).any fun look => look.1.isTargetBox := by
  unfold isTargetBox widget? look?
  cases tree.get? node <;> rfl

theorem look?_modify_of_eq (tree : Tree) (node : NodeId) {change : Node → Node}
    (same : ∀ data, ((change data).widget, (change data).layout) = (data.widget, data.layout))
    (other : NodeId) : (tree.modify node change).look? other = tree.look? other :=
  tree.map_get?_modify_of_eq node same other

theorem look?_removeChild (tree : Tree) (parent child other : NodeId) :
    (tree.removeChild parent child).1.look? other = tree.look? other := by
  unfold removeChild
  cases (tree.children parent).idxOf? child with
  | none => rfl
  | some index =>
      dsimp only
      rw [look?_modify_of_eq, look?_modify_of_eq]
      · exact fun _ => rfl
      · exact fun _ => rfl

theorem look?_detach (tree : Tree) (node other : NodeId) :
    (tree.detach node).1.look? other = tree.look? other := by
  unfold detach
  cases tree.parent? node with
  | none => rfl
  | some parent => exact tree.look?_removeChild parent node other

theorem look?_insertChild (tree : Tree) (parent : NodeId) (index : Nat) (child other : NodeId) :
    (tree.insertChild parent index child).look? other = tree.look? other := by
  unfold insertChild
  split
  · rw [look?_modify_of_eq, look?_modify_of_eq, look?_detach]
    · exact fun _ => rfl
    · exact fun _ => rfl
  · rfl

theorem look?_attachWindow (tree : Tree) (node : NodeId) (window : WindowId) (other : NodeId) :
    (tree.attachWindow node window).look? other = tree.look? other := by
  unfold attachWindow
  split
  · rfl
  · rw [look?_modify_of_eq]
    exact fun _ => rfl

theorem look?_detachWindow (tree : Tree) (node other : NodeId) :
    (tree.detachWindow node).look? other = tree.look? other := by
  rw [detachWindow, look?_modify_of_eq]
  exact fun _ => rfl

theorem look?_add (tree : Tree) (widget : Widget) (layout : Rect) (other : NodeId) :
    (tree.add widget layout).look? other =
      if other = tree.nextId then some (widget, layout) else tree.look? other := by
  simp only [look?, get?, add, Table.get?_insert]
  split <;> rfl

theorem look?_destroy (tree : Tree) (node other : NodeId) :
    (tree.destroy node).1.look? other =
      if other ∈ (tree.destroy node).2 then none else tree.look? other := by
  cases present : tree.contains node with
  | false => rw [destroy_of_not_contains present, if_neg List.not_mem_nil]
  | true =>
      rw [destroy_of_contains present, ← tree.look?_detach node other]
      simp only [look?, get?, Table.get?_foldl_erase]
      split <;> rfl

theorem widget?_of_look? {before after : Tree} {node : NodeId}
    (same : after.look? node = before.look? node) : after.widget? node = before.widget? node := by
  rw [widget?_eq_map, same, widget?_eq_map]

theorem widget?_add (tree : Tree) (widget : Widget) (layout : Rect) (other : NodeId) :
    (tree.add widget layout).widget? other =
      if other = tree.nextId then some widget else tree.widget? other := by
  rw [widget?_eq_map, look?_add, widget?_eq_map]
  split <;> rfl

theorem widget?_insertChild (tree : Tree) (parent : NodeId) (index : Nat) (child other : NodeId) :
    (tree.insertChild parent index child).widget? other = tree.widget? other :=
  widget?_of_look? (tree.look?_insertChild parent index child other)

theorem widget?_modify_of_eq (tree : Tree) (node : NodeId) {change : Node → Node}
    (same : ∀ data, (change data).widget = data.widget) (other : NodeId) :
    (tree.modify node change).widget? other = tree.widget? other :=
  tree.map_get?_modify_of_eq node same other

theorem widget?_place (tree : Tree) (node : NodeId) (rect : Rect) (other : NodeId) :
    (tree.place node rect).widget? other = tree.widget? other := by
  have carried (nodes : List NodeId) (offset : Point) (current : Tree) :
      (nodes.foldl (fun current node => current.modify node fun data =>
        { data with layout := data.layout.translate offset }) current).widget? other =
          current.widget? other := by
    induction nodes generalizing current with
    | nil => rfl
    | cons node rest induction =>
        rw [List.foldl_cons, induction, widget?_modify_of_eq]
        exact fun _ => rfl
  unfold place
  split
  · rfl
  · dsimp only
    split
    · rw [widget?_modify_of_eq]
      exact fun _ => rfl
    · rw [carried, widget?_modify_of_eq]
      exact fun _ => rfl

theorem widget?_retouch (tree : Tree) (node : NodeId) (change : Widget → Widget)
    (other : NodeId) :
    (tree.modify node fun data => { data with widget := change data.widget }).widget? other =
      if other = node then (tree.widget? other).map change else tree.widget? other := by
  rw [widget?, get?_modify, widget?]
  split
  · next here =>
      rw [here, Option.map_map, Option.map_map]
      rfl
  · rfl

def Edit.retouched? : Edit → Option NodeId
  | .setLabel node _ => some node
  | .setBackground node _ => some node
  | _ => none

/-- The change sets the label or the background of none of the nodes in question. -/
def Edit.Spares (change : Edit) (styled : NodeId → Prop) : Prop :=
  ∀ node, change.retouched? = some node → ¬ styled node

/-- The widgets in question are as they were, or gone. There may be new ones. -/
structure KeepsLooks (styled : NodeId → Prop) (before after : Tree) : Prop where
  nextIndex_le : before.nextIndex ≤ after.nextIndex
  widget?_eq : ∀ node, styled node → node.index < before.nextIndex →
    after.widget? node = none ∨ after.widget? node = before.widget? node

namespace KeepsLooks

variable {styled : NodeId → Prop} {before middle after : Tree}

theorem refl (tree : Tree) : KeepsLooks styled tree tree :=
  ⟨Nat.le_refl _, fun _ _ _ => .inr rfl⟩

theorem trans (first : KeepsLooks styled before middle) (second : KeepsLooks styled middle after) :
    KeepsLooks styled before after where
  nextIndex_le := Nat.le_trans first.nextIndex_le second.nextIndex_le
  widget?_eq node shown known := by
    rcases second.widget?_eq node shown (Nat.lt_of_lt_of_le known first.nextIndex_le) with
      gone | kept
    · exact .inl gone
    · exact (first.widget?_eq node shown known).imp kept.trans kept.trans

variable (tree : Tree)

theorem apply (change : Edit) (spares : change.Spares styled) :
    KeepsLooks styled tree (tree.apply change) where
  nextIndex_le := tree.nextIndex_le_apply change
  widget?_eq other shown known := by
    cases change with
    | add widget layout =>
        right
        rw [Tree.apply, widget?_add, if_neg]
        rintro rfl
        exact Nat.lt_irrefl _ known
    | addChild parent child => exact .inr (tree.widget?_insertChild parent _ child other)
    | insertChild parent index child =>
        exact .inr (tree.widget?_insertChild parent index child other)
    | removeChild parent child =>
        exact .inr (widget?_of_look? (tree.look?_removeChild parent child other))
    | detach node => exact .inr (widget?_of_look? (tree.look?_detach node other))
    | place node rect => exact .inr (tree.widget?_place node rect other)
    | attachWindow node window =>
        exact .inr (widget?_of_look? (tree.look?_attachWindow node window other))
    | detachWindow node => exact .inr (widget?_of_look? (tree.look?_detachWindow node other))
    | destroy node =>
        rw [Tree.apply, widget?_eq_map, look?_destroy]
        split
        · exact .inl rfl
        · exact .inr (tree.widget?_eq_map other).symm
    | forgetDestroyed => exact .inr rfl
    | setLabel node label =>
        right
        rw [Tree.apply, setLabel, widget?_retouch, if_neg]
        rintro rfl
        exact spares other rfl shown
    | setBackground node background =>
        right
        rw [Tree.apply, setBackground, widget?_retouch, if_neg]
        rintro rfl
        exact spares other rfl shown

theorem rearrange (change : Edit) (plain : change.retouched? = none) :
    KeepsLooks styled tree (tree.apply change) :=
  apply tree change fun _ retouches => nomatch plain.symm.trans retouches

theorem edit {changes : List Edit} (spares : ∀ change ∈ changes, change.Spares styled) :
    KeepsLooks styled tree (tree.edit changes) := by
  induction changes generalizing tree with
  | nil => exact refl tree
  | cons change rest induction =>
      obtain ⟨first, others⟩ := List.forall_mem_cons.mp spares
      exact (apply tree change first).trans (induction _ others)

end KeepsLooks

theorem spares_of_mem_insertAtTarget {styled : NodeId → Prop} {tree : Tree} {target node : NodeId}
    {change : Edit} (listed : change ∈ Placement.insertAtTarget tree target node) :
    change.Spares styled := by
  intro retouched retouches
  unfold Placement.insertAtTarget at listed
  split at listed
  · cases listed
  · split at listed
    · simp only [List.mem_cons, List.not_mem_nil, or_false] at listed
      rcases listed with rfl | rfl | rfl <;> cases retouches
    · simp only [List.mem_cons, List.not_mem_nil, or_false] at listed
      rcases listed with rfl | rfl <;> cases retouches

theorem spares_of_mem_removeLeavingBox {styled : NodeId → Prop} {tree : Tree} {node : NodeId}
    {change : Edit} (listed : change ∈ Placement.removeLeavingBox tree node) :
    change.Spares styled := by
  intro retouched retouches
  unfold Placement.removeLeavingBox at listed
  split at listed
  · simp only [List.mem_cons, List.not_mem_nil, or_false] at listed
    rcases listed with rfl | rfl | rfl <;> cases retouches
  · cases listed

end Docking.Tree

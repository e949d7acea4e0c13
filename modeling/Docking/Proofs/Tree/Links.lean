import Docking.Proofs.Tree.Order
import Mathlib.Data.List.Basic

namespace Docking

/-! What each change of a tree does to its links. The links of a node are its children and
its mooring: the parent, or the window that shows it. -/

/-- What holds a node from above. -/
structure Mooring where
  parent : Option NodeId
  window : Option WindowId
deriving DecidableEq

def Mooring.loosen (mooring : Mooring) : Mooring := { mooring with parent := none }

def Mooring.show (window : Option WindowId) (mooring : Mooring) : Mooring :=
  { mooring with window }

namespace Table

variable {Key : Type u} {Value : Type v} [DecidableEq Key]

theorem get?_foldl_erase (table : Table Key Value) (keys : List Key) (key : Key) :
    (keys.foldl erase table).get? key =
      if key ∈ keys then none else table.get? key := by
  induction keys generalizing table with
  | nil => rfl
  | cons head tail induction =>
      rw [List.foldl_cons, induction, get?_erase]
      by_cases same : key = head
      · simp [same]
      · simp [same]

theorem keys_foldl_erase (table : Table Key Value) (gone : List Key) :
    (gone.foldl erase table).keys = table.keys.filter (· ∉ gone) := by
  induction gone generalizing table with
  | nil => simp
  | cons key rest induction =>
      rw [List.foldl_cons, induction, keys_erase, List.filter_filter]
      congr 1
      funext other
      simp [Bool.and_comm]

end Table

namespace Tree

def mooring? (tree : Tree) (node : NodeId) : Option Mooring :=
  (tree.get? node).map fun data => ⟨data.parent, data.window⟩

variable {tree : Tree}

theorem contains_eq_isSome (tree : Tree) (node : NodeId) :
    tree.contains node = (tree.mooring? node).isSome := by
  simp only [contains, Table.contains, mooring?, get?, Option.isSome_map]

theorem parent?_eq_bind (tree : Tree) (node : NodeId) :
    tree.parent? node = (tree.mooring? node).bind Mooring.parent := by
  simp only [parent?, mooring?, Option.bind_map, Function.comp_def]

theorem window?_eq_bind (tree : Tree) (node : NodeId) :
    tree.window? node = (tree.mooring? node).bind Mooring.window := by
  simp only [window?, mooring?, Option.bind_map, Function.comp_def]

theorem mooring?_eq_none_iff (tree : Tree) (node : NodeId) :
    tree.mooring? node = none ↔ tree.contains node = false := by
  rw [contains_eq_isSome]
  cases tree.mooring? node <;> simp

theorem mooring?_modify (tree : Tree) (node : NodeId) {change : Node → Node}
    (moor : Mooring → Mooring)
    (moored : ∀ data, ⟨(change data).parent, (change data).window⟩ =
      moor ⟨data.parent, data.window⟩) (other : NodeId) :
    (tree.modify node change).mooring? other =
      if other = node then (tree.mooring? node).map moor else tree.mooring? other := by
  simp only [mooring?, get?_modify]
  split
  · simp only [Option.map_map, Function.comp_def, moored]
  · rfl

theorem mooring?_modify_of_eq (tree : Tree) (node : NodeId) {change : Node → Node}
    (parent_eq : ∀ data, (change data).parent = data.parent)
    (window_eq : ∀ data, (change data).window = data.window) (other : NodeId) :
    (tree.modify node change).mooring? other = tree.mooring? other := by
  rw [tree.mooring?_modify node id]
  · split
    · next same => rw [same, Option.map_id_fun, id]
    · rfl
  · intro data
    rw [parent_eq, window_eq, id]

theorem children_eq_getD (tree : Tree) (node : NodeId) :
    tree.children node = ((tree.get? node).map Node.children).getD [] := by
  unfold children
  cases tree.get? node <;> rfl

theorem children_modify (tree : Tree) (node : NodeId) (change : Node → Node)
    (other : NodeId) :
    (tree.modify node change).children other =
      if other = node then ((tree.get? node).map fun data => (change data).children).getD []
      else tree.children other := by
  simp only [children_eq_getD, get?_modify]
  split
  · rw [Option.map_map]
    rfl
  · rfl

theorem children_modify_of_eq (tree : Tree) (node : NodeId) {change : Node → Node}
    (children_eq : ∀ data, (change data).children = data.children) (other : NodeId) :
    (tree.modify node change).children other = tree.children other := by
  rw [children_modify]
  split
  · next same =>
      subst same
      simp only [children_eq, children_eq_getD]
  · rfl

theorem mooring?_removeChild (tree : Tree) (parent child other : NodeId) :
    (tree.removeChild parent child).1.mooring? other =
      if other = child ∧ child ∈ tree.children parent then
        (tree.mooring? child).map Mooring.loosen
      else tree.mooring? other := by
  unfold removeChild
  split
  · next absent =>
      rw [if_neg fun both => List.idxOf?_eq_none_iff.mp absent both.2]
  · next index found =>
      have member : child ∈ tree.children parent := by
        rw [← List.isSome_idxOf?, found]
        rfl
      have shortened (other : NodeId) : (tree.modify parent fun data =>
          { data with children := data.children.eraseIdx index }).mooring? other =
            tree.mooring? other := by
        apply mooring?_modify_of_eq <;> exact fun _ => rfl
      rw [mooring?_modify _ child Mooring.loosen, shortened, shortened]
      · simp only [member, and_true]
      · exact fun _ => rfl

theorem children_removeChild (tree : Tree) (parent child other : NodeId) :
    (tree.removeChild parent child).1.children other =
      if other = parent then (tree.children parent).erase child
      else tree.children other := by
  unfold removeChild
  split
  · next absent =>
      split
      · next same =>
          subst same
          exact (List.erase_of_not_mem (List.idxOf?_eq_none_iff.mp absent)).symm
      · rfl
  · next index found =>
      rw [children_modify_of_eq]
      · rw [children_modify, List.erase_eq_eraseIdx, found]
        simp only [children_eq_getD]
        cases tree.get? parent with
        | none => simp
        | some data => simp
      · exact fun _ => rfl

theorem contains_removeChild (tree : Tree) (parent child other : NodeId) :
    (tree.removeChild parent child).1.contains other = tree.contains other := by
  rw [contains_eq_isSome, mooring?_removeChild, contains_eq_isSome]
  split
  · next both => rw [both.1, Option.isSome_map]
  · rfl

@[simp] theorem nextIndex_removeChild (tree : Tree) (parent child : NodeId) :
    (tree.removeChild parent child).1.nextIndex = tree.nextIndex := by
  unfold removeChild
  split <;> rfl

@[simp] theorem destroyed_removeChild (tree : Tree) (parent child : NodeId) :
    (tree.removeChild parent child).1.destroyed = tree.destroyed := by
  unfold removeChild
  split <;> rfl

theorem detach_of_parent?_eq_none {node : NodeId} (root : tree.parent? node = none) :
    tree.detach node = (tree, none) := by
  simp only [detach, root]

theorem detach_of_parent? {node parent : NodeId}
    (linked : tree.parent? node = some parent) :
    tree.detach node = ((tree.removeChild parent node).1,
      (tree.removeChild parent node).2.map fun index => (parent, index)) := by
  simp only [detach, linked]

@[simp] theorem nextIndex_detach (tree : Tree) (node : NodeId) :
    (tree.detach node).1.nextIndex = tree.nextIndex := by
  unfold detach
  split
  · rfl
  · exact tree.nextIndex_removeChild _ node

theorem nextId_detach (tree : Tree) (node : NodeId) : (tree.detach node).1.nextId = tree.nextId :=
  congrArg NodeId.mk (tree.nextIndex_detach node)

@[simp] theorem destroyed_detach (tree : Tree) (node : NodeId) :
    (tree.detach node).1.destroyed = tree.destroyed := by
  unfold detach
  split
  · rfl
  · exact tree.destroyed_removeChild _ node

theorem mooring?_of_parent?_eq_none {node : NodeId} (root : tree.parent? node = none) :
    (tree.mooring? node).map Mooring.loosen = tree.mooring? node := by
  rw [parent?_eq_bind] at root
  cases found : tree.mooring? node with
  | none => rfl
  | some mooring =>
      rw [found] at root
      obtain ⟨parent, window⟩ := mooring
      cases root
      rfl

theorem WellFormed.mooring?_detach (wellFormed : tree.WellFormed) (node other : NodeId) :
    (tree.detach node).1.mooring? other =
      if other = node then (tree.mooring? node).map Mooring.loosen
      else tree.mooring? other := by
  cases linked : tree.parent? node with
  | none =>
      rw [detach_of_parent?_eq_none linked, mooring?_of_parent?_eq_none linked]
      split
      · next same => rw [same]
      · rfl
  | some parent =>
      have listed := (wellFormed.mem_children_iff parent node).mpr linked
      rw [detach_of_parent? linked, mooring?_removeChild]
      simp only [listed, and_true]

theorem WellFormed.children_detach (wellFormed : tree.WellFormed) (node other : NodeId) :
    (tree.detach node).1.children other = (tree.children other).erase node := by
  have unlisted : tree.parent? node ≠ some other →
      (tree.children other).erase node = tree.children other := fun apart =>
    List.erase_of_not_mem fun listed =>
      apart ((wellFormed.mem_children_iff other node).mp listed)
  cases linked : tree.parent? node with
  | none =>
      rw [detach_of_parent?_eq_none linked, unlisted]
      rw [linked]
      exact Option.some_ne_none other |>.symm
  | some parent =>
      rw [detach_of_parent? linked, children_removeChild]
      split
      · next same => rw [same]
      · next different =>
          rw [unlisted]
          rw [linked]
          exact fun same => different (Option.some.inj same).symm

theorem WellFormed.parent?_detach (wellFormed : tree.WellFormed) (node other : NodeId) :
    (tree.detach node).1.parent? other =
      if other = node then none else tree.parent? other := by
  rw [parent?_eq_bind, wellFormed.mooring?_detach, parent?_eq_bind]
  split
  · cases tree.mooring? node <;> rfl
  · rfl

theorem WellFormed.window?_detach (wellFormed : tree.WellFormed) (node other : NodeId) :
    (tree.detach node).1.window? other = tree.window? other := by
  rw [window?_eq_bind, wellFormed.mooring?_detach, window?_eq_bind]
  split
  · next same =>
      rw [same]
      cases tree.mooring? node <;> rfl
  · rfl

theorem WellFormed.contains_detach (wellFormed : tree.WellFormed) (node other : NodeId) :
    (tree.detach node).1.contains other = tree.contains other := by
  rw [contains_eq_isSome, wellFormed.mooring?_detach, contains_eq_isSome]
  split
  · next same => rw [same, Option.isSome_map]
  · rfl

theorem admits_iff (tree : Tree) (parent child : NodeId) :
    tree.admits parent child = true ↔
      parent ≠ child ∧ tree.contains parent = true ∧ tree.contains child = true ∧
        tree.isAncestor child parent = false := by
  simp only [admits, Bool.and_eq_true, decide_eq_true_eq, Bool.not_eq_true', and_assoc]

theorem insertChild_of_not_admits {parent child : NodeId} {index : Nat}
    (refused : ¬ tree.admits parent child = true) :
    tree.insertChild parent index child = tree := by
  simp only [insertChild, refused, Bool.false_eq_true, if_false]

theorem WellFormed.mooring?_insertChild (wellFormed : tree.WellFormed)
    {parent child : NodeId} (index : Nat) (admitted : tree.admits parent child = true)
    (other : NodeId) :
    (tree.insertChild parent index child).mooring? other =
      if other = child then some ⟨some parent, none⟩ else tree.mooring? other := by
  rw [insertChild, if_pos admitted, mooring?_modify_of_eq,
    mooring?_modify _ child fun _ => ⟨some parent, none⟩]
  · split
    · have present := ((tree.admits_iff parent child).mp admitted).2.2.1
      rw [← wellFormed.contains_detach child, contains_eq_isSome] at present
      obtain ⟨mooring, found⟩ := Option.isSome_iff_exists.mp present
      rw [found, Option.map_some]
    · next different => rw [wellFormed.mooring?_detach, if_neg different]
  · exact fun _ => rfl
  · exact fun _ => rfl
  · exact fun _ => rfl

theorem WellFormed.children_insertChild (wellFormed : tree.WellFormed)
    {parent child : NodeId} (index : Nat) (admitted : tree.admits parent child = true)
    (other : NodeId) :
    (tree.insertChild parent index child).children other =
      if other = parent then
        ((tree.children parent).erase child).insertIdx
          (min index ((tree.children parent).erase child).length) child
      else (tree.children other).erase child := by
  have present := ((tree.admits_iff parent child).mp admitted).2.1
  rw [← wellFormed.contains_detach child, contains_iff] at present
  obtain ⟨data, found⟩ := present
  have different := ((tree.admits_iff parent child).mp admitted).1
  have former : data.children = (tree.children parent).erase child := by
    rw [← wellFormed.children_detach, children_eq_getD, found]
    rfl
  rw [insertChild, if_pos admitted, children_modify]
  split
  · rw [get?_modify, if_neg different, found, ← former]
    rfl
  · rw [children_modify_of_eq, wellFormed.children_detach]
    exact fun _ => rfl

@[simp] theorem nextIndex_insertChild (tree : Tree) (parent : NodeId) (index : Nat)
    (child : NodeId) : (tree.insertChild parent index child).nextIndex = tree.nextIndex := by
  unfold insertChild
  split
  · exact tree.nextIndex_detach child
  · rfl

@[simp] theorem destroyed_insertChild (tree : Tree) (parent : NodeId) (index : Nat)
    (child : NodeId) : (tree.insertChild parent index child).destroyed = tree.destroyed := by
  unfold insertChild
  split
  · exact tree.destroyed_detach child
  · rfl

theorem mooring?_add (tree : Tree) (widget : Widget) (layout : Rect) (other : NodeId) :
    (tree.add widget layout).mooring? other =
      if other = tree.nextId then some ⟨none, none⟩ else tree.mooring? other := by
  simp only [mooring?, get?, add, Table.get?_insert]
  split <;> rfl

theorem children_add (tree : Tree) (widget : Widget) (layout : Rect) (other : NodeId) :
    (tree.add widget layout).children other =
      if other = tree.nextId then [] else tree.children other := by
  simp only [children_eq_getD, get?, add, Table.get?_insert]
  split <;> rfl

theorem mooring?_attachWindow (tree : Tree) (node : NodeId) (window : WindowId)
    (other : NodeId) :
    (tree.attachWindow node window).mooring? other =
      if other = node ∧ tree.parent? node = none then
        (tree.mooring? node).map (Mooring.show (some window))
      else tree.mooring? other := by
  unfold attachWindow
  split
  · next parent linked => simp only [linked, reduceCtorEq, and_false, if_false]
  · next root =>
      simp only [root, and_true]
      exact tree.mooring?_modify node (Mooring.show (some window)) (fun _ => rfl) other

theorem mooring?_detachWindow (tree : Tree) (node other : NodeId) :
    (tree.detachWindow node).mooring? other =
      if other = node then (tree.mooring? node).map (Mooring.show none)
      else tree.mooring? other :=
  tree.mooring?_modify node (Mooring.show none) (fun _ => rfl) other

theorem contains_attachWindow (tree : Tree) (node : NodeId) (window : WindowId)
    (other : NodeId) :
    (tree.attachWindow node window).contains other = tree.contains other := by
  rw [contains_eq_isSome, mooring?_attachWindow, contains_eq_isSome]
  split
  · next both => rw [both.1, Option.isSome_map]
  · rfl

theorem parent?_attachWindow (tree : Tree) (node : NodeId) (window : WindowId)
    (other : NodeId) :
    (tree.attachWindow node window).parent? other = tree.parent? other := by
  rw [parent?_eq_bind, mooring?_attachWindow]
  split
  · next both =>
      rw [both.1, parent?_eq_bind]
      cases tree.mooring? node <;> rfl
  · exact (tree.parent?_eq_bind other).symm

theorem children_attachWindow (tree : Tree) (node : NodeId) (window : WindowId)
    (other : NodeId) :
    (tree.attachWindow node window).children other = tree.children other := by
  unfold attachWindow
  split
  · rfl
  · apply children_modify_of_eq
    exact fun _ => rfl

@[simp] theorem nextIndex_attachWindow (tree : Tree) (node : NodeId) (window : WindowId) :
    (tree.attachWindow node window).nextIndex = tree.nextIndex := by
  unfold attachWindow
  split <;> rfl

@[simp] theorem destroyed_attachWindow (tree : Tree) (node : NodeId) (window : WindowId) :
    (tree.attachWindow node window).destroyed = tree.destroyed := by
  unfold attachWindow
  split <;> rfl

theorem contains_detachWindow (tree : Tree) (node other : NodeId) :
    (tree.detachWindow node).contains other = tree.contains other := by
  rw [contains_eq_isSome, mooring?_detachWindow, contains_eq_isSome]
  split
  · next same => rw [same, Option.isSome_map]
  · rfl

theorem parent?_detachWindow (tree : Tree) (node other : NodeId) :
    (tree.detachWindow node).parent? other = tree.parent? other := by
  rw [parent?_eq_bind, mooring?_detachWindow, parent?_eq_bind]
  split
  · next same =>
      rw [same]
      cases tree.mooring? node <;> rfl
  · rfl

theorem children_detachWindow (tree : Tree) (node other : NodeId) :
    (tree.detachWindow node).children other = tree.children other := by
  apply children_modify_of_eq
  exact fun _ => rfl

end Tree
end Docking

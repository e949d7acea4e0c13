import Docking.Proofs.Tree.DepthFirst
import Docking.Proofs.Tree.Geometry

namespace Docking

/-! What is done to a node and everything below it is done to each of these nodes once, and to
no others. -/

/-- Moves a rectangle along, unless the way is zero. -/
def Rect.carry (offset : Point) (rect : Rect) : Rect :=
  if offset == Point.zero then rect else rect.translate offset

@[simp] theorem Rect.extent_carry (offset : Point) (rect : Rect) :
    (rect.carry offset).extent = rect.extent := by
  unfold carry
  split
  · rfl
  · exact rect.extent_translate offset

namespace Tree

variable {tree : Tree} {node : NodeId}

/-- A visit under way: what was visited so far, and the stack of what is pending, its top last. -/
structure Traversal where
  visited : List NodeId
  pending : List NodeId

namespace Traversal

def below (tree : Tree) (node : NodeId) : Traversal := ⟨[], (tree.children node).reverse⟩

/-- Takes the top off the stack and puts its children there, the first of them on top. -/
def next? (tree : Tree) (traversal : Traversal) : Option Traversal :=
  traversal.pending.getLast?.map fun node =>
    ⟨traversal.visited ++ [node], traversal.pending.dropLast ++ (tree.children node).reverse⟩

theorem next?_cons (tree : Tree) (visited pending : List NodeId) (node : NodeId) :
    next? tree ⟨visited, (node :: pending).reverse⟩ =
      some ⟨visited ++ [node], (tree.children node ++ pending).reverse⟩ := by
  simp only [next?, List.reverse_cons, List.getLast?_concat, List.dropLast_concat,
    Option.map_some, List.reverse_append]

end Traversal

theorem Visits.reaches {stack order : List NodeId} (visits : tree.Visits stack order)
    (visited : List NodeId) :
    Relation.ReflTransGen (fun before after => Traversal.next? tree before = some after)
      ⟨visited, stack.reverse⟩ ⟨visited ++ order, []⟩ := by
  induction visits generalizing visited with
  | done =>
      rw [List.append_nil]
      exact .refl
  | @step node pending order _ induction =>
      have rest := induction (visited ++ [node])
      rw [List.append_assoc] at rest
      exact .head (Traversal.next?_cons tree visited pending node) rest

theorem Visits.ends {stack order : List NodeId} (visits : tree.Visits stack order)
    (visited : List NodeId) :
    Acc (fun after before => Traversal.next? tree before = some after)
      ⟨visited, stack.reverse⟩ := by
  induction visits generalizing visited with
  | done => exact .intro _ nofun
  | @step node pending _ _ induction =>
      refine .intro _ fun after taken => ?_
      rw [Traversal.next?_cons] at taken
      cases taken
      exact induction (visited ++ [node])

namespace WellFormed

variable (wellFormed : tree.WellFormed)
include wellFormed

theorem eq_flatMap_of_depthFirst {forest order : List NodeId}
    (ordered : tree.DepthFirst forest order) : order = forest.flatMap tree.subtree := by
  induction ordered with
  | nil => rfl
  | cons lower _ _ others =>
      rw [List.flatMap_cons, ← others, subtree, (wellFormed.depthFirst_children_iff _ _).mp lower,
        List.cons_append]

theorem descendants_eq_flatMap (node : NodeId) :
    tree.descendants node = (tree.children node).flatMap tree.subtree :=
  wellFormed.eq_flatMap_of_depthFirst ((wellFormed.depthFirst_children_iff node _).mpr rfl)

theorem not_mem_descendants_self (node : NodeId) : node ∉ tree.descendants node := fun listed =>
  wellFormed.acyclic node ((wellFormed.mem_descendants_iff node node).mp listed)

theorem subtree_detach (node : NodeId) : (tree.detach node).1.subtree node = tree.subtree node := by
  refine ((wellFormed.detach node).eq_subtree_of_depthFirst
    ((wellFormed.depthFirst_subtree node).congr fun other listed => ?_)).symm
  rw [wellFormed.children_detach]
  exact List.erase_of_not_mem fun hangs =>
    wellFormed.parent_not_mem_subtree ((wellFormed.mem_children_iff other node).mp hangs) listed

end WellFormed

theorem get?_foldl_modify {nodes : List NodeId} (nodup : nodes.Nodup) (tree : Tree)
    (change : Node → Node) (other : NodeId) :
    (nodes.foldl (fun current node => current.modify node change) tree).get? other =
      if other ∈ nodes then (tree.get? other).map change else tree.get? other := by
  induction nodes generalizing tree with
  | nil => rfl
  | cons node rest induction =>
      obtain ⟨fresh, nodup⟩ := List.nodup_cons.mp nodup
      rw [List.foldl_cons, induction nodup, get?_modify]
      by_cases same : other = node
      · simp [same, fresh]
      · simp [same]

theorem ids_foldl_modify (nodes : List NodeId) (tree : Tree) (change : Node → Node) :
    (nodes.foldl (fun current node => current.modify node change) tree).ids = tree.ids := by
  induction nodes generalizing tree with
  | nil => rfl
  | cons node rest induction => rw [List.foldl_cons, induction, ids_modify]

theorem ids_place (tree : Tree) (node : NodeId) (rect : Rect) :
    (tree.place node rect).ids = tree.ids := by
  unfold place
  cases tree.layout? node with
  | none => rfl
  | some old =>
      dsimp only
      split
      · exact tree.ids_modify node _
      · rw [ids_foldl_modify, ids_modify]

/-- The node is laid out anew, what is below it is carried along, and all else is as it was. -/
structure Relocated (before : Tree) (node : NodeId) (rect : Rect) (after : Tree) : Prop where
  get?_node : after.get? node = (before.get? node).map fun data => { data with layout := rect }
  get?_below : ∀ old, before.layout? node = some old → ∀ lower ∈ before.descendants node,
    after.get? lower = (before.get? lower).map fun data =>
      { data with layout := data.layout.carry (rect.position - old.position) }
  extent_eq : ∀ lower ∈ before.descendants node,
    (after.layout? lower).map Rect.extent = (before.layout? lower).map Rect.extent
  get?_eq : ∀ other, other ≠ node → other ∉ before.descendants node →
    after.get? other = before.get? other
  ids_eq : after.ids = before.ids
  nextIndex_eq : after.nextIndex = before.nextIndex
  destroyed_eq : after.destroyed = before.destroyed

namespace WellFormed

variable (wellFormed : tree.WellFormed)
include wellFormed

theorem get?_place {old : Rect} (placed : tree.layout? node = some old) (rect : Rect)
    (other : NodeId) :
    (tree.place node rect).get? other =
      if other ∈ tree.descendants node then
        (tree.get? other).map fun data =>
          { data with layout := data.layout.carry (rect.position - old.position) }
      else if other = node then (tree.get? node).map fun data => { data with layout := rect }
      else tree.get? other := by
  have below : (tree.modify node fun data => { data with layout := rect }).descendants node =
      tree.descendants node := by
    refine descendants_congr (tree.children_modify_of_eq node ?_) (tree.size_modify node _) node
    exact fun _ => rfl
  have apart (listed : other ∈ tree.descendants node) : other ≠ node := by
    rintro rfl
    exact wellFormed.not_mem_descendants_self other listed
  unfold place Rect.carry
  rw [placed]
  dsimp only
  split
  · rw [get?_modify]
    split
    · next here =>
        rw [if_neg (here ▸ wellFormed.not_mem_descendants_self node)]
    · rw [Option.map_id', ite_self]
  · rw [below, get?_foldl_modify (wellFormed.nodup_descendants node), get?_modify]
    split
    · next listed => rw [if_neg (apart listed)]
    · rfl

theorem relocated_place (node : NodeId) (rect : Rect) :
    Relocated tree node rect (tree.place node rect) := by
  have links := SameLinks.place tree node rect
  have ids_eq := tree.ids_place node rect
  cases placed : tree.layout? node with
  | none =>
      have unknown : tree.get? node = none := Option.map_eq_none_iff.mp placed
      have same : tree.place node rect = tree := by
        rw [place, placed]
      rw [same] at links ids_eq ⊢
      refine ⟨by rw [unknown]; rfl, fun old found => ?_, fun _ _ => rfl, fun _ _ _ => rfl, rfl,
        rfl, rfl⟩
      cases placed.symm.trans found
  | some old =>
      have seen := wellFormed.get?_place placed rect
      have carried (lower : NodeId) (listed : lower ∈ tree.descendants node) :=
        (seen lower).trans (if_pos listed)
      refine ⟨?_, ?_, fun lower listed => ?_, fun other apart beside => ?_, ids_eq,
        links.nextIndex_eq, links.destroyed_eq⟩
      · rw [seen, if_neg (wellFormed.not_mem_descendants_self node), if_pos rfl]
      · intro _ found
        cases placed.symm.trans found
        exact carried
      · rw [layout?, layout?, carried lower listed, Option.map_map, Option.map_map, Option.map_map]
        simp only [Function.comp_def, Rect.extent_carry]
      · rw [seen, if_neg beside, if_neg apart]

end WellFormed

theorem ids_detach (tree : Tree) (node : NodeId) : (tree.detach node).1.ids = tree.ids := by
  unfold detach removeChild
  cases tree.parent? node with
  | none => rfl
  | some parent =>
      dsimp only
      cases (tree.children parent).idxOf? node with
      | none => rfl
      | some index => simp only [ids_modify]

/-- The node and everything below it are gone, its parent has lost it, and all else is as it
was. -/
structure Uprooted (before : Tree) (node : NodeId) (removed : List NodeId) (after : Tree) :
    Prop where
  removed_eq : removed = if before.contains node then before.subtree node else []
  get?_removed : ∀ gone ∈ removed, after.get? gone = none
  get?_parent : ∀ parent, before.parent? node = some parent →
    after.get? parent = (before.get? parent).map fun data =>
      { data with children := data.children.erase node }
  not_mem_children : ∀ other, node ∉ after.children other
  get?_eq : ∀ other, other ∉ removed → before.parent? node ≠ some other →
    after.get? other = before.get? other
  ids_eq : after.ids = before.ids.filter (· ∉ removed)
  nextIndex_eq : after.nextIndex = before.nextIndex
  destroyed_eq : after.destroyed = before.destroyed ++ removed

namespace WellFormed

variable (wellFormed : tree.WellFormed)
include wellFormed

theorem get?_detach {other : NodeId} (different : other ≠ node) :
    (tree.detach node).1.get? other =
      if tree.parent? node = some other then
        (tree.get? other).map fun data => { data with children := data.children.erase node }
      else tree.get? other := by
  cases linked : tree.parent? node with
  | none =>
      rw [detach_of_parent?_eq_none linked, if_neg nofun]
  | some parent =>
      have listed := (wellFormed.mem_children_iff parent node).mpr linked
      obtain ⟨index, found⟩ := Option.isSome_iff_exists.mp (List.isSome_idxOf?.mpr listed)
      rw [detach_of_parent? linked, Tree.removeChild, found]
      dsimp only
      rw [get?_modify, if_neg different, get?_modify]
      by_cases here : other = parent
      · subst here
        rw [if_pos rfl, if_pos rfl]
        refine Option.map_congr fun data known => ?_
        have children_eq : data.children = tree.children other := by
          rw [children_eq_getD, known]
          rfl
        rw [children_eq, List.erase_eq_eraseIdx, found]
      · rw [if_neg here, if_neg fun same => here (Option.some.inj same).symm]

theorem uprooted_destroy (node : NodeId) :
    Uprooted tree node (tree.destroy node).2 (tree.destroy node).1 := by
  cases present : tree.contains node with
  | false =>
      have rooted : tree.parent? node = none := by
        rw [parent?, (contains_eq_false_iff tree node).mp present, Option.bind_none]
      rw [destroy_of_not_contains present]
      refine ⟨by rw [present]; rfl, fun _ listed => absurd listed List.not_mem_nil, ?_,
        fun other listed => ?_, fun _ _ _ => rfl, ?_, rfl, (List.append_nil _).symm⟩
      · rw [rooted]
        rintro parent ⟨⟩
      · rw [wellFormed.mem_children_iff, rooted] at listed
        cases listed
      · simp
  | true =>
      have removed_eq := wellFormed.subtree_detach node
      have children_eq := wellFormed.children_destroy node
      simp only [present, if_true] at children_eq
      rw [destroy_of_contains present] at children_eq ⊢
      dsimp only at children_eq ⊢
      rw [removed_eq] at children_eq ⊢
      have seen (other : NodeId) (kept : other ∉ tree.subtree node) :
          ((tree.subtree node).foldl Table.erase (tree.detach node).1.nodes).get? other =
            (tree.detach node).1.get? other :=
        (Table.get?_foldl_erase _ _ other).trans (if_neg kept)
      have different {other : NodeId} (kept : other ∉ tree.subtree node) : other ≠ node := by
        rintro rfl
        exact kept List.mem_cons_self
      refine ⟨by rw [present]; rfl, fun gone listed => ?_, fun parent linked => ?_,
        fun other listed => ?_, fun other kept apart => ?_, ?_, tree.nextIndex_detach node, rfl⟩
      · exact (Table.get?_foldl_erase _ _ gone).trans (if_pos listed)
      · have kept := wellFormed.parent_not_mem_subtree linked
        rw [get?, seen parent kept, wellFormed.get?_detach (different kept), if_pos linked]
      · rw [children_eq] at listed
        split at listed
        · cases listed
        · exact (wellFormed.children_nodup other).not_mem_erase listed
      · rw [get?, seen other kept, wellFormed.get?_detach (different kept), if_neg apart]
      · rw [← tree.ids_detach node]
        exact Table.keys_foldl_erase _ _

end WellFormed

/-- What the visit below a node comes to, and what is done to the nodes that it finds. -/
structure HandlesSubtrees (tree : Tree) : Prop where
  ends : ∀ node,
    Acc (fun after before => Traversal.next? tree before = some after) (.below tree node)
  reaches : ∀ node,
    Relation.ReflTransGen (fun before after => Traversal.next? tree before = some after)
      (.below tree node) ⟨tree.descendants node, []⟩
  descendants_eq : ∀ node,
    tree.descendants node = (tree.children node).flatMap tree.subtree
  nodup_descendants : ∀ node, (tree.descendants node).Nodup
  mem_descendants_iff : ∀ node lower, lower ∈ tree.descendants node ↔
    Relation.TransGen (fun upper lower => lower ∈ tree.children upper) node lower
  place : ∀ node rect, Relocated tree node rect (tree.place node rect)
  destroy : ∀ node, Uprooted tree node (tree.destroy node).2 (tree.destroy node).1

theorem handlesSubtrees_edit (edits : List Edit) : (empty.edit edits).HandlesSubtrees := by
  have wellFormed := wellFormed_empty.edit edits
  have visits (node : NodeId) := (wellFormed.visits_iff node _).mpr rfl
  exact {
    ends := fun node => (visits node).ends []
    reaches := fun node => (visits node).reaches []
    descendants_eq := wellFormed.descendants_eq_flatMap
    nodup_descendants := wellFormed.nodup_descendants
    mem_descendants_iff := fun node lower => by
      rw [wellFormed.mem_descendants_iff, ← wellFormed.isAncestor_iff,
        wellFormed.isAncestor_iff_transGen]
    place := wellFormed.relocated_place
    destroy := wellFormed.uprooted_destroy }

example :
    let tree := empty.edit
      [.add .plain .zero, .add .plain .zero, .add .plain ⟨1, 2, 3, 4⟩, .add .plain .zero,
        .addChild ⟨0⟩ ⟨1⟩, .addChild ⟨0⟩ ⟨3⟩, .addChild ⟨1⟩ ⟨2⟩]
    tree.descendants ⟨0⟩ = [⟨1⟩, ⟨2⟩, ⟨3⟩] ∧
      (tree.place ⟨0⟩ ⟨10, 20, 5, 5⟩).layout? ⟨2⟩ = some ⟨11, 22, 3, 4⟩ ∧
        (tree.destroy ⟨1⟩).2 = [⟨1⟩, ⟨2⟩] ∧ (tree.destroy ⟨1⟩).1.children ⟨0⟩ = [⟨3⟩] := by
  decide +kernel

end Tree
end Docking

import Docking.Tree.Edit
import Mathlib.Logic.Relation

namespace Docking.Tree

/-! The order that links give the nodes of a tree, and what it means for the links to be
sound. On sound links the bounded walks reach everything there is to reach. -/

/-- `upper` is reached from `lower` along one or more parent links. -/
def Above (tree : Tree) (upper lower : NodeId) : Prop :=
  Relation.TransGen (fun child parent => tree.parent? child = some parent) lower upper

/-- A node that was there once, or was passed over, and can never be there again. -/
def Lost (tree : Tree) (node : NodeId) : Prop :=
  node.index < tree.nextIndex ∧ tree.contains node = false

structure WellFormed (tree : Tree) : Prop where
  mem_children_iff : ∀ parent child,
    child ∈ tree.children parent ↔ tree.parent? child = some parent
  children_nodup : ∀ parent, (tree.children parent).Nodup
  acyclic : ∀ node, ¬ tree.Above node node
  parent?_of_window : ∀ node window,
    tree.window? node = some window → tree.parent? node = none
  index_lt : ∀ node, tree.contains node = true → node.index < tree.nextIndex
  lost_of_destroyed : ∀ node ∈ tree.destroyed, tree.Lost node

variable {tree : Tree}

theorem contains_iff (tree : Tree) (node : NodeId) :
    tree.contains node = true ↔ ∃ data, tree.get? node = some data :=
  Option.isSome_iff_exists

theorem contains_eq_false_iff (tree : Tree) (node : NodeId) :
    tree.contains node = false ↔ tree.get? node = none := by
  simp only [contains, Table.contains, get?, Option.isSome_eq_false_iff,
    Option.isNone_iff_eq_none]

theorem contains_iff_mem_ids (tree : Tree) (node : NodeId) :
    tree.contains node = true ↔ node ∈ tree.ids :=
  tree.nodes.contains_iff node

theorem contains_of_layout? {node : NodeId} {layout : Rect}
    (placed : tree.layout? node = some layout) : tree.contains node = true := by
  obtain ⟨data, known, _⟩ := Option.map_eq_some_iff.mp placed
  exact (tree.contains_iff node).mpr ⟨data, known⟩

theorem layout?_of_contains {node : NodeId} (present : tree.contains node = true) :
    ∃ layout, tree.layout? node = some layout := by
  obtain ⟨data, known⟩ := (tree.contains_iff node).mp present
  exact ⟨data.layout, congrArg (Option.map Node.layout) known⟩

theorem contains_of_parent? {child parent : NodeId}
    (linked : tree.parent? child = some parent) : tree.contains child = true := by
  obtain ⟨data, found, _⟩ := Option.bind_eq_some_iff.mp linked
  exact (tree.contains_iff child).mpr ⟨data, found⟩

theorem contains_of_mem_children {child parent : NodeId}
    (member : child ∈ tree.children parent) : tree.contains parent = true := by
  unfold children at member
  split at member
  · next data found => exact (tree.contains_iff parent).mpr ⟨data, found⟩
  · cases member

theorem window?_of_not_contains {node : NodeId} (absent : tree.contains node = false) :
    tree.window? node = none := by
  simp only [window?, (tree.contains_eq_false_iff node).mp absent, Option.bind_none]

theorem children_of_not_contains {node : NodeId}
    (absent : tree.contains node = false) : tree.children node = [] := by
  simp only [children, (tree.contains_eq_false_iff node).mp absent]

namespace Above

theorem of_parent? {upper lower : NodeId} (linked : tree.parent? lower = some upper) :
    tree.Above upper lower :=
  .single linked

theorem trans {upper middle lower : NodeId} (above : tree.Above upper middle)
    (below : tree.Above middle lower) : tree.Above upper lower :=
  Relation.TransGen.trans below above

theorem head {upper parent lower : NodeId} (linked : tree.parent? lower = some parent)
    (above : tree.Above upper parent) : tree.Above upper lower :=
  Relation.TransGen.head linked above

theorem contains_lower {upper lower : NodeId} (above : tree.Above upper lower) :
    tree.contains lower = true := by
  obtain ⟨parent, linked, _⟩ := Relation.TransGen.head'_iff.mp above
  exact contains_of_parent? linked

theorem cases_head {upper lower : NodeId} (above : tree.Above upper lower) :
    ∃ parent, tree.parent? lower = some parent ∧
      (parent = upper ∨ tree.Above upper parent) := by
  obtain ⟨parent, linked, rest⟩ := Relation.TransGen.head'_iff.mp above
  exact ⟨parent, linked, Relation.reflTransGen_iff_eq_or_transGen.mp rest |>.imp
    Eq.symm id⟩

theorem cases_tail {upper lower : NodeId} (above : tree.Above upper lower) :
    ∃ child, tree.parent? child = some upper ∧
      (child = lower ∨ tree.Above child lower) := by
  obtain ⟨child, rest, linked⟩ := Relation.TransGen.tail'_iff.mp above
  exact ⟨child, linked, Relation.reflTransGen_iff_eq_or_transGen.mp rest⟩

theorem comparable {first second node : NodeId} (above : tree.Above first node)
    (otherAbove : tree.Above second node) :
    first = second ∨ tree.Above first second ∨ tree.Above second first := by
  induction above using Relation.TransGen.head_induction_on with
  | single linked =>
      obtain ⟨parent, relinked, rest⟩ := otherAbove.cases_head
      rw [linked] at relinked
      cases relinked
      exact rest.imp_right .inr
  | head linked upward induction =>
      obtain ⟨parent, relinked, rest⟩ := otherAbove.cases_head
      rw [linked] at relinked
      cases relinked
      rcases rest with rfl | rest
      · exact .inr (.inl upward)
      · exact induction rest

theorem mono {other : Tree} {upper lower : NodeId}
    (links : ∀ child parent, tree.parent? child = some parent →
      other.parent? child = some parent)
    (above : tree.Above upper lower) : other.Above upper lower :=
  Relation.TransGen.mono links _ _ above

end Above

/-- A node and others, all there and all different, are no more than there are nodes. -/
theorem length_lt_size {node : NodeId} {others : List NodeId}
    (present : tree.contains node = true) (distinct : (node :: others).Nodup)
    (others_present : ∀ other ∈ others, tree.contains other = true) :
    others.length < tree.size := by
  have included : node :: others ⊆ tree.ids := by
    intro other member
    apply (tree.contains_iff_mem_ids other).mp
    rcases List.mem_cons.mp member with rfl | member
    · exact present
    · exact others_present other member
  have bounded := distinct.length_le_of_subset included
  simpa only [ids, Table.keys, size, Table.size, List.length_map, List.length_cons,
    Nat.succ_le_iff] using bounded

theorem above_of_mem_climb {fuel : Nat} {node upper : NodeId}
    (member : upper ∈ tree.climb fuel node) : tree.Above upper node := by
  induction fuel generalizing node with
  | zero => cases member
  | succ fuel induction =>
      simp only [climb] at member
      cases linked : tree.parent? node with
      | none => rw [linked] at member; cases member
      | some parent =>
          rw [linked] at member
          rcases List.mem_cons.mp member with rfl | member
          · exact .of_parent? linked
          · exact .head linked (induction member)

theorem mem_climb_of_length_lt {fuel : Nat} {node upper : NodeId}
    (ended : (tree.climb fuel node).length < fuel) (above : tree.Above upper node) :
    upper ∈ tree.climb fuel node := by
  induction fuel generalizing node with
  | zero => cases ended
  | succ fuel induction =>
      obtain ⟨parent, linked, upward⟩ := above.cases_head
      simp only [climb, linked, List.length_cons, Nat.add_lt_add_iff_right] at ended ⊢
      rcases upward with rfl | upward
      · exact List.mem_cons_self
      · exact List.mem_cons_of_mem _ (induction ended upward)

namespace WellFormed

variable (wellFormed : tree.WellFormed)
include wellFormed

theorem contains_parent {child parent : NodeId}
    (linked : tree.parent? child = some parent) : tree.contains parent = true :=
  contains_of_mem_children ((wellFormed.mem_children_iff parent child).mpr linked)

theorem contains_upper {upper lower : NodeId} (above : tree.Above upper lower) :
    tree.contains upper = true := by
  obtain ⟨child, linked, _⟩ := above.cases_tail
  exact wellFormed.contains_parent linked

theorem ne_of_above {upper lower : NodeId} (above : tree.Above upper lower) :
    upper ≠ lower := by
  rintro rfl
  exact wellFormed.acyclic upper above

theorem nodup_climb (fuel : Nat) (node : NodeId) : (tree.climb fuel node).Nodup := by
  induction fuel generalizing node with
  | zero => exact List.nodup_nil
  | succ fuel induction =>
      simp only [climb]
      cases tree.parent? node with
      | none => exact List.nodup_nil
      | some parent =>
          refine List.nodup_cons.mpr ⟨fun member => ?_, induction parent⟩
          exact wellFormed.acyclic parent (above_of_mem_climb member)

theorem length_ancestors_lt {node : NodeId} (present : tree.contains node = true) :
    (tree.ancestors node).length < tree.size := by
  apply length_lt_size present
  · refine List.nodup_cons.mpr ⟨fun member => ?_, wellFormed.nodup_climb _ node⟩
    exact wellFormed.acyclic node (above_of_mem_climb member)
  · intro other member
    exact wellFormed.contains_upper (above_of_mem_climb member)

theorem mem_ancestors_iff (node upper : NodeId) :
    upper ∈ tree.ancestors node ↔ tree.Above upper node := by
  refine ⟨above_of_mem_climb, fun above => ?_⟩
  exact mem_climb_of_length_lt (wellFormed.length_ancestors_lt above.contains_lower) above

theorem isAncestor_iff (upper lower : NodeId) :
    tree.isAncestor upper lower = true ↔ tree.Above upper lower := by
  rw [isAncestor, List.contains_iff_mem]
  exact wellFormed.mem_ancestors_iff lower upper

end WellFormed

def Under (tree : Tree) (stack : List NodeId) (node : NodeId) : Prop :=
  ∃ top ∈ stack, top = node ∨ tree.Above top node

theorem under_visit {fuel : Nat} {stack : List NodeId} {node : NodeId}
    (wellFormed : tree.WellFormed) (member : node ∈ tree.visit fuel stack) :
    tree.Under stack node := by
  induction fuel generalizing stack with
  | zero => cases member
  | succ fuel induction =>
      cases stack with
      | nil => cases member
      | cons top pending =>
          rcases List.mem_cons.mp member with rfl | member
          · exact ⟨node, List.mem_cons_self, .inl rfl⟩
          · obtain ⟨next, next_mem, below⟩ := induction member
            rcases List.mem_append.mp next_mem with child | waiting
            · have linked := (wellFormed.mem_children_iff top next).mp child
              refine ⟨top, List.mem_cons_self, .inr ?_⟩
              rcases below with rfl | below
              · exact .of_parent? linked
              · exact (Above.of_parent? linked).trans below
            · exact ⟨next, List.mem_cons_of_mem _ waiting, below⟩

theorem mem_visit_of_length_lt {fuel : Nat} {stack : List NodeId} {node : NodeId}
    (wellFormed : tree.WellFormed) (ended : (tree.visit fuel stack).length < fuel)
    (under : tree.Under stack node) : node ∈ tree.visit fuel stack := by
  induction fuel generalizing stack with
  | zero => cases ended
  | succ fuel induction =>
      cases stack with
      | nil => obtain ⟨top, member, _⟩ := under; cases member
      | cons top pending =>
          simp only [visit, List.length_cons, Nat.add_lt_add_iff_right] at ended
          obtain ⟨next, member, below⟩ := under
          rcases List.mem_cons.mp member with rfl | waiting
          · rcases below with rfl | below
            · exact List.mem_cons_self
            · obtain ⟨child, linked, rest⟩ := below.cases_tail
              have listed := (wellFormed.mem_children_iff next child).mpr linked
              exact List.mem_cons_of_mem _ (induction ended
                ⟨child, List.mem_append_left _ listed, rest⟩)
          · exact List.mem_cons_of_mem _ (induction ended
              ⟨next, List.mem_append_right _ waiting, below⟩)

structure Apart (tree : Tree) (stack : List NodeId) : Prop where
  nodup : stack.Nodup
  unrelated : ∀ first ∈ stack, ∀ second ∈ stack, ¬ tree.Above first second

namespace WellFormed

theorem apart_cons (wellFormed : tree.WellFormed) {top : NodeId}
    {pending : List NodeId} (apart : tree.Apart (top :: pending)) :
    tree.Apart (tree.children top ++ pending) := by
  have topmost : ∀ child ∈ tree.children top, tree.Above top child := fun child listed =>
    .of_parent? ((wellFormed.mem_children_iff top child).mp listed)
  have upward : ∀ child ∈ tree.children top, ∀ upper, tree.Above upper child →
      upper = top ∨ tree.Above upper top := by
    intro child listed upper above
    obtain ⟨parent, linked, rest⟩ := above.cases_head
    rw [(wellFormed.mem_children_iff top child).mp listed] at linked
    cases linked
    exact rest.imp Eq.symm id
  have waiting : ∀ node ∈ pending, node ∈ top :: pending := fun node member =>
    List.mem_cons_of_mem _ member
  have distinct := List.nodup_cons.mp apart.nodup
  constructor
  · rw [List.nodup_append]
    refine ⟨wellFormed.children_nodup top, distinct.2, ?_⟩
    rintro child listed node member rfl
    exact apart.unrelated top List.mem_cons_self child (waiting child member)
      (topmost child listed)
  · intro first first_mem second second_mem above
    rcases List.mem_append.mp second_mem with listed | second_waiting
    · rcases upward second listed first above with rfl | higher
      · rcases List.mem_append.mp first_mem with listed | first_waiting
        · exact wellFormed.acyclic first (topmost first listed)
        · exact distinct.1 first_waiting
      · rcases List.mem_append.mp first_mem with listed | first_waiting
        · exact wellFormed.acyclic first (higher.trans (topmost first listed))
        · exact apart.unrelated first (waiting first first_waiting) top
            List.mem_cons_self higher
    · rcases List.mem_append.mp first_mem with listed | first_waiting
      · exact apart.unrelated top List.mem_cons_self second (waiting second second_waiting)
          ((topmost first listed).trans above)
      · exact apart.unrelated first (waiting first first_waiting) second
          (waiting second second_waiting) above

theorem nodup_visit (wellFormed : tree.WellFormed) {fuel : Nat} {stack : List NodeId}
    (apart : tree.Apart stack) : (tree.visit fuel stack).Nodup := by
  induction fuel generalizing stack with
  | zero => exact List.nodup_nil
  | succ fuel induction =>
      cases stack with
      | nil => exact List.nodup_nil
      | cons top pending =>
          refine List.nodup_cons.mpr
            ⟨fun member => ?_, induction (wellFormed.apart_cons apart)⟩
          obtain ⟨next, next_mem, below⟩ := under_visit wellFormed member
          rcases List.mem_append.mp next_mem with listed | waiting
          · have above := Above.of_parent? ((wellFormed.mem_children_iff top next).mp listed)
            rcases below with rfl | below
            · exact wellFormed.acyclic next above
            · exact wellFormed.acyclic top (above.trans below)
          · rcases below with rfl | below
            · exact (List.nodup_cons.mp apart.nodup).1 waiting
            · exact apart.unrelated next (List.mem_cons_of_mem _ waiting) top
                List.mem_cons_self below

theorem apart_children (wellFormed : tree.WellFormed) (node : NodeId) :
    tree.Apart (tree.children node) := by
  have alone : tree.Apart [node] := by
    refine ⟨List.nodup_cons.mpr ⟨List.not_mem_nil, List.nodup_nil⟩, ?_⟩
    intro first first_mem second second_mem
    rw [List.mem_singleton.mp first_mem, List.mem_singleton.mp second_mem]
    exact wellFormed.acyclic node
  simpa only [List.append_nil] using wellFormed.apart_cons alone

theorem nodup_descendants (wellFormed : tree.WellFormed) (node : NodeId) :
    (tree.descendants node).Nodup :=
  wellFormed.nodup_visit (wellFormed.apart_children node)

private theorem above_of_mem_descendants (wellFormed : tree.WellFormed)
    {node lower : NodeId} (member : lower ∈ tree.descendants node) :
    tree.Above node lower := by
  obtain ⟨child, listed, below⟩ := under_visit wellFormed member
  have above := Above.of_parent? ((wellFormed.mem_children_iff node child).mp listed)
  rcases below with rfl | below
  · exact above
  · exact above.trans below

theorem length_descendants_lt (wellFormed : tree.WellFormed) {node : NodeId}
    (present : tree.contains node = true) :
    (tree.descendants node).length < tree.size := by
  apply length_lt_size present
  · refine List.nodup_cons.mpr ⟨fun member => ?_, wellFormed.nodup_descendants node⟩
    exact wellFormed.acyclic node (wellFormed.above_of_mem_descendants member)
  · intro other member
    exact (wellFormed.above_of_mem_descendants member).contains_lower

theorem mem_descendants_iff (wellFormed : tree.WellFormed) (node lower : NodeId) :
    lower ∈ tree.descendants node ↔ tree.Above node lower := by
  refine ⟨wellFormed.above_of_mem_descendants, fun above => ?_⟩
  obtain ⟨child, linked, rest⟩ := above.cases_tail
  exact mem_visit_of_length_lt wellFormed
    (wellFormed.length_descendants_lt (wellFormed.contains_upper above))
    ⟨child, (wellFormed.mem_children_iff node child).mpr linked, rest⟩

end WellFormed
end Docking.Tree

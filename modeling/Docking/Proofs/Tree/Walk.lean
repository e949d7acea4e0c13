import Docking.Proofs.Tree.Evolution

namespace Docking.Tree

/-! The walks along the links, told step by step and without a bound. On every tree that
public changes lead to they end, and with what the bounded walks give. -/

/-- A climb from a node stops at the first one without a parent. -/
inductive ClimbsTo (tree : Tree) : NodeId → NodeId → Prop
  | stop : tree.parent? node = none → tree.ClimbsTo node node
  | step : tree.parent? node = some parent → tree.ClimbsTo parent top →
      tree.ClimbsTo node top

/-- A search upward from a reference stops where it meets `ancestor` or runs out of parents. -/
inductive Seeks (tree : Tree) (ancestor : NodeId) : Option NodeId → Bool → Prop
  | missed : tree.Seeks ancestor none false
  | met : tree.Seeks ancestor (some ancestor) true
  | step : upper ≠ ancestor → tree.Seeks ancestor (tree.parent? upper) answer →
      tree.Seeks ancestor (some upper) answer

/-- A visit takes the top off a stack and puts its children there, until the stack is empty. -/
inductive Visits (tree : Tree) : List NodeId → List NodeId → Prop
  | done : tree.Visits [] []
  | step : tree.Visits (tree.children node ++ pending) visited →
      tree.Visits (node :: pending) (node :: visited)

variable {tree : Tree}

theorem ClimbsTo.unique {node first second : NodeId} (climbs : tree.ClimbsTo node first)
    (again : tree.ClimbsTo node second) : first = second := by
  induction climbs with
  | stop root =>
      cases again with
      | stop _ => rfl
      | step linked _ => rw [root] at linked; cases linked
  | step linked _ induction =>
      cases again with
      | stop root => rw [root] at linked; cases linked
      | step relinked rest =>
          rw [linked] at relinked
          cases relinked
          exact induction rest

theorem Seeks.unique {ancestor : NodeId} {from? : Option NodeId} {first second : Bool}
    (seeks : tree.Seeks ancestor from? first) (again : tree.Seeks ancestor from? second) :
    first = second := by
  induction seeks with
  | missed => cases again; rfl
  | met =>
      cases again with
      | met => rfl
      | step apart _ => exact absurd rfl apart
  | step apart _ induction =>
      cases again with
      | met => exact absurd rfl apart
      | step _ rest => exact induction rest

theorem Visits.unique {stack first second : List NodeId} (visits : tree.Visits stack first)
    (again : tree.Visits stack second) : first = second := by
  induction visits generalizing second with
  | done => cases again; rfl
  | step _ induction =>
      cases again with
      | step rest => rw [induction rest]

theorem climbsTo_climb {fuel : Nat} {node : NodeId}
    (ended : (tree.climb fuel node).length < fuel) :
    tree.ClimbsTo node ((tree.climb fuel node).getLastD node) := by
  induction fuel generalizing node with
  | zero => cases ended
  | succ fuel induction =>
      cases linked : tree.parent? node with
      | none =>
          simp only [climb, linked]
          exact .stop linked
      | some parent =>
          simp only [climb, linked, List.length_cons, Nat.add_lt_add_iff_right] at ended ⊢
          rw [List.getLastD_cons]
          exact .step linked (induction ended)

theorem seeks_climb {fuel : Nat} {node : NodeId} (ancestor : NodeId)
    (ended : (tree.climb fuel node).length < fuel) :
    tree.Seeks ancestor (tree.parent? node) ((tree.climb fuel node).contains ancestor) := by
  induction fuel generalizing node with
  | zero => cases ended
  | succ fuel induction =>
      cases linked : tree.parent? node with
      | none =>
          simp only [climb, linked]
          exact .missed
      | some parent =>
          simp only [climb, linked, List.length_cons, Nat.add_lt_add_iff_right] at ended ⊢
          by_cases same : parent = ancestor
          · subst same
            rw [List.contains_cons, beq_self_eq_true, Bool.true_or]
            exact .met
          · rw [List.contains_cons, beq_false_of_ne (Ne.symm same), Bool.false_or]
            exact .step same (induction ended)

theorem visits_visit {fuel : Nat} {stack : List NodeId}
    (ended : (tree.visit fuel stack).length < fuel) :
    tree.Visits stack (tree.visit fuel stack) := by
  induction fuel generalizing stack with
  | zero => cases ended
  | succ fuel induction =>
      cases stack with
      | nil => exact .done
      | cons node pending =>
          simp only [visit, List.length_cons, Nat.add_lt_add_iff_right] at ended ⊢
          exact .step (induction ended)

theorem ancestors_of_parent?_eq_none {node : NodeId} (root : tree.parent? node = none) :
    tree.ancestors node = [] := by
  unfold ancestors
  cases tree.size with
  | zero => rfl
  | succ fuel => simp only [climb, root]

theorem descendants_of_not_contains {node : NodeId} (absent : tree.contains node = false) :
    tree.descendants node = [] := by
  rw [descendants, children_of_not_contains absent]
  cases tree.size <;> rfl

namespace WellFormed

variable (wellFormed : tree.WellFormed)
include wellFormed

theorem climbsTo_iff (node top : NodeId) :
    tree.ClimbsTo node top ↔ tree.rootOf node = top := by
  have climbs : tree.ClimbsTo node (tree.rootOf node) := by
    cases linked : tree.parent? node with
    | none =>
        rw [rootOf, ancestors_of_parent?_eq_none linked]
        exact .stop linked
    | some parent =>
        exact climbsTo_climb (wellFormed.length_ancestors_lt (contains_of_parent? linked))
  constructor
  · exact climbs.unique
  · rintro rfl
    exact climbs

theorem seeks_iff (ancestor node : NodeId) (answer : Bool) :
    tree.Seeks ancestor (tree.parent? node) answer ↔
      tree.isAncestor ancestor node = answer := by
  have seeks : tree.Seeks ancestor (tree.parent? node) (tree.isAncestor ancestor node) := by
    cases linked : tree.parent? node with
    | none =>
        rw [isAncestor, ancestors_of_parent?_eq_none linked]
        exact .missed
    | some parent =>
        rw [← linked]
        exact seeks_climb ancestor
          (wellFormed.length_ancestors_lt (contains_of_parent? linked))
  constructor
  · exact seeks.unique
  · rintro rfl
    exact seeks

theorem visits_iff (node : NodeId) (visited : List NodeId) :
    tree.Visits (tree.children node) visited ↔ tree.descendants node = visited := by
  have visits : tree.Visits (tree.children node) (tree.descendants node) := by
    cases present : tree.contains node with
    | false =>
        rw [descendants_of_not_contains present, children_of_not_contains present]
        exact .done
    | true => exact visits_visit (wellFormed.length_descendants_lt present)
  constructor
  · exact visits.unique
  · rintro rfl
    exact visits

theorem isAncestor_iff_transGen (ancestor node : NodeId) :
    tree.isAncestor ancestor node = true ↔
      Relation.TransGen (fun upper lower => lower ∈ tree.children upper) ancestor node := by
  have links : (fun upper lower => lower ∈ tree.children upper) =
      Function.swap fun child parent => tree.parent? child = some parent := by
    funext upper lower
    exact propext (wellFormed.mem_children_iff upper lower)
  rw [wellFormed.isAncestor_iff, links, Relation.transGen_swap, Above]

end WellFormed

def removes (tree : Tree) : Edit → List NodeId
  | .destroy node => (tree.destroy node).2
  | _ => []

/-- All that was ever destroyed on the way, whether or not the record was taken since. -/
def casualties (tree : Tree) : List Edit → List NodeId
  | [] => []
  | edit :: rest => tree.removes edit ++ (tree.apply edit).casualties rest

theorem WellFormed.lost_of_mem_removes (wellFormed : tree.WellFormed) {edit : Edit}
    {node : NodeId} (member : node ∈ tree.removes edit) : (tree.apply edit).Lost node := by
  cases edit with
  | destroy top =>
      refine ⟨?_, ?_⟩
      · rw [Tree.apply, nextIndex_destroy]
        exact wellFormed.index_lt node (wellFormed.contains_of_mem_destroy member)
      · rw [Tree.apply, wellFormed.contains_destroy]
        exact if_pos member
  | _ => cases member

theorem WellFormed.lost_of_mem_casualties (wellFormed : tree.WellFormed) {edits : List Edit}
    {node : NodeId} (member : node ∈ tree.casualties edits) :
    (tree.edit edits).Lost node := by
  induction edits generalizing tree with
  | nil => cases member
  | cons edit rest induction =>
      rcases List.mem_append.mp member with now | later
      · exact (wellFormed.apply edit).lost_edit (wellFormed.lost_of_mem_removes now) rest
      · exact induction (wellFormed.apply edit) later

/-- What holds of a tree on which `gone` was ever destroyed. -/
structure Sound (tree : Tree) (gone : List NodeId) : Prop where
  mem_children_iff : ∀ parent child,
    child ∈ tree.children parent ↔ tree.parent? child = some parent
  children_nodup : ∀ parent, (tree.children parent).Nodup
  contains_of_linked : ∀ parent child, tree.parent? child = some parent →
    tree.contains parent = true ∧ tree.contains child = true
  acyclic : ∀ node, ¬ tree.Above node node
  parent?_of_window : ∀ node window,
    tree.window? node = some window → tree.parent? node = none
  index_lt : ∀ node, tree.contains node = true → node.index < tree.nextIndex
  not_contains_of_destroyed : ∀ node ∈ tree.destroyed, tree.contains node = false
  not_contains_of_gone : ∀ node ∈ gone, tree.contains node = false
  climbsTo_iff : ∀ node top, tree.ClimbsTo node top ↔ tree.rootOf node = top
  seeks_iff : ∀ ancestor node answer,
    tree.Seeks ancestor (tree.parent? node) answer ↔ tree.isAncestor ancestor node = answer
  visits_iff : ∀ node visited,
    tree.Visits (tree.children node) visited ↔ tree.descendants node = visited
  isAncestor_iff : ∀ ancestor node, tree.isAncestor ancestor node = true ↔
    Relation.TransGen (fun upper lower => lower ∈ tree.children upper) ancestor node

theorem sound_edit (edits : List Edit) :
    (empty.edit edits).Sound (empty.casualties edits) := by
  have wellFormed := wellFormed_empty.edit edits
  refine ⟨wellFormed.mem_children_iff, wellFormed.children_nodup, ?_, wellFormed.acyclic,
    wellFormed.parent?_of_window, wellFormed.index_lt, ?_, ?_, wellFormed.climbsTo_iff,
    wellFormed.seeks_iff, wellFormed.visits_iff, wellFormed.isAncestor_iff_transGen⟩
  · intro parent child linked
    exact ⟨wellFormed.contains_parent linked, contains_of_parent? linked⟩
  · intro node member
    exact (wellFormed.lost_of_destroyed node member).2
  · intro node member
    exact (wellFormed_empty.lost_of_mem_casualties member).2

end Docking.Tree

import Docking.Proofs.Tree.Walk

namespace Docking.Tree

/-! The depth-first order of a forest, told by recursion on the forest. It is the order in which
a visit goes through the nodes, and without a branch it is the order without that branch. -/

/-- Each node comes before all that is below it, and that before the siblings behind the node. -/
inductive DepthFirst (tree : Tree) : List NodeId → List NodeId → Prop
  | nil : tree.DepthFirst [] []
  | cons : tree.DepthFirst (tree.children node) below → tree.DepthFirst siblings beside →
      tree.DepthFirst (node :: siblings) (node :: (below ++ beside))

variable {tree : Tree}

theorem Visits.append {first second early late : List NodeId} (visits : tree.Visits first early)
    (later : tree.Visits second late) : tree.Visits (first ++ second) (early ++ late) := by
  induction visits with
  | done => exact later
  | step _ induction =>
      rw [List.append_assoc] at induction
      exact .step induction

theorem DepthFirst.of_append {first second order : List NodeId}
    (ordered : tree.DepthFirst (first ++ second) order) :
    ∃ early late, order = early ++ late ∧ tree.DepthFirst first early ∧
      tree.DepthFirst second late := by
  induction first generalizing order with
  | nil => exact ⟨[], order, rfl, .nil, ordered⟩
  | cons node siblings induction =>
      cases ordered with
      | @cons _ below _ beside lower others =>
          obtain ⟨early, late, rfl, before, after⟩ := induction others
          refine ⟨node :: (below ++ early), late, ?_, .cons lower before, after⟩
          rw [List.cons_append, List.append_assoc]

theorem depthFirst_iff_visits {forest order : List NodeId} :
    tree.DepthFirst forest order ↔ tree.Visits forest order := by
  constructor
  · intro ordered
    induction ordered with
    | nil => exact .done
    | cons _ _ lower others => exact .step (lower.append others)
  · intro visits
    induction visits with
    | done => exact .nil
    | step _ induction =>
        obtain ⟨below, beside, rfl, lower, others⟩ := induction.of_append
        exact .cons lower others

namespace WellFormed

variable (wellFormed : tree.WellFormed)
include wellFormed

theorem depthFirst_children_iff (node : NodeId) (order : List NodeId) :
    tree.DepthFirst (tree.children node) order ↔ tree.descendants node = order :=
  depthFirst_iff_visits.trans (wellFormed.visits_iff node order)

theorem depthFirst_subtree (node : NodeId) : tree.DepthFirst [node] (tree.subtree node) := by
  have below := (wellFormed.depthFirst_children_iff node _).mpr rfl
  have whole : tree.DepthFirst [node] (node :: (tree.descendants node ++ [])) := .cons below .nil
  rwa [List.append_nil] at whole

theorem eq_subtree_of_depthFirst {node : NodeId} {order : List NodeId}
    (ordered : tree.DepthFirst [node] order) : order = tree.subtree node := by
  cases ordered with
  | cons lower others =>
      cases others
      rw [List.append_nil, subtree, (wellFormed.depthFirst_children_iff node _).mp lower]

theorem parent_not_mem_subtree {parent : NodeId} (linked : tree.parent? node = some parent) :
    parent ∉ tree.subtree node := by
  have above := Above.of_parent? linked
  intro listed
  rcases List.mem_cons.mp listed with same | below
  · exact wellFormed.ne_of_above above same
  · exact wellFormed.acyclic parent
      (above.trans ((wellFormed.mem_descendants_iff node parent).mp below))

end WellFormed

/-- When the nodes outside a branch have lost the children inside it and no others, the order
loses the branch and is otherwise as it was. -/
theorem DepthFirst.prune {after : Tree} {inside : NodeId → Bool} {forest order : List NodeId}
    (ordered : tree.DepthFirst forest order)
    (closed : ∀ upper lower, lower ∈ tree.children upper → inside upper = true →
      inside lower = true)
    (kept : ∀ node ∈ order, inside node = false →
      after.children node = (tree.children node).filter fun child => !inside child) :
    after.DepthFirst (forest.filter fun node => !inside node)
      (order.filter fun node => !inside node) := by
  induction ordered with
  | nil => exact .nil
  | @cons node below siblings beside _ _ lower others =>
      have lower := lower fun other listed =>
        kept other (List.mem_cons_of_mem _ (List.mem_append_left _ listed))
      have others := others fun other listed =>
        kept other (List.mem_cons_of_mem _ (List.mem_append_right _ listed))
      cases hidden : inside node with
      | true =>
          -- the whole branch below goes with the node
          have none_left : (tree.children node).filter (fun child => !inside child) = [] := by
            refine List.filter_eq_nil_iff.mpr fun child listed => ?_
            rw [closed node child listed hidden]
            exact Bool.false_ne_true
          rw [none_left] at lower
          rw [List.filter_cons_of_neg (by rw [hidden]; exact Bool.false_ne_true),
            List.filter_cons_of_neg (by rw [hidden]; exact Bool.false_ne_true), List.filter_append]
          generalize below.filter (fun node => !inside node) = rest at lower ⊢
          cases lower
          exact others
      | false =>
          rw [← kept node List.mem_cons_self hidden] at lower
          rw [List.filter_cons_of_pos (by rw [hidden]; rfl),
            List.filter_cons_of_pos (by rw [hidden]; rfl), List.filter_append]
          exact .cons lower others

theorem DepthFirst.congr {after : Tree} {forest order : List NodeId}
    (ordered : tree.DepthFirst forest order)
    (kept : ∀ node ∈ order, after.children node = tree.children node) :
    after.DepthFirst forest order := by
  have pruned := @prune tree after (fun _ => false) forest order ordered nofun
    fun node listed _ => (kept node listed).trans (by simp)
  simpa using pruned

end Docking.Tree

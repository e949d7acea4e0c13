import Docking.Proofs.Tree.Berth

namespace Docking.Tree

/-! What the ready-made insertion does with a node that cannot hang where it belongs. The node is
moved to the rectangle of the target all the same, and a placeholder goes although nothing takes
its slot. -/

variable {tree : Tree} {node target parent : NodeId} {rect : Rect}

def TakesIn (tree : Tree) (target node : NodeId) : Prop :=
  node ≠ target ∧ tree.admits ((tree.yields? target).getD target) node = true

def RestsAt (tree : Tree) (node : NodeId) (rect : Rect) : Prop :=
  ∀ other, (tree.place node rect).layout? other = tree.layout? other

theorem size_place (tree : Tree) (node : NodeId) (rect : Rect) :
    (tree.place node rect).size = tree.size := by
  have placed := congrArg size (@veil_place (fun _ => true) tree node rect fun _ _ => rfl)
  rwa [size_veil, size_veil, size_modify] at placed

theorem RestsAt.sameGeometry (rests : tree.RestsAt node rect) :
    tree.SameGeometry (tree.place node rect) :=
  ⟨.place tree node rect, rests, tree.size_place node rect⟩

namespace WellFormed

variable (wellFormed : tree.WellFormed)
include wellFormed

theorem not_contains_of_yields (yields : tree.yields? target = some parent) (node : NodeId) :
    (tree.edit (Placement.insertAtTarget tree target node)).contains target = false := by
  have present := contains_of_parent? (parent?_of_yields? yields)
  obtain ⟨rect, placed⟩ := layout?_of_contains present
  obtain ⟨early, late, _, edit_eq⟩ :=
    wellFormed.edit_insertAtTarget_of_yields yields placed node
  have hung := wellFormed.hang parent early.length node rect
  have known : ((tree.insertChild parent early.length node).place node rect).contains target =
      true := by
    rw [(SameLinks.place _ node rect).contains_eq, wellFormed.contains_insertChild]
    exact present
  rw [edit_eq, hung.contains_destroy, if_pos ((hung.mem_destroy_iff known target).mpr (.inl rfl))]

theorem admits_of_parent?_hang {index : Nat}
    (linked : ((tree.insertChild parent index node).place node rect).parent? node = some parent) :
    tree.admits parent node = true := by
  rw [(SameLinks.place _ node rect).parent?_eq] at linked
  by_cases admitted : tree.admits parent node = true
  · exact admitted
  · rw [insertChild_of_not_admits admitted] at linked
    exact wellFormed.admits_of_parent? linked

theorem takesIn_iff (known : tree.contains target = true) :
    tree.TakesIn target node ↔
      (tree.edit (Placement.insertAtTarget tree target node)).parent? node =
        some ((tree.yields? target).getD target) := by
  constructor
  · rintro ⟨different, admitted⟩
    obtain ⟨_, _, berthed⟩ := (wellFormed.berthedAt_of_admits known different admitted).berthed
    rw [parent?_eq_bind, berthed.mooring?_node]
    rfl
  · intro linked
    obtain ⟨rect, placed⟩ := layout?_of_contains known
    unfold TakesIn
    cases yielded : tree.yields? target with
    | none =>
        rw [yielded, edit_insertAtTarget_of_stays yielded placed] at linked
        have admitted := wellFormed.admits_of_parent?_hang linked
        exact ⟨((tree.admits_iff target node).mp admitted).1.symm, admitted⟩
    | some parent =>
        obtain ⟨early, late, slot, edit_eq⟩ :=
          wellFormed.edit_insertAtTarget_of_yields yielded placed node
        have gone := wellFormed.not_contains_of_yields yielded node
        have hung := wellFormed.hang parent early.length node rect
        refine ⟨?_, ?_⟩
        · rintro rfl
          exact Bool.false_ne_true (gone.symm.trans (contains_of_parent? linked))
        · rw [yielded, edit_eq, hung.parent?_destroy] at linked
          split at linked
          · cases linked
          · exact wellFormed.admits_of_parent?_hang linked

theorem sameGeometry_iff_of_refused (known : tree.contains target = true)
    (refused : ¬ tree.TakesIn target node) :
    tree.SameGeometry (tree.edit (Placement.insertAtTarget tree target node)) ↔
      tree.yields? target = none ∧
        ∃ rect, tree.layout? target = some rect ∧ tree.RestsAt node rect := by
  obtain ⟨rect, placed⟩ := layout?_of_contains known
  cases yielded : tree.yields? target with
  | some parent =>
      refine ⟨fun same => ?_, fun stays => nomatch stays.1⟩
      have gone := wellFormed.not_contains_of_yields yielded node
      cases known.symm.trans ((same.links.contains_eq target).symm.trans gone)
  | none =>
      have hindered : ¬ tree.admits target node = true := fun admitted =>
        refused ⟨((tree.admits_iff target node).mp admitted).1.symm,
          by rw [yielded]; exact admitted⟩
      rw [edit_insertAtTarget_of_stays yielded placed, addChild,
        insertChild_of_not_admits hindered]
      constructor
      · exact fun same => ⟨rfl, rect, placed, same.layout?_eq⟩
      · rintro ⟨_, _, replaced, rests⟩
        cases placed.symm.trans replaced
        exact rests.sameGeometry

end WellFormed

/-- The insertion docks the node or leaves everything as it was in three cases only: the target is
unknown, the node can hang where it belongs, or the target is no placeholder and the node need not
be moved. A placeholder is destroyed in every case, and takes the node in only in the second. -/
theorem insertAtTarget_allOrNothing_iff (reachable : Evolves .empty tree) (target node : NodeId) :
    let after := tree.edit (Placement.insertAtTarget tree target node)
    (BerthedAt tree target node after ∨ tree.SameGeometry after ↔
      tree.contains target = false ∨ tree.TakesIn target node ∨
        tree.yields? target = none ∧
          ∃ rect, tree.layout? target = some rect ∧ tree.RestsAt node rect) ∧
      ∀ parent, tree.yields? target = some parent →
        after.contains target = false ∧
          (after.parent? node = some parent ↔ tree.TakesIn target node) := by
  have wellFormed := reachable.wellFormed wellFormed_empty
  intro after
  refine ⟨?_, fun parent yields => ⟨wellFormed.not_contains_of_yields yields node, ?_⟩⟩
  · cases known : tree.contains target with
    | false =>
        have unchanged : after = tree := edit_insertAtTarget_of_unknown known
        exact iff_of_true (.inr (unchanged ▸ .refl tree)) (.inl rfl)
    | true =>
        by_cases takes : tree.TakesIn target node
        · exact iff_of_true (.inl (wellFormed.berthedAt_of_admits known takes.1 takes.2))
            (.inr (.inl takes))
        · have elsewhere : ¬ BerthedAt tree target node after := fun berthedAt => by
            obtain ⟨_, _, berthed⟩ := berthedAt.berthed
            refine takes ((wellFormed.takesIn_iff known).mpr ?_)
            rw [parent?_eq_bind, berthed.mooring?_node]
            rfl
          rw [or_iff_right elsewhere, or_iff_right Bool.noConfusion, or_iff_right takes]
          exact wellFormed.sameGeometry_iff_of_refused known takes
  · have known := contains_of_parent? (parent?_of_yields? yields)
    rw [wellFormed.takesIn_iff known, yields]
    rfl

/-- A placeholder, and a node that was destroyed. -/
def orphanedSlot : List Edit :=
  [.add (.newPanel "row") ⟨0, 0, 300, 100⟩, .add .newTargetBox ⟨100, 0, 100, 100⟩,
    .addChild ⟨0⟩ ⟨1⟩, .add (.newPanel "tool") ⟨0, 0, 80, 40⟩, .destroy ⟨2⟩]

/-- The placeholder goes although the node is not there to take its slot. -/
theorem placeholder_lost_of_orphanedSlot :
    let tree := empty.edit orphanedSlot
    let after := tree.edit (Placement.insertAtTarget tree ⟨1⟩ ⟨2⟩)
    after.contains ⟨1⟩ = false ∧ after.children ⟨0⟩ = [] ∧
      ¬ (BerthedAt tree ⟨1⟩ ⟨2⟩ after ∨ tree.SameGeometry after) := by
  have yields : (empty.edit orphanedSlot).yields? ⟨1⟩ = some ⟨0⟩ := by decide +kernel
  obtain ⟨iff, destroys⟩ := insertAtTarget_allOrNothing_iff (.edit .empty orphanedSlot) ⟨1⟩ ⟨2⟩
  refine ⟨(destroys ⟨0⟩ yields).1, by decide +kernel, fun outcome => ?_⟩
  rcases iff.mp outcome with unknown | takes | ⟨stays, _⟩
  · exact absurd unknown (by decide +kernel)
  · exact absurd takes.2 (by decide +kernel)
  · rw [yields] at stays
    cases stays

end Docking.Tree

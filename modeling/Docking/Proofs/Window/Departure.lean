import Docking.Proofs.Window.Attendance

namespace Docking

/-! Destroyed dockables leave with their windows. -/

theorem House.dismiss {survey : Survey} {lodgings : Lodgings} {scene : Scene}
    {node : NodeId} {rest : List NodeId}
    (house : House survey (· ∈ node :: rest) lodgings scene)
    (unknown : lodgings node = none) : House survey (· ∈ rest) lodgings scene :=
  { house with
    fits := fun other lodging lodged moored => by
      refine house.fits other lodging lodged fun drifts => ?_
      rcases List.mem_cons.mp drifts with rfl | waiting
      · exact Option.some_ne_none lodging (lodged.symm.trans unknown)
      · exact moored waiting }

namespace Session

variable {session : Session} {survey : Survey}

theorem house_repaint {adrift : NodeId → Prop}
    (house : House survey adrift session.lodgings session.toScene) (node : NodeId) :
    House survey adrift (session.repaint node).lodgings (session.repaint node).toScene := by
  obtain ⟨tree, same, scene_eq⟩ := session.toScene_repaint node
  rw [lodgings_repaint, scene_eq]
  exact house.sameLinks same

theorem Tidy.update (tidy : session.Tidy survey) (node : NodeId)
    (change : Dockable → Dockable)
    (same : ∀ dockable, session.dockable? node = some dockable →
      (change dockable).lodging = dockable.lodging) :
    (session.update node change).Tidy survey := by
  unfold Tidy
  rw [lodgings_update_of_eq same]
  exact tidy

theorem Tidy.enterPhase (tidy : session.Tidy survey) {node : NodeId} {phase : Phase}
    (roams : session.Roams node) (free : phase ≠ .docked) :
    (session.enterPhase node phase).Tidy survey := by
  refine house_repaint (tidy.update node _ fun dockable found => ?_) node
  obtain ⟨window, lodged⟩ := roams
  rw [lodgings_of_dockable? found] at lodged
  have lodging_eq := Option.some.inj lodged
  have owned : dockable.window = window := congrArg Lodging.window lodging_eq
  rw [lodging_eq, ← owned]
  exact congrArg (Lodging.mk · dockable.window) (decide_eq_false free)

theorem Tidy.forgetTargets (tidy : session.Tidy survey) (destroyed : List NodeId)
    (node : NodeId) : (forgetTargets destroyed session node).Tidy survey := by
  unfold Session.forgetTargets
  cases found : session.dockable? node with
  | none => exact tidy
  | some dockable =>
      have cleared := tidy.update node (fun dockable =>
        { dockable with
          originTarget :=
            if leadsInto destroyed dockable.originTarget then none else dockable.originTarget
          activeTarget :=
            if leadsInto destroyed dockable.activeTarget then none
            else dockable.activeTarget }) fun _ _ => rfl
      dsimp only
      split
      · next both =>
          rw [Bool.and_eq_true, decide_eq_true_eq] at both
          have roams := roams_of_isInFlight found (congrArg Phase.isInFlight both.2)
          exact cleared.enterPhase (roams.update fun _ _ => rfl) Phase.noConfusion
      · exact cleared

theorem house_forgetDockable (destroyed : List NodeId) {node : NodeId} {rest : List NodeId}
    (house : House survey (· ∈ node :: rest) session.lodgings session.toScene)
    (lost : session.tree.Lost node) :
    House survey (· ∈ rest) (forgetDockable destroyed session node).lodgings
      (forgetDockable destroyed session node).toScene := by
  rcases session.forgetDockable_cases node destroyed with
    ⟨unknown, same⟩ | ⟨dockable, _, _, found, same⟩
  · rw [same]
    exact house.dismiss (congrArg (Option.map Dockable.lodging) unknown)
  · have owned : session.lodgings.window? node = dockable.carrier.window := by
      rw [Lodgings.window?, lodgings_of_dockable? found]
      rfl
    have erased : (forgetDockable destroyed session node).lodgings =
        Function.update session.lodgings node none := by
      funext other
      rw [lodgings, same, dockable?, Table.get?_erase, Function.update_apply]
      split <;> rfl
    rw [erased, same]
    exact (house.release owned lost.2).dismiss (by rw [Function.update_self])

theorem tidy_foldl_forgetDockable (destroyed nodes : List NodeId) {session : Session}
    (house : House survey (· ∈ nodes) session.lodgings session.toScene)
    (lost : ∀ node ∈ nodes, session.tree.Lost node) :
    (nodes.foldl (forgetDockable destroyed) session).Tidy survey := by
  induction nodes generalizing session with
  | nil => exact house.mono fun node listed => nomatch listed
  | cons node rest induction =>
      have evolves := session.evolves_forgetDockable node destroyed
      refine induction (house_forgetDockable destroyed house (lost node List.mem_cons_self)) ?_
      exact fun other waiting =>
        evolves.lost house.wellFormed (lost other (List.mem_cons_of_mem _ waiting))

theorem tidy_syncDestroyed
    (house : House survey (· ∈ session.tree.destroyed) session.lodgings session.toScene) :
    session.syncDestroyed.Tidy survey := by
  have wellFormed := house.wellFormed
  unfold syncDestroyed
  split
  · next nothing =>
      rw [nothing] at house
      exact house.mono fun node listed => nomatch listed
  · have lost := wellFormed.lost_of_destroyed
    generalize session.tree.destroyed = destroyed at house lost
    -- all that was destroyed is adrift until its turn comes
    have taken : House survey (· ∈ destroyed) session.lodgings
        { session.toScene with tree := session.tree.forgetDestroyed } :=
      house.relink wellFormed.forgetDestroyed fun _ _ _ _ => rfl
    have left := @tidy_foldl_forgetDockable survey destroyed destroyed
      { session with tree := session.tree.forgetDestroyed } taken lost
    dsimp only
    generalize destroyed.foldl (forgetDockable destroyed)
      { session with tree := session.tree.forgetDestroyed } = remaining at left ⊢
    generalize remaining.dockables.keys = nodes
    induction nodes generalizing remaining with
    | nil => exact left
    | cons node rest induction => exact induction _ (left.forgetTargets destroyed node)

theorem Tidy.syncDestroyed (tidy : session.Tidy survey) :
    session.syncDestroyed.Tidy survey :=
  tidy_syncDestroyed (House.mono tidy fun _ drifts => drifts.elim)

theorem Tidy.destroyWidget (tidy : session.Tidy survey) (node : NodeId) :
    (session.destroyWidget node).Tidy survey := by
  unfold Session.destroyWidget
  cases present : session.tree.contains node with
  | false =>
      rw [Tree.destroy_of_not_contains present]
      exact tidy.syncDestroyed
  | true =>
      have excused : House survey (· ∈ (session.tree.destroy node).1.destroyed)
          session.lodgings session.toScene := House.mono tidy fun _ drifts => drifts.elim
      refine tidy_syncDestroyed (excused.destroy fun _ _ => .inl ?_)
      rw [Tree.destroyed_destroy]
      exact List.mem_append_right _
        ((tidy.wellFormed.mem_destroy_iff present node).mpr (.inl rfl))

end Session
end Docking

import Docking.Proofs.Twins.Rest

namespace Docking

/-! The ready-made insertion puts the same dockable in the same place in both of two sessions, and
what is done with one that cannot be inserted is the same as well. -/

namespace Tree

variable {inside : NodeId → Bool} {node : NodeId}

theorem veil_eq_of_beneath {first second : Tree}
    (same : second.veil (beneath inside node) = first.veil (beneath inside node)) :
    second.veil inside = first.veil inside := by
  have twice (tree : Tree) : (tree.veil (beneath inside node)).veil inside = tree.veil inside := by
    unfold veil
    simp only [mk.injEq, and_self, and_true]
    apply Table.ext
    simp only [Table.mapValues, List.map_map]
    apply List.map_congr_left
    intro entry _
    simp only [Function.comp_apply, Prod.mk.injEq, true_and]
    by_cases veiled : inside entry.1 = true
    · rw [if_pos veiled, if_pos veiled]
      by_cases hidden : beneath inside node entry.1 = true
      · rw [if_pos hidden]
        rfl
      · rw [if_neg hidden]
    · have shown : ¬ beneath inside node entry.1 = true := fun hidden =>
        veiled ((Bool.and_eq_true _ _).mp hidden).1
      rw [if_neg veiled, if_neg veiled, if_neg shown]
  rw [← twice, same, twice]

end Tree

/-- The ready-made hooks with any filter that looks at nothing but which nodes they are. -/
def Hooks.filtering (filter : Option (NodeId → NodeId → Bool)) : Hooks :=
  { Hooks.readyMade with accept := filter.map fun accept _ => accept }

theorem Hooks.runAccept_filtering (filter : Option (NodeId → NodeId → Bool))
    (first second : Tree) (target dockable : NodeId) :
    (filtering filter).runAccept second target dockable =
      (filtering filter).runAccept first target dockable := by
  cases filter <;> rfl

namespace Scene

variable {inside : NodeId → Bool} {known : WindowId → Prop} {node : NodeId}

namespace Secludes

variable {scene : Scene} (secludes : scene.Secludes inside known node)
include secludes

theorem outside_of_parent? {target parent : NodeId} (outside : inside target = false)
    (linked : scene.tree.parent? target = some parent) : inside parent = false := by
  rw [Bool.eq_false_iff]
  intro veiled
  exact Bool.false_ne_true
    (outside.symm.trans (secludes.covers.below target parent linked veiled))

theorem hang {parent : NodeId} (index : Nat) (outside : inside parent = false)
    (present : scene.tree.contains parent = true) (rect : Rect) :
    ((scene.tree.insertChild parent index node).place node rect).parent? node = some parent ∧
      ((scene.tree.insertChild parent index node).place node rect).veil
          (Tree.beneath inside node) =
        ((scene.tree.veil inside).insertChild parent index node).modify node fun data =>
          { data with layout := rect } := by
  have wellFormed := secludes.wellFormed
  have covers := secludes.covers
  have admitted := covers.admits wellFormed secludes.present present outside
  have hung := wellFormed.parent?_insertChild index admitted node
  have windowless := wellFormed.window?_insertChild index admitted node
  rw [if_pos rfl] at hung windowless
  refine ⟨?_, ?_⟩
  · exact ((Tree.SameLinks.place _ node rect).parent?_eq node).trans hung
  · have covered := covers.insertChild wellFormed index outside secludes.present present
    rw [Tree.veil_beneath_place covered (wellFormed.insertChild parent index node) windowless,
      Tree.veil_insertChild]

theorem parent?_replace {target parent : NodeId} (index : Nat) (outside : inside target = false)
    (linked : scene.tree.parent? target = some parent) (rect : Rect) :
    (((scene.tree.insertChild parent index node).place node rect).destroy target).1.parent? node =
      some parent := by
  have wellFormed := secludes.wellFormed
  have same := Tree.SameLinks.place (scene.tree.insertChild parent index node) node rect
  have inserted := same.wellFormed (wellFormed.insertChild parent index node)
  have hung := secludes.hang index (secludes.outside_of_parent? outside linked)
    (wellFormed.contains_parent linked) rect
  have beside := wellFormed.not_above_insertChild index secludes.rooted linked
  rw [inserted.parent?_destroy, if_neg, hung.1]
  intro listed
  cases present : ((scene.tree.insertChild parent index node).place node rect).contains target with
  | false =>
      rw [Tree.destroy_of_not_contains present] at listed
      cases listed
  | true =>
      rcases (inserted.mem_destroy_iff present node).mp listed with here | above
      · rw [← here, secludes.covers.node] at outside
        cases outside
      · exact beside (above.mono fun child _ linked => (same.parent?_eq child).symm.trans linked)

end Secludes

namespace Alike

variable {first second : Scene} (alike : Alike inside known first second)
  (secludes : first.Secludes inside known node) (secludes' : second.Secludes inside known node)
  {target : NodeId} (outside : inside target = false)
include alike outside

omit secludes in
theorem insertAtTarget_eq :
    Placement.insertAtTarget second.tree target node =
      Placement.insertAtTarget first.tree target node := by
  unfold Placement.insertAtTarget
  rw [alike.layout?_eq outside,
    alike.read (·.isTargetBox target) fun tree => tree.isTargetBox_veil inside target,
    alike.read (·.parent? target) fun tree => tree.parent?_veil inside target,
    alike.read (·.indexOf? target) fun tree => tree.indexOf?_veil inside target]

include secludes secludes'

theorem insertAtTarget :
    let edits := Placement.insertAtTarget first.tree target node
    edits = [] ∨ ((first.tree.edit edits).parent? node).isSome = true ∧
      ((second.tree.edit edits).parent? node).isSome = true ∧
      (second.tree.edit edits).veil (Tree.beneath inside node) =
        (first.tree.edit edits).veil (Tree.beneath inside node) := by
  intro edits
  cases placed : first.tree.layout? target with
  | none =>
      left
      simp only [edits, Placement.insertAtTarget, placed]
  | some rect =>
      right
      have present : first.tree.contains target = true := Tree.contains_of_layout? placed
      have present' : second.tree.contains target = true := by
        rw [← present]
        exact alike.read (·.contains target) fun tree => tree.contains_veil inside target
      simp only [edits, Placement.insertAtTarget, placed]
      split
      · next parent index _ linked _ =>
          have linked' : second.tree.parent? target = some parent := by
            rw [← linked]
            exact alike.read (·.parent? target) fun tree => tree.parent?_veil inside target
          have beyond := secludes.outside_of_parent? outside linked
          have hung := secludes.hang index beyond (secludes.wellFormed.contains_parent linked) rect
          have hung' :=
            secludes'.hang index beyond (secludes'.wellFormed.contains_parent linked') rect
          simp only [Tree.edit_cons, Tree.edit_nil, Tree.apply]
          refine ⟨?_, ?_, ?_⟩
          · rw [secludes.parent?_replace index outside linked]
            rfl
          · rw [secludes'.parent?_replace index outside linked']
            rfl
          · rw [Tree.veil_destroy, Tree.veil_destroy, hung.2, hung'.2, alike.tree_eq]
      · have children_eq : second.tree.children target = first.tree.children target :=
          alike.read (·.children target) fun tree => tree.children_veil inside target
        have hung := secludes.hang (first.tree.children target).length outside present rect
        have hung' := secludes'.hang (first.tree.children target).length outside present' rect
        simp only [Tree.edit_cons, Tree.edit_nil, Tree.apply, Tree.addChild, children_eq]
        refine ⟨?_, ?_, ?_⟩
        · rw [hung.1]
          rfl
        · rw [hung'.1]
          rfl
        · rw [hung.2, hung'.2, alike.tree_eq]

end Alike
end Scene

namespace Session

variable {inside : NodeId → Bool} {known : WindowId → Prop} {node target : NodeId}

namespace Sole

variable {owned : WindowId → Prop} {session : Session} (sole : Sole owned node session)
include sole

omit sole in
theorem withCarrier {wider : WindowId → Prop} (sole : Sole owned node session)
    {action : Carrier → Scene → Carrier × Scene}
    (owns : ∀ dockable window, session.dockable? node = some dockable →
      (action dockable.carrier session.toScene).1.window = some window → wider window) :
    Sole wider node (session.withCarrier node action) := by
  refine ⟨fun other different => ?_, fun after window same owned => ?_⟩
  · unfold Session.withCarrier
    split
    · exact sole.alone other different
    · rw [dockable?_update, if_neg different]
      exact sole.alone other different
  · cases found : session.dockable? node with
    | none =>
        unfold Session.withCarrier at same
        rw [found] at same
        cases found.symm.trans same
    | some dockable =>
        rw [dockable?_withCarrier found] at same
        cases same
        exact owns dockable window found owned

theorem afterRelease : Sole owned node (session.withCarrier node Carrier.afterRelease) :=
  sole.withCarrier fun dockable window found owns => by
    rw [Carrier.window_afterRelease] at owns
    exact sole.owned dockable window found owns

theorem beforeDock :
    Sole (fun _ => False) node
      (session.withCarrier node fun carrier scene => carrier.beforeDock scene node) :=
  sole.withCarrier fun dockable window _ owns => by
    rw [Carrier.window_beforeDock] at owns
    cases owns

theorem docked :
    Sole owned node { ((session.withCarrier node Carrier.afterRelease).update node fun dockable =>
      { dockable with activeTarget := none, originTarget := none, press := none }).enterPhase
        node .docked with inFlight := none } := by
  have released := sole.afterRelease
  have cleared : Sole owned node ((session.withCarrier node Carrier.afterRelease).update node
      fun dockable =>
        { dockable with activeTarget := none, originTarget := none, press := none }) :=
    released.update fun dockable window found owns => released.owned dockable window found owns
  exact (cleared.enterPhase node .docked).transfer fun _ => rfl

theorem land : Sole owned node (session.land node) :=
  sole.docked.syncDestroyed

end Sole

variable {first second : Session}

theorem Alike.land (alike : Alike inside known first second)
    (sole : Sole (fun _ => False) node first) (sole' : Sole (fun _ => False) node second) :
    Alike inside known (first.land node) (second.land node) := by
  have released := ((first.alike_afterRelease node).symm.trans alike).trans
    (second.alike_afterRelease node)
  have docked := ((released.update node (fun dockable =>
    { dockable with activeTarget := none, originTarget := none, press := none })
      fun _ => rfl).enterPhase node .docked).withInFlight none
  exact docked.syncDestroyed sole.docked sole'.docked fun _ owned => owned.elim

theorem rested_land (alike : Alike (Tree.beneath inside node) known first second)
    (sole : Sole (fun _ => False) node first) (sole' : Sole (fun _ => False) node second) :
    Rested inside known node (first.land node) (second.land node) := by
  have landed := alike.land sole sole'
  have layout_eq := landed.scene.layout?_eq (Tree.beneath_self inside node)
  have windowless {session : Session} (sole : Sole (fun _ => False) node session) :
      (session.dockable? node).map (fun dockable => dockable.window.isSome) =
        (session.dockable? node).map fun _ => false := by
    cases found : session.dockable? node with
    | none => rfl
    | some dockable =>
        cases owns : dockable.window with
        | none => simp only [Option.map_some, owns, Option.isSome_none]
        | some window => exact (sole.owned dockable window found owns).elim
  refine ⟨⟨⟨Tree.veil_eq_of_beneath landed.scene.tree_eq, landed.scene.desktop⟩,
    landed.settings_eq, landed.dockables_eq, landed.inFlight_eq, landed.outbox_eq⟩, ?_⟩
  unfold rest
  rw [layout_eq, windowless sole.land, windowless sole'.land]
  cases found : (first.land node).dockable? node with
  | none => rw [landed.dockable?_of_none found]
  | some dockable =>
      obtain ⟨carrier, found'⟩ := landed.dockable?_of_some found
      rw [found']
      rfl

namespace Twins

variable (twins : Twins inside known node first second) {dockable : Dockable}
  (found : first.dockable? node = some dockable) (filter : Option (NodeId → NodeId → Bool))
  (root : Point)
include twins found

theorem turnAway_rested :
    Rested inside known node
      (first.turnAway target node root (.filtering filter)).1
      (second.turnAway target node root (.filtering filter)).1 := by
  have cleared := twins.update (fun dockable => { dockable with activeTarget := none })
    (fun _ => rfl) (fun _ => rfl) fun _ _ aimed => nomatch aimed
  have known : (first.update node fun dockable =>
      { dockable with activeTarget := none }).dockable? node =
        some { dockable with activeTarget := none } := by
    rw [dockable?_update, if_pos rfl, found]
    rfl
  exact cleared.releaseUndocked_rested known root

theorem dock (outside : inside target = false) :
    let reaction := first.dock target node root (.filtering filter)
    let reaction' := second.dock target node root (.filtering filter)
    reaction'.status = reaction.status ∧ reaction'.consulted = reaction.consulted ∧
      Rested inside known node reaction.session reaction'.session := by
  have freed := twins.beforeDock
  have windowless := twins.held.sole.beforeDock
  have windowless' := twins.held'.sole.beforeDock
  have carried := dockable?_withCarrier found fun carrier scene => carrier.beforeDock scene node
  intro reaction reaction'
  simp only [reaction, reaction', Session.dock, Hooks.runAccept_filtering filter first.tree second.tree]
  generalize first.withCarrier node (fun carrier scene => carrier.beforeDock scene node) = left
    at freed windowless carried ⊢
  generalize second.withCarrier node (fun carrier scene => carrier.beforeDock scene node) = right
    at freed windowless' ⊢
  split
  · have inserted (tree : Tree) : (Hooks.filtering filter).runInsert tree target node =
        (tree.edit (Placement.insertAtTarget tree target node), [.insert target node]) := rfl
    have scene := freed.alike.scene
    rw [inserted, inserted, scene.insertAtTarget_eq outside]
    rcases scene.insertAtTarget freed.held.secludes freed.held'.secludes outside with
      nothing | ⟨hangs, hangs', same⟩
    · -- the target is gone, and the dockable is left a root
      rw [nothing]
      simp only [Tree.edit_nil, freed.held.secludes.rooted, freed.held'.secludes.rooted]
      exact ⟨trivial, rfl, freed.turnAway_rested carried filter root⟩
    · generalize Placement.insertAtTarget left.tree target node = edits at hangs hangs' same ⊢
      obtain ⟨parent, linked⟩ := Option.isSome_iff_exists.mp hangs
      obtain ⟨parent', linked'⟩ := Option.isSome_iff_exists.mp hangs'
      simp only [linked, linked']
      have placed := freed.alike.replant same
      exact ⟨trivial, rfl, rested_land placed (windowless.transfer fun _ => rfl)
        (windowless'.transfer fun _ => rfl)⟩
  · exact ⟨rfl, rfl, twins.turnAway_rested found filter root⟩

end Twins
end Session
end Docking

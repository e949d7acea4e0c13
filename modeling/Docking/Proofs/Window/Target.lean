import Docking.Proofs.Flight.Run
import Docking.Proofs.Window.Drag

namespace Docking

/-! Events on targets with the ready-made placements leave the records in agreement. -/

/-- Feedback leaves the tree alone, and placements are missing or the ready-made ones. -/
structure Hooks.Standard (hooks : Hooks) : Prop where
  onlyShows : hooks.OnlyShows
  insert : hooks.insert = .none ∨ hooks.insert = readyMade.insert
  remove : hooks.remove = .none ∨ hooks.remove = readyMade.remove

namespace Hooks.Standard

variable {hooks : Hooks} (standard : hooks.Standard)
include standard

theorem fst_runInsert (tree : Tree) (target dockable : NodeId) :
    (hooks.runInsert tree target dockable).1 =
      tree.edit (Placement.insertAtTarget tree target dockable) := by
  unfold runInsert
  rcases standard.insert with missing | ready
  · rw [missing]
    rfl
  · rw [ready]
    rfl

theorem fst_runRemove (tree : Tree) (target dockable : NodeId) :
    (hooks.runRemove tree target dockable).1 = (tree.detach dockable).1 ∨
      (hooks.runRemove tree target dockable).1 =
        tree.edit (Placement.removeLeavingBox tree dockable) := by
  unfold runRemove
  rcases standard.remove with missing | ready
  · rw [missing]
    exact .inl rfl
  · rw [ready]
    exact .inr rfl

end Hooks.Standard

namespace Session

variable {session : Session} {node : NodeId} {survey : Survey}

namespace Attends

variable {moorings : NodeId → Option Mooring} {docked : Bool} {parent : Option NodeId}
  {window : Option WindowId}

theorem roams (attends : Attends survey moorings node false parent window session) :
    session.Roams node :=
  ⟨window, attends.lodged⟩

theorem tryInsertChild
    (attends : Attends survey moorings node docked parent none session) (above : NodeId)
    (index : Nat) :
    ∃ under, Attends survey moorings node docked under none
      { session with tree := session.tree.insertChild above index node } := by
  by_cases admitted : session.tree.admits above node = true
  · exact ⟨some above, attends.insertChild index admitted⟩
  · rw [Tree.insertChild_of_not_admits admitted]
    exact ⟨parent, attends⟩

theorem destroy {target : NodeId}
    (attends : Attends survey moorings node docked parent window session)
    (linked : (session.tree.parent? target).isSome = true) (different : node ≠ target)
    (beside : ¬ session.tree.Above target node) :
    Attends survey (session.tree.destroy target).1.mooring? node docked parent window
      { session with tree := (session.tree.destroy target).1 } := by
  refine @of_house { session with tree := (session.tree.destroy target).1 } node survey
    docked parent window (attends.house.destroy fun _ _ => .inr linked) attends.lodged ?_
  dsimp only
  rw [attends.wellFormed.mooring?_destroy, if_neg]
  · exact attends.hosts.mooring?_eq
  · intro removed
    obtain ⟨upper, above⟩ := Option.isSome_iff_exists.mp linked
    rcases (attends.wellFormed.mem_destroy_iff (Tree.contains_of_parent? above) node).mp
      removed with same | below
    · exact different same
    · exact beside below

theorem insertAtTarget (attends : Attends survey moorings node docked none none session)
    (target : NodeId) :
    ∃ moorings above, Attends survey moorings node docked above none
      { session with
        tree := session.tree.edit (Placement.insertAtTarget session.tree target node) } := by
  unfold Placement.insertAtTarget
  cases session.tree.layout? target with
  | none => exact ⟨moorings, none, attends⟩
  | some rect =>
      dsimp only
      split
      -- a placeholder gives up its slot, any other target takes the dockable as a child
      · next parent index box linked indexed =>
          have root := attends.hosts.parent?_eq
          have different : node ≠ target := by
            rintro rfl
            exact Option.some_ne_none parent (linked.symm.trans root)
          have beside := attends.wellFormed.not_above_insertChild index root linked
          obtain ⟨above, inserted⟩ := attends.tryInsertChild parent index
          have same := Tree.SameLinks.place (session.tree.insertChild parent index node) node rect
          have placed := inserted.sameLinks same
          refine ⟨_, above, placed.destroy ?_ different fun upward => beside ?_⟩
          · dsimp only
            rw [same.parent?_eq, Tree.parent?_eq_bind,
              attends.wellFormed.mooring?_insertChild_of_ne index different.symm,
              ← Tree.parent?_eq_bind, linked]
            rfl
          · exact upward.mono fun child _ linked => (same.parent?_eq child).symm.trans linked
      · obtain ⟨above, inserted⟩ := attends.tryInsertChild target
          (session.tree.children target).length
        exact ⟨moorings, above, inserted.sameLinks (.place _ node rect)⟩

end Attends

theorem Tidy.runRemove (tidy : session.Tidy survey) {dockable : Dockable} {target : NodeId}
    (found : session.dockable? node = some dockable)
    (linked : session.tree.parent? node = some target)
    (fresh : session.dockable? session.tree.nextId = none) {hooks : Hooks}
    (standard : hooks.Standard) :
    (∃ moorings, Attends survey moorings node true none none
      { session with tree := (hooks.runRemove session.tree target node).1 }) ∧
      (hooks.runRemove session.tree target node).1.admits target node = true := by
  have attends := tidy.attends_of_parent? found linked
  have wellFormed := tidy.wellFormed
  rcases standard.fst_runRemove session.tree target node with removed | removed
  · rw [removed]
    exact ⟨⟨_, attends.detach⟩, wellFormed.admits_detach linked⟩
  · rw [removed]
    refine ⟨⟨_, @Attends.of_house { session with
      tree := session.tree.edit (Placement.removeLeavingBox session.tree node) } node survey
        true none none ?_ attends.lodged ?_⟩, wellFormed.admits_removeLeavingBox linked⟩
    · refine attends.house.relink (wellFormed.edit _) fun other lodging lodged different => ?_
      -- the placeholder is new and no dockable
      have known : other ≠ session.tree.nextId := by
        rintro rfl
        rw [lodgings, fresh] at lodged
        cases lodged
      rw [wellFormed.mooring?_removeLeavingBox linked known, wellFormed.mooring?_detach,
        if_neg different]
    · have known := wellFormed.ne_nextId (Tree.contains_of_parent? linked)
      dsimp only
      rw [wellFormed.mooring?_removeLeavingBox linked known]
      exact attends.detach.hosts.mooring?_eq

theorem Orderly.roams_of_inFlight (orderly : session.Orderly)
    (flying : session.inFlight = some node) : session.Roams node := by
  obtain ⟨standing, stands, inFlight⟩ := (orderly.single.inFlight_iff node).mp flying
  obtain ⟨dockable, found, rfl⟩ := Option.map_eq_some_iff.mp stands
  exact roams_of_isInFlight found inFlight

namespace Tidy

variable (tidy : session.Tidy survey) {target : NodeId} {hooks : Hooks}
include tidy

theorem dropCandidate (roams : session.Roams node) :
    (session.dropCandidate node).Tidy survey := by
  have cleared := tidy.update node (fun dockable => { dockable with activeTarget := none })
    fun _ _ => rfl
  exact cleared.enterPhase (roams.update fun _ _ => rfl) Phase.noConfusion

theorem takeOver (roams : session.Roams node) (target : NodeId) (previous : Option NodeId) :
    (session.takeOver target node previous).Tidy survey := by
  have aimed := tidy.update node (fun dockable => { dockable with activeTarget := some target })
    fun _ _ => rfl
  have hovers := aimed.enterPhase (roams.update fun _ _ => rfl)
    (show Phase.hovering ≠ .docked from Phase.noConfusion)
  cases previous with
  | none => exact hovers
  | some previous =>
      have told : (session.notify previous .dockLeave).Tidy survey := tidy
      have aimed := told.update node
        (fun dockable => { dockable with activeTarget := some target }) fun _ _ => rfl
      refine aimed.enterPhase ?_ Phase.noConfusion
      exact Roams.update (show (session.notify previous .dockLeave).Roams node from roams)
        fun _ _ => rfl

theorem targetMotion (onlyShows : hooks.OnlyShows) (roams : session.Roams node)
    (target : NodeId) (root : Point) :
    (session.targetMotion target node root hooks).session.Tidy survey := by
  have moved := session.moved_targetMotion node target hooks root
  generalize session.targetMotion target node root hooks = reaction at moved ⊢
  cases moved with
  | unknown missing => exact tidy
  | refused found outside elsewhere => exact tidy
  | left found outside aims =>
      rw [fst_giveFeedback onlyShows]
      exact tidy.dropCandidate roams
  | kept found inside keeps => exact tidy
  | @taken dockable found inside takes =>
      rw [fst_giveFeedback onlyShows]
      exact tidy.takeOver roams target dockable.activeTarget

theorem targetLeave (onlyShows : hooks.OnlyShows) (orderly : session.Orderly)
    (target : NodeId) : (session.targetLeave target hooks).session.Tidy survey := by
  unfold Session.targetLeave
  dsimp only
  rw [fst_giveFeedback onlyShows]
  split
  · exact tidy
  · next dragged flying =>
      split
      · exact tidy.dropCandidate (orderly.roams_of_inFlight flying)
      · exact tidy

theorem turnAway (onlyShows : hooks.OnlyShows) (roams : session.Roams node)
    (target : NodeId) (root : Point) :
    (session.turnAway target node root hooks).1.Tidy survey := by
  unfold Session.turnAway
  dsimp only
  rw [fst_giveFeedback onlyShows]
  have cleared := tidy.update node (fun dockable => { dockable with activeTarget := none })
    fun _ _ => rfl
  exact cleared.releaseUndocked (roams.update fun _ _ => rfl) root

omit tidy in
theorem land {moorings : NodeId → Option Mooring} {docked : Bool} {above : NodeId}
    {window : Option WindowId}
    (attends : Attends survey moorings node docked (some above) window session) :
    (session.land node).Tidy survey := by
  have released := attends.afterRelease.update (fun dockable =>
    { dockable with activeTarget := none, originTarget := none, press := none }) fun _ => rfl
  have docked := (released.enterPhase .docked).tidy rfl
  have landed : Tidy survey { (((session.withCarrier node Carrier.afterRelease).update node
      fun dockable => { dockable with
        activeTarget := none, originTarget := none, press := none }).enterPhase node
          .docked) with inFlight := none } := docked
  exact landed.syncDestroyed

theorem dock (standard : hooks.Standard) (roams : session.Roams node) (target : NodeId)
    (root : Point) : (session.dock target node root hooks).session.Tidy survey := by
  obtain ⟨window, attends⟩ := tidy.attends_of_roams roams
  have freed := attends.beforeDock
  obtain ⟨moorings, above, placed⟩ := freed.insertAtTarget target
  unfold Session.dock
  dsimp only
  split
  · rw [standard.fst_runInsert]
    generalize (session.withCarrier node fun carrier scene =>
      carrier.beforeDock scene node) = grounded at placed ⊢
    split
    -- the insertion may have been refused
    · next root_eq =>
        have here : above = none := placed.hosts.parent?_eq.symm.trans root_eq
        subst here
        exact (placed.tidy rfl).turnAway standard.onlyShows placed.roams target root
    · next under hangs =>
        have here : above = some under := placed.hosts.parent?_eq.symm.trans hangs
        subst here
        rw [fst_giveFeedback standard.onlyShows]
        exact land placed
  · exact tidy.turnAway standard.onlyShows roams target root

theorem tearOutChild (standard : hooks.Standard) (orderly : session.Orderly)
    (rests : session.inFlight = none) (target : NodeId) (root : Point) :
    (session.tearOutChild target root hooks).session.Tidy survey := by
  unfold Session.tearOutChild
  cases armed : session.armedChild? target with
  | none => exact tidy
  | some node =>
      obtain ⟨dockable, found, docked, linked⟩ := docked_of_armedChild? target armed
      obtain ⟨⟨moorings, removed⟩, admitted⟩ :=
        tidy.runRemove found linked orderly.fresh standard
      obtain ⟨index, indexed⟩ := tidy.wellFormed.indexOf?_of_parent? linked
      dsimp only
      split
      · exact tidy
      · next rect _ =>
          have root_eq := removed.hosts.parent?_eq
          dsimp only at root_eq
          rw [linked, indexed, Tree.detach_of_parent?_eq_none root_eq]
          have present : (hooks.runRemove session.tree target node).1.contains node = true := by
            rw [Tree.contains_eq_isSome, removed.hosts.mooring?_eq]
            rfl
          obtain ⟨layout, placed⟩ := Tree.layout?_of_contains present
          dsimp only [Option.bind_some, Option.map_some]
          generalize asked : (⟨root, root - rect.position, some target,
            some (target, index)⟩ : TearOut) = tearOut
          have begun := removed.beginDrag tearOut (by rw [otherInFlight?, rests]; rfl)
            placed (by
              rw [Tree.detach_of_parent?_eq_none root_eq, ← asked]
              rintro slot same
              cases same
              exact ⟨rfl, admitted⟩)
          split
          · next same =>
              rw [same] at begun
              exact begun
          · next failed _ same =>
              rw [same] at begun
              have calmed := Tidy.update begun node (fun dockable =>
                { dockable with press := none }) fun _ _ => rfl
              dsimp only
              split
              · exact calmed.destroyWidget _
              · exact calmed

theorem targetEvent (standard : hooks.Standard) (orderly : session.Orderly)
    (target : NodeId) (event : Event) :
    (session.targetEvent target event hooks).session.Tidy survey := by
  unfold Session.targetEvent
  split
  · exact tidy
  · exact tidy.targetLeave standard.onlyShows orderly target
  · cases flying : session.inFlight with
    | none =>
        dsimp only
        unfold targetAtRest
        split
        · exact tidy.tearOutChild standard orderly flying target _
        · exact tidy
    | some dragged =>
        have roams := orderly.roams_of_inFlight flying
        have moved (root : Point) := tidy.targetMotion standard.onlyShows roams target root
        have released (root : Point) :
            (session.targetRelease target dragged root hooks).session.Tidy survey := by
          unfold targetRelease
          split
          · exact tidy.dock standard roams target root
          · exact tidy
        dsimp only
        unfold targetInFlight
        split
        · exact moved _
        · exact moved _
        · exact moved _
        · exact released _
        · exact released _
        · exact tidy

end Tidy
end Session
end Docking

import Docking.Proofs.Session.Reference
import Docking.Proofs.Window.StrongDrag

namespace Docking

/-! What a failed strong drag destroys. The removal does not say which placeholder it left: a box
right behind the dockable that lies where it lies counts as one, no matter since when it is
there. -/

/-- The hook that takes a dockable out of a container destroys nothing. -/
def Hooks.RemovesGently (hooks : Hooks) : Prop :=
  ∀ remove, hooks.remove = some remove → ∀ tree target node other,
    .destroy other ∉ remove tree target node

theorem Hooks.RemovesGently.contains_runRemove {hooks : Hooks} (gentle : hooks.RemovesGently)
    {tree : Tree} (wellFormed : tree.WellFormed) (target node : NodeId) {other : NodeId}
    (present : tree.contains other = true) :
    (hooks.runRemove tree target node).1.contains other = true := by
  refine wellFormed.contains_edit (fun gone => ?_) present
  cases given : hooks.remove with
  | none => simp
  | some remove => exact gentle remove given tree target node gone

namespace Tree

variable {tree housed : Tree} {node parent : NodeId} {early late : List NodeId} {rect : Rect}

theorem Slot.outside_of_mem (slot : tree.Slot node parent early late rect) {other : NodeId}
    (listed : other ∈ early ++ late) : tree.within node other = false := by
  rw [Bool.eq_false_iff]
  intro within
  have parent_outside := slot.wellFormed.not_within_parent slot.linked
  rcases (slot.wellFormed.within_iff node other).mp within with rfl | above
  · exact (List.nodup_cons.mp (List.perm_middle.nodup_iff.mp slot.nodup)).1 listed
  · obtain ⟨upper, linked, further⟩ := above.cases_head
    cases (slot.mem_children listed).symm.trans linked
    exact Bool.false_ne_true (parent_outside.symm.trans
      ((slot.wellFormed.within_iff node parent).mpr further))

theorem Slot.snd_detach (slot : tree.Slot node parent early late rect) :
    (tree.detach node).2 = some (parent, early.length) := by
  obtain ⟨index, detached⟩ := slot.wellFormed.detach_snd_of_parent? slot.linked
  have found := slot.indexOf?_eq
  rw [indexOf?, slot.linked, Option.bind_some, (slot_of_detach detached).2] at found
  rw [detached, Option.some.inj found]

section Reinsertion

variable (slot : tree.Slot node parent early late rect)
  (rehouses : Rehouses node (tree.detach node).1 housed)
include slot rehouses

theorem Slot.look?_reinsert {other : NodeId} (outside : tree.within node other = false)
    (index : Nat) :
    ((housed.insertChild parent index node).place node rect).look? other = tree.look? other := by
  have lifted := slot.wellFormed.lifts_detach slot.present
  have kept := rehouses.wellFormed lifted.wellFormed
  have covers := lifted.covers.congr (rehouses.parent?_eq lifted.rooted)
  have parent_present : housed.contains parent = true := by
    rw [rehouses.contains_eq lifted.rooted, slot.wellFormed.contains_detach]
    exact slot.parent_present
  have inserted := covers.insertChild kept index
    (slot.wellFormed.not_within_parent slot.linked)
    ((rehouses.contains_eq lifted.rooted node).trans lifted.present) parent_present
  rw [inserted.look?_place (kept.insertChild parent index node) outside, look?_insertChild,
    lifted.covers.look?_rehouses lifted.wellFormed rehouses lifted.rooted outside, look?_detach]

theorem Slot.layout?_reinsert (index : Nat) :
    ((housed.insertChild parent index node).place node rect).layout? node = some rect := by
  have lifted := slot.wellFormed.lifts_detach slot.present
  have kept := rehouses.wellFormed lifted.wellFormed
  obtain ⟨layout, placed⟩ := layout?_of_contains
    ((rehouses.contains_eq lifted.rooted node).trans lifted.present)
  rw [layout?_place (kept.insertChild parent index node), layout?_eq_map, look?_insertChild,
    ← layout?_eq_map, placed]
  rfl

end Reinsertion
end Tree

namespace Session

variable {session : Session} {target node : NodeId} {root : Point} {hooks : Hooks}

/-- A node that is taken for the placeholder behind a dockable, or one below it. -/
def LiesBehind (tree : Tree) (node : NodeId) (slot : Option (NodeId × Nat)) (other : NodeId) :
    Prop :=
  ∃ box, placeholderBehind? tree node slot = some box ∧ (other = box ∨ tree.Above box other)

theorem contains_of_placeholderBehind? {tree : Tree} {slot : Option (NodeId × Nat)}
    {box : NodeId} (wellFormed : tree.WellFormed)
    (behind : placeholderBehind? tree node slot = some box) : tree.contains box = true := by
  unfold placeholderBehind? at behind
  split at behind
  · cases behind
  · next parent index =>
      have listed := List.mem_of_getElem? (Option.filter_eq_some_iff.mp behind).1
      exact Tree.contains_of_parent? ((wellFormed.mem_children_iff parent box).mp listed)

theorem contains_destroyWidget_eq_false_iff (wellFormed : session.tree.WellFormed)
    {box other : NodeId} (boxed : session.tree.contains box = true)
    (present : session.tree.contains other = true) :
    (session.destroyWidget box).tree.contains other = false ↔
      other = box ∨ session.tree.Above box other := by
  have destroyed := wellFormed.destroy box
  rw [← wellFormed.mem_destroy_iff boxed]
  constructor
  · intro lost
    by_contra kept
    have there : (session.tree.destroy box).1.contains other = true := by
      rw [wellFormed.contains_destroy, if_neg kept, present]
    exact Bool.false_ne_true (lost.symm.trans
      ((retains_syncDestroyed { session with tree := (session.tree.destroy box).1 }).contains
        destroyed.forgetDestroyed other there))
  · intro gone
    have lost : (session.tree.destroy box).1.Lost other := by
      refine destroyed.lost_of_destroyed other ?_
      rw [Tree.destroyed_destroy]
      exact List.mem_append_right _ gone
    exact ((evolves_syncDestroyed { session with tree := (session.tree.destroy box).1 }).lost
      destroyed lost).2

theorem contains_dropBehind_eq_false_iff (wellFormed : session.tree.WellFormed)
    {slot : Option (NodeId × Nat)} {other : NodeId}
    (present : session.tree.contains other = true) :
    (session.dropBehind node slot).tree.contains other = false ↔
      LiesBehind session.tree node slot other := by
  unfold dropBehind LiesBehind
  split
  · next box behind =>
      rw [contains_destroyWidget_eq_false_iff wellFormed
        (contains_of_placeholderBehind? wellFormed behind) present]
      simp [behind]
  · next nothing => simp [nothing, present]

section PullFails

variable {left : Session} (fails : session.PullFails target node root hooks left)
  (orderly : session.Orderly)
include fails orderly

theorem PullFails.wellFormed : left.tree.WellFormed := by
  obtain ⟨rect, report, _, failed⟩ := fails.failed
  have begun := (retains_beginDrag { session with tree := session.removedTree target node hooks }
    node ⟨root, root - rect.position, some target, session.slot? node⟩).wellFormed
  unfold pullOut at failed
  rw [failed] at begun
  exact begun ((orderly.wellFormed.edit _).detach node)

theorem PullFails.contains (gentle : hooks.RemovesGently) {other : NodeId}
    (present : session.tree.contains other = true) : left.tree.contains other = true := by
  obtain ⟨rect, report, _, failed⟩ := fails.failed
  have removed : (hooks.runRemove session.tree target node).1.WellFormed :=
    orderly.wellFormed.edit _
  have begun := (retains_beginDrag { session with tree := session.removedTree target node hooks }
    node ⟨root, root - rect.position, some target, session.slot? node⟩).contains
  unfold pullOut at failed
  rw [failed] at begun
  refine begun (removed.detach node) other ?_
  refine (Tree.Retains.detach _ node).contains removed other ?_
  exact gentle.contains_runRemove orderly.wellFormed target node present

end PullFails

theorem liesBehind_iff_of_missing {left : Session}
    (fails : session.PullFails target node root hooks left) (orderly : session.Orderly)
    (geared : session.Geared) (numbered : session.desktop.Numbered) (missing : hooks.remove = none)
    (other : NodeId) :
    LiesBehind left.tree node (session.slot? node) other ↔
      LiesBehind session.tree node (session.slot? node) other := by
  obtain ⟨early, late, rect, slot, slot_eq⟩ := orderly.slot fails.armed
  have removed_eq : session.removedTree target node hooks = (session.tree.detach node).1 := by
    rw [removedTree, Hooks.runRemove, missing]
    change ((session.tree.detach node).1.detach node).1 = _
    rw [Tree.detach_of_parent?_eq_none]
    exact (orderly.wellFormed.parent?_detach node node).trans (if_pos rfl)
  obtain ⟨_, _, ground, layout, _, _, _, _, shown, rehouses, rfl⟩ :=
    fails.left_eq orderly geared numbered slot_eq
  rw [removed_eq] at shown rehouses
  rw [Tree.layout?_eq_map, Tree.look?_detach, ← Tree.layout?_eq_map, slot.layout?_eq] at shown
  cases shown
  have same := (Tree.sameLinks_reinsert orderly.wellFormed slot.snd_detach rehouses).trans
    (.place _ node rect)
  have look (other : NodeId) (listed : other ∈ early ++ late) :=
    slot.look?_reinsert rehouses (slot.outside_of_mem listed) early.length
  have node_placed := slot.layout?_reinsert rehouses early.length
  dsimp only
  generalize (ground.tree.insertChild target early.length node).place node rect = hung
    at same look node_placed ⊢
  -- the sibling behind the dockable is not below it, so the attempt has not touched its look
  have behind : placeholderBehind? hung node (some (target, early.length)) =
      placeholderBehind? session.tree node (some (target, early.length)) := by
    unfold placeholderBehind?
    dsimp only
    rw [same.children_eq, node_placed, slot.layout?_eq]
    rw [slot.children_eq, List.getElem?_append_right (Nat.le_add_right _ 1),
      Nat.add_sub_cancel_left]
    cases next : (node :: late)[1]? with
    | none => rfl
    | some sibling =>
        have listed : sibling ∈ early ++ late :=
          List.mem_append_right _ (List.mem_of_getElem? next)
        rw [Option.filter_some, Option.filter_some, Tree.isTargetBox_eq_any, Tree.layout?_eq_map,
          look sibling listed, ← Tree.isTargetBox_eq_any, ← Tree.layout?_eq_map]
  have above (box : NodeId) : hung.Above box other ↔ session.tree.Above box other :=
    ⟨.mono fun child parent linked => (same.parent?_eq child).symm.trans linked,
      .mono fun child parent linked => (same.parent?_eq child).trans linked⟩
  rw [slot_eq]
  unfold LiesBehind
  simp only [behind, above]

theorem strongDrag_dropsBehind {left : Session}
    (fails : session.PullFails target node root hooks left) (orderly : session.Orderly)
    (geared : session.Geared) (numbered : session.desktop.Numbered)
    (gentle : hooks.RemovesGently) {other : NodeId} (present : session.tree.contains other = true) :
    let after := (session.targetEvent target (.pointerMove root) hooks).session
    (after.tree.contains other = false ↔
        LiesBehind left.tree node (session.slot? node) other) ∧
      (hooks.remove = none → (after.tree.contains other = false ↔
        LiesBehind session.tree node (session.slot? node) other)) := by
  have dropped : ((left.letGo node).dropBehind node (session.slot? node)).tree.contains other =
      false ↔ LiesBehind left.tree node (session.slot? node) other :=
    @contains_dropBehind_eq_false_iff (left.letGo node) _ (fails.wellFormed orderly) _ _
      (fails.contains orderly gentle present)
  dsimp only
  rw [targetEvent_of_pullFails fails]
  refine ⟨dropped, fun missing => dropped.trans ?_⟩
  exact liesBehind_iff_of_missing fails orderly geared numbered missing other

/-- A strong drag that the carrier fails destroys what is taken for the placeholder behind the
dockable, and nothing else. With no hook for the removal that is never its own placeholder. -/
theorem strongDrag_dropsBehind_run (capabilities : Capabilities) (settings : Settings)
    (operations : List Operation) {left : Session}
    (fails : ((start (.withCapabilities capabilities) settings).run operations).PullFails target
      node root hooks left)
    (gentle : hooks.RemovesGently) {other : NodeId}
    (present : ((start (.withCapabilities capabilities) settings).run
      operations).tree.contains other = true) :
    let session := (start (.withCapabilities capabilities) settings).run operations
    let after := (session.targetEvent target (.pointerMove root) hooks).session
    (after.tree.contains other = false ↔
        LiesBehind left.tree node (session.slot? node) other) ∧
      (hooks.remove = none → (after.tree.contains other = false ↔
        LiesBehind session.tree node (session.slot? node) other)) :=
  strongDrag_dropsBehind fails (orderly_run _ settings operations)
    (geared_run _ settings operations)
    ((driven_run _ settings operations).numbered (Desktop.numbered_withCapabilities capabilities))
    gentle present

/-- The older placeholder behind the dockable falls victim to a removal that left none. -/
theorem lost_crowded :
    let after := (crowded.targetEvent ⟨0⟩ (.pointerMove ⟨40, 10⟩) .none).session
    crowded.tree.contains ⟨2⟩ = true ∧ after.tree.contains ⟨2⟩ = false := by
  have fails : crowded.PullFails ⟨0⟩ ⟨1⟩ ⟨40, 10⟩ .none
      (crowded.pullOut ⟨0⟩ ⟨1⟩ ⟨0, 0, 240, 160⟩ ⟨40, 10⟩ .none).1 := by
    refine ⟨by decide +kernel, by decide +kernel, ⟨0, 0, 240, 160⟩, .system "no seat",
      by decide +kernel, Prod.ext rfl ?_⟩
    rfl
  have present : crowded.tree.contains ⟨2⟩ = true := by decide +kernel
  have drops := strongDrag_dropsBehind_run _ _ _ fails (fun _ given => nomatch given) present
  exact ⟨present, (drops.2 rfl).mpr ⟨⟨2⟩, by decide +kernel, .inl rfl⟩⟩

end Session
end Docking

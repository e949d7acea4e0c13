import Docking.Proofs.Tree.Looks
import Docking.Proofs.Twins.Takeoff

namespace Docking.Tree

/-! A placeholder box in the slot of a node that was taken out. As long as it stands there, the
node can go back as if it had never left. -/

variable {tree : Tree} {node parent box : NodeId} {early late : List NodeId} {rect : Rect}

theorem look?_veil {inside : NodeId → Bool} (tree : Tree) (outside : inside node = false) :
    (tree.veil inside).look? node = tree.look? node := by
  rw [look?, get?_veil, Option.map_map, look?]
  simp only [outside, Bool.false_eq_true, if_false]
  rfl

theorem Covers.look?_rehouses {inside : NodeId → Bool} {after : Tree}
    (covers : Covers inside node tree) (wellFormed : tree.WellFormed)
    (rehouses : Rehouses node tree after) (rooted : tree.parent? node = none) {other : NodeId}
    (outside : inside other = false) : after.look? other = tree.look? other := by
  rw [← look?_veil after outside, covers.veil_rehouses wellFormed rehouses rooted,
    look?_veil tree outside]

theorem Covers.look?_place {inside : NodeId → Bool} (covers : Covers inside node tree)
    (wellFormed : tree.WellFormed) {other : NodeId} (outside : inside other = false) :
    (tree.place node rect).look? other = tree.look? other := by
  have placed := tree.veil_place rect fun _ below => covers.descendants wellFormed below
  rw [← look?_veil _ outside, placed, look?_veil _ outside, look?, get?_modify, if_neg, look?]
  rintro rfl
  exact Bool.false_ne_true (outside.symm.trans covers.node)

/-! ### Slots -/

/-- A node hangs below another between `early` and `late` siblings. -/
structure Slot (tree : Tree) (node parent : NodeId) (early late : List NodeId) (rect : Rect) :
    Prop where
  wellFormed : tree.WellFormed
  linked : tree.parent? node = some parent
  children_eq : tree.children parent = early ++ node :: late
  layout?_eq : tree.layout? node = some rect

theorem insertIdx_append (early late : List NodeId) (node : NodeId) :
    (early ++ late).insertIdx (min early.length (early ++ late).length) node =
      early ++ node :: late := by
  rw [List.length_append, Nat.min_eq_left (Nat.le_add_right _ _)]
  induction early with
  | nil => rfl
  | cons head rest induction =>
      rw [List.cons_append, List.length_cons, List.insertIdx_succ_cons, induction, List.cons_append]

theorem WellFormed.slot {index : Nat} (wellFormed : tree.WellFormed)
    (linked : tree.parent? node = some parent) (indexed : tree.indexOf? node = some index)
    (placed : tree.layout? node = some rect) :
    tree.Slot node parent ((tree.children parent).take index)
      ((tree.children parent).drop (index + 1)) rect := by
  rw [indexOf?, linked, Option.bind_some] at indexed
  obtain ⟨bound, here, _⟩ := List.idxOf?_eq_some_iff.mp indexed
  refine ⟨wellFormed, linked, ?_, placed⟩
  rw [← here, ← List.drop_eq_getElem_cons bound, List.take_append_drop]

namespace Slot

variable (slot : tree.Slot node parent early late rect)
include slot

theorem nodup : (early ++ node :: late).Nodup :=
  slot.children_eq ▸ slot.wellFormed.children_nodup parent

theorem not_mem_early : node ∉ early := by
  intro listed
  exact (List.nodup_append.mp slot.nodup).2.2 node listed node List.mem_cons_self rfl

theorem indexOf?_eq : tree.indexOf? node = some early.length := by
  rw [indexOf?, slot.linked, Option.bind_some, slot.children_eq, List.idxOf?_eq_some_iff]
  refine ⟨by simp, by simp, fun place before same => slot.not_mem_early ?_⟩
  rw [List.getElem_append_left before] at same
  exact same ▸ List.getElem_mem _

theorem present : tree.contains node = true :=
  contains_of_parent? slot.linked

theorem parent_present : tree.contains parent = true :=
  slot.wellFormed.contains_parent slot.linked

theorem mem_children {other : NodeId} (listed : other ∈ early ++ late) :
    tree.parent? other = some parent := by
  refine (slot.wellFormed.mem_children_iff parent other).mp ?_
  rw [slot.children_eq]
  rcases List.mem_append.mp listed with first | last
  · exact List.mem_append_left _ first
  · exact List.mem_append_right _ (List.mem_cons_of_mem _ last)

theorem children_detach (other : NodeId) :
    (tree.detach node).1.children other =
      if other = parent then early ++ late else tree.children other := by
  rw [slot.wellFormed.children_detach]
  split
  · next same =>
      rw [same, slot.children_eq, List.erase_append_right _ slot.not_mem_early,
        List.erase_cons_head]
  · next apart =>
      refine List.erase_of_not_mem fun listed => apart ?_
      have linked := (slot.wellFormed.mem_children_iff other node).mp listed
      exact Option.some.inj (linked.symm.trans slot.linked)

end Slot

/-! ### Vacancies -/

/-- The node is a root of its own since `before`, and a placeholder of its extent stands in its
slot. -/
structure Vacated (before : Tree) (node parent box : NodeId) (early late : List NodeId)
    (rect : Rect) (after : Tree) : Prop where
  slot : before.Slot node parent early late rect
  fresh : before.contains box = false
  wellFormed : after.WellFormed
  present : after.contains node = true
  rooted : after.parent? node = none
  mooring?_box : after.mooring? box = some ⟨some parent, none⟩
  mooring?_eq : ∀ other, other ≠ node → other ≠ box →
    after.mooring? other = before.mooring? other
  children_eq : ∀ other, after.children other =
    if other = parent then early ++ box :: late else before.children other
  isTargetBox : after.isTargetBox box = true
  layout?_box : after.layout? box = some rect
  layout?_eq : ∀ other, before.within node other = false → other ≠ box →
    after.layout? other = before.layout? other
  destroyed_eq : after.destroyed = before.destroyed

theorem edit_removeLeavingBox (slot : tree.Slot node parent early late rect) :
    tree.edit (Placement.removeLeavingBox tree node) =
      ((tree.detach node).1.add .newTargetBox rect).insertChild parent early.length
        tree.nextId := by
  rw [Placement.removeLeavingBox, slot.linked, slot.indexOf?_eq, slot.layout?_eq]
  rfl

theorem look?_removeLeavingBox (slot : tree.Slot node parent early late rect) (other : NodeId) :
    (tree.edit (Placement.removeLeavingBox tree node)).look? other =
      if other = tree.nextId then some (.newTargetBox, rect) else tree.look? other := by
  rw [edit_removeLeavingBox slot, look?_insertChild, look?_add, nextId_detach, look?_detach]

theorem Slot.admits_box (slot : tree.Slot node parent early late rect) :
    ((tree.detach node).1.add .newTargetBox rect).admits parent tree.nextId = true := by
  have sound := slot.wellFormed
  have detached := sound.detach node
  have apart := sound.ne_nextId slot.parent_present
  refine (detached.add .newTargetBox rect).admits_of_not_above apart ?_ ?_ fun above => ?_
  · rw [contains_eq_isSome, mooring?_add, nextId_detach, if_neg apart, ← contains_eq_isSome,
      sound.contains_detach]
    exact slot.parent_present
  · rw [contains_eq_isSome, mooring?_add, nextId_detach, if_pos rfl]
    rfl
  · rw [← nextId_detach tree node] at above
    exact detached.not_above_nextId parent (detached.above_of_add above)

theorem Slot.children_removeLeavingBox (slot : tree.Slot node parent early late rect)
    (other : NodeId) :
    (tree.edit (Placement.removeLeavingBox tree node)).children other =
      if other = parent then early ++ tree.nextId :: late else tree.children other := by
  have sound := slot.wellFormed
  have fresh := sound.not_contains_nextId
  have apart := sound.ne_nextId slot.parent_present
  have unlisted (other : NodeId) : tree.nextId ∉ tree.children other := fun listed =>
    Bool.false_ne_true (fresh.symm.trans
      (contains_of_parent? ((sound.mem_children_iff other _).mp listed)))
  have added (other : NodeId) :
      (((tree.detach node).1.add .newTargetBox rect).children other).erase tree.nextId =
        if other = parent then early ++ late else tree.children other := by
    rw [children_add, nextId_detach, slot.children_detach]
    split
    · next same =>
        rw [same, if_neg apart.symm, children_of_not_contains fresh]
        rfl
    · split
      · refine List.erase_of_not_mem fun listed => ?_
        exact Bool.false_ne_true (fresh.symm.trans (contains_of_parent? (slot.mem_children listed)))
      · exact List.erase_of_not_mem (unlisted other)
  rw [edit_removeLeavingBox slot, ((sound.detach node).add _ _).children_insertChild _
    slot.admits_box, added, added, if_pos rfl]
  split
  · exact insertIdx_append early late tree.nextId
  · rfl

theorem vacated_removeLeavingBox (slot : tree.Slot node parent early late rect) :
    tree.Vacated node parent tree.nextId early late rect
      (tree.edit (Placement.removeLeavingBox tree node)) := by
  have sound := slot.wellFormed
  have elsewhere (other : NodeId) (different : other ≠ tree.nextId) :
      (tree.edit (Placement.removeLeavingBox tree node)).mooring? other =
        (tree.detach node).1.mooring? other :=
    sound.mooring?_removeLeavingBox slot.linked different
  have look := look?_removeLeavingBox slot
  have known := sound.ne_nextId slot.present
  refine {
    slot
    fresh := sound.not_contains_nextId
    wellFormed := sound.edit _
    present := ?_
    rooted := ?_
    mooring?_box := ?_
    mooring?_eq := fun other different new => ?_
    children_eq := slot.children_removeLeavingBox
    isTargetBox := ?_
    layout?_box := ?_
    layout?_eq := fun other _ new => ?_
    destroyed_eq := ?_ }
  · rw [contains_eq_isSome, elsewhere node known, ← contains_eq_isSome, sound.contains_detach]
    exact slot.present
  · rw [parent?_eq_bind, elsewhere node known, ← parent?_eq_bind, sound.parent?_detach, if_pos rfl]
  · rw [edit_removeLeavingBox slot, ((sound.detach node).add _ _).mooring?_insertChild _
      slot.admits_box, if_pos rfl]
  · rw [elsewhere other new, sound.mooring?_detach, if_neg different]
  · rw [isTargetBox_eq_any, look, if_pos rfl]
    rfl
  · rw [layout?_eq_map, look, if_pos rfl]
    rfl
  · rw [layout?_eq_map, look, if_neg new, ← layout?_eq_map]
  · rw [edit_removeLeavingBox slot, destroyed_insertChild]
    exact tree.destroyed_detach node

namespace Vacated

variable {before after : Tree} (vacated : Vacated before node parent box early late rect after)
include vacated

theorem box_ne {other : NodeId} (present : before.contains other = true) : box ≠ other := by
  rintro rfl
  exact Bool.false_ne_true (vacated.fresh.symm.trans present)

theorem box_present : after.contains box = true := by
  rw [contains_eq_isSome, vacated.mooring?_box]
  rfl

theorem parent?_box : after.parent? box = some parent := by
  rw [parent?_eq_bind, vacated.mooring?_box]
  rfl

theorem box_outside : before.within node box = false := by
  rw [Bool.eq_false_iff]
  intro within
  rcases (vacated.slot.wellFormed.within_iff node box).mp within with same | above
  · exact vacated.box_ne vacated.slot.present same
  · exact vacated.box_ne above.contains_lower rfl

theorem parent_outside : before.within node parent = false :=
  vacated.slot.wellFormed.not_within_parent vacated.slot.linked

theorem parent_present : after.contains parent = true :=
  vacated.wellFormed.contains_parent vacated.parent?_box

theorem covers : Covers (before.within node) node after where
  node := (vacated.slot.wellFormed.within_iff node node).mpr (.inl rfl)
  below lower upper linked within := by
    by_cases here : lower = node
    · rw [here, vacated.rooted] at linked
      cases linked
    · by_cases new : lower = box
      · rw [new, vacated.parent?_box] at linked
        cases linked
        cases vacated.parent_outside.symm.trans within
      · rw [parent?_eq_bind, vacated.mooring?_eq lower here new, ← parent?_eq_bind] at linked
        exact vacated.slot.wellFormed.within_of_parent? linked within

theorem admits : after.admits parent node = true :=
  vacated.covers.admits vacated.wellFormed vacated.present vacated.parent_present
    vacated.parent_outside

theorem slot_box : after.Slot box parent early late rect where
  wellFormed := vacated.wellFormed
  linked := vacated.parent?_box
  children_eq := by rw [vacated.children_eq, if_pos rfl]
  layout?_eq := vacated.layout?_box

theorem children_parent :
    after.children parent = (before.children parent).set early.length box := by
  rw [vacated.children_eq, if_pos rfl, vacated.slot.children_eq,
    List.set_append_right _ _ (Nat.le_refl _), Nat.sub_self, List.set_cons_zero]

theorem isAncestor_box : after.isAncestor node box = false := by
  rw [Bool.eq_false_iff]
  intro above
  rw [vacated.wellFormed.isAncestor_iff] at above
  exact Bool.false_ne_true (vacated.box_outside.symm.trans
    (vacated.covers.above above vacated.covers.node))

/-! ### What leaves the vacancy as it is -/

theorem rehouses {later : Tree} (rehouses : Rehouses node after later) :
    Vacated before node parent box early late rect later := by
  have look (other : NodeId) (outside : before.within node other = false) :=
    vacated.covers.look?_rehouses vacated.wellFormed rehouses vacated.rooted outside
  exact {
    slot := vacated.slot
    fresh := vacated.fresh
    wellFormed := rehouses.wellFormed vacated.wellFormed
    present := (rehouses.contains_eq vacated.rooted node).trans vacated.present
    rooted := rehouses.parent?_eq_none vacated.rooted
    mooring?_box := (rehouses.mooring?_eq vacated.rooted
      (vacated.box_ne vacated.slot.present)).trans vacated.mooring?_box
    mooring?_eq := fun other different new =>
      (rehouses.mooring?_eq vacated.rooted different).trans
        (vacated.mooring?_eq other different new)
    children_eq := fun other =>
      (rehouses.children_eq vacated.rooted other).trans (vacated.children_eq other)
    isTargetBox := by
      rw [isTargetBox_eq_any, look box vacated.box_outside, ← isTargetBox_eq_any]
      exact vacated.isTargetBox
    layout?_box := by
      rw [layout?_eq_map, look box vacated.box_outside, ← layout?_eq_map]
      exact vacated.layout?_box
    layout?_eq := fun other outside new => by
      rw [layout?_eq_map, look other outside, ← layout?_eq_map]
      exact vacated.layout?_eq other outside new
    destroyed_eq := rehouses.destroyed_eq.trans vacated.destroyed_eq }

theorem repaints {later : Tree} (repaints : Repaints after later) :
    Vacated before node parent box early late rect later :=
  let same := repaints.geometry
  { slot := vacated.slot
    fresh := vacated.fresh
    wellFormed := same.links.wellFormed vacated.wellFormed
    present := (same.links.contains_eq node).trans vacated.present
    rooted := (same.links.parent?_eq node).trans vacated.rooted
    mooring?_box := (same.links.mooring?_eq box).trans vacated.mooring?_box
    mooring?_eq := fun other different new =>
      (same.links.mooring?_eq other).trans (vacated.mooring?_eq other different new)
    children_eq := fun other => (same.links.children_eq other).trans (vacated.children_eq other)
    isTargetBox := (repaints.isTargetBox_eq box).trans vacated.isTargetBox
    layout?_box := (same.layout?_eq box).trans vacated.layout?_box
    layout?_eq := fun other outside new =>
      (same.layout?_eq other).trans (vacated.layout?_eq other outside new)
    destroyed_eq := same.links.destroyed_eq.trans vacated.destroyed_eq }

end Vacated

/-! ### Hanging a node at a rectangle -/

namespace WellFormed

variable (wellFormed : tree.WellFormed)
include wellFormed

section Hang

variable (index : Nat) (admitted : tree.admits parent node = true)
include admitted

theorem mooring?_hang (rect : Rect) (other : NodeId) :
    ((tree.insertChild parent index node).place node rect).mooring? other =
      if other = node then some ⟨some parent, none⟩ else tree.mooring? other := by
  rw [(SameLinks.place _ node rect).mooring?_eq, wellFormed.mooring?_insertChild index admitted]

theorem children_hang (rect : Rect) (other : NodeId) :
    ((tree.insertChild parent index node).place node rect).children other =
      if other = parent then
        ((tree.children parent).erase node).insertIdx
          (min index ((tree.children parent).erase node).length) node
      else (tree.children other).erase node := by
  rw [(SameLinks.place _ node rect).children_eq, wellFormed.children_insertChild index admitted]

theorem layout?_hang (rect : Rect) :
    ((tree.insertChild parent index node).place node rect).layout? node = some rect := by
  obtain ⟨layout, placed⟩ :=
    layout?_of_contains ((tree.admits_iff parent node).mp admitted).2.2.1
  rw [layout?_place (wellFormed.insertChild parent index node), layout?_eq_map,
    look?_insertChild, ← layout?_eq_map, placed, Option.map_some]

end Hang

theorem hang (parent : NodeId) (index : Nat) (node : NodeId) (rect : Rect) :
    ((tree.insertChild parent index node).place node rect).WellFormed :=
  (SameLinks.place _ node rect).wellFormed (wellFormed.insertChild parent index node)

end WellFormed

theorem destroyed_hang (tree : Tree) (parent : NodeId) (index : Nat) (node : NodeId)
    (rect : Rect) :
    ((tree.insertChild parent index node).place node rect).destroyed = tree.destroyed :=
  (SameLinks.place _ node rect).destroyed_eq.trans (tree.destroyed_insertChild parent index node)

/-! ### Going back -/

theorem WellFormed.mooring?_of_parent? (wellFormed : tree.WellFormed)
    (linked : tree.parent? node = some parent) :
    tree.mooring? node = some ⟨some parent, none⟩ := by
  have present := contains_of_parent? linked
  rw [contains_eq_isSome] at present
  obtain ⟨⟨upper, window⟩, moored⟩ := Option.isSome_iff_exists.mp present
  rw [parent?_eq_bind, moored, Option.bind_some] at linked
  cases window with
  | none => rw [moored, ← linked]
  | some window =>
      have shown : tree.window? node = some window := by
        rw [window?_eq_bind, moored, Option.bind_some]
      have root := wellFormed.parent?_of_window node window shown
      rw [parent?_eq_bind, moored, Option.bind_some] at root
      cases root.symm.trans linked

/-- The node hangs in its slot again, and the placeholder right behind it. -/
structure Doubled (before : Tree) (node parent box : NodeId) (early late : List NodeId)
    (rect : Rect) (after : Tree) : Prop where
  slot : before.Slot node parent early late rect
  fresh : before.contains box = false
  wellFormed : after.WellFormed
  mooring?_box : after.mooring? box = some ⟨some parent, none⟩
  mooring?_eq : ∀ other, other ≠ box → after.mooring? other = before.mooring? other
  children_eq : ∀ other, after.children other =
    if other = parent then early ++ node :: box :: late else before.children other
  isTargetBox : after.isTargetBox box = true
  layout?_box : after.layout? box = some rect
  layout?_eq : ∀ other, other = node ∨ before.within node other = false → other ≠ box →
    after.layout? other = before.layout? other
  destroyed_eq : after.destroyed = before.destroyed

theorem Vacated.hang {before after : Tree}
    (vacated : Vacated before node parent box early late rect after) :
    Doubled before node parent box early late rect
      ((after.insertChild parent early.length node).place node rect) := by
  have admitted := vacated.admits
  have inserted := vacated.wellFormed.insertChild parent early.length node
  have covers := vacated.covers.insertChild vacated.wellFormed early.length vacated.parent_outside
    vacated.present vacated.parent_present
  have unlisted (other : NodeId) : (after.children other).erase node = after.children other :=
    List.erase_of_not_mem fun listed => Option.some_ne_none other
      (((vacated.wellFormed.mem_children_iff other node).mp listed).symm.trans vacated.rooted)
  have look (other : NodeId) (outside : before.within node other = false) :
      ((after.insertChild parent early.length node).place node rect).look? other =
        after.look? other := by
    rw [covers.look?_place inserted outside, look?_insertChild]
  refine {
    slot := vacated.slot
    fresh := vacated.fresh
    wellFormed := vacated.wellFormed.hang parent early.length node rect
    mooring?_box := ?_
    mooring?_eq := fun other old => ?_
    children_eq := fun other => ?_
    isTargetBox := ?_
    layout?_box := ?_
    layout?_eq := ?_
    destroyed_eq := ?_ }
  · rw [vacated.wellFormed.mooring?_hang _ admitted, if_neg (vacated.box_ne vacated.slot.present)]
    exact vacated.mooring?_box
  · rw [vacated.wellFormed.mooring?_hang _ admitted]
    split
    · next here =>
        rw [here, vacated.slot.wellFormed.mooring?_of_parent? vacated.slot.linked]
    · next different => exact vacated.mooring?_eq other different old
  · rw [vacated.wellFormed.children_hang _ admitted, unlisted, unlisted,
      vacated.children_eq, vacated.children_eq, if_pos rfl]
    split
    · exact insertIdx_append early (box :: late) node
    · rfl
  · rw [isTargetBox_eq_any, look box vacated.box_outside, ← isTargetBox_eq_any]
    exact vacated.isTargetBox
  · rw [layout?_eq_map, look box vacated.box_outside, ← layout?_eq_map]
    exact vacated.layout?_box
  · rintro other (rfl | outside) new
    · rw [vacated.wellFormed.layout?_hang _ admitted, vacated.slot.layout?_eq]
    · rw [layout?_eq_map, look other outside, ← layout?_eq_map]
      exact vacated.layout?_eq other outside new
  · rw [destroyed_hang]
    exact vacated.destroyed_eq

/-- Everything hangs as it did and nothing is left of the placeholder. What does not hang below
the node lies where it lay, and so does the node. -/
structure Regained (before : Tree) (node box : NodeId) (after : Tree) : Prop where
  mooring?_eq : ∀ other, after.mooring? other = before.mooring? other
  children_eq : ∀ other, after.children other = before.children other
  layout?_eq : ∀ other, other = node ∨ before.within node other = false →
    after.layout? other = before.layout? other
  lost : after.Lost box

namespace Regained

variable {before after : Tree} (regained : Regained before node box after)
include regained

theorem contains_eq (other : NodeId) : after.contains other = before.contains other := by
  rw [contains_eq_isSome, regained.mooring?_eq, contains_eq_isSome]

theorem parent?_eq (other : NodeId) : after.parent? other = before.parent? other := by
  rw [parent?_eq_bind, regained.mooring?_eq, parent?_eq_bind]

theorem sameGeometry {later : Tree} (same : SameGeometry after later) :
    Regained before node box later where
  mooring?_eq other := (same.links.mooring?_eq other).trans (regained.mooring?_eq other)
  children_eq other := (same.links.children_eq other).trans (regained.children_eq other)
  layout?_eq other seen := (same.layout?_eq other).trans (regained.layout?_eq other seen)
  lost := by
    rw [Lost, same.links.nextIndex_eq, same.links.contains_eq]
    exact regained.lost

theorem forgetDestroyed : Regained before node box after.forgetDestroyed :=
  ⟨regained.mooring?_eq, regained.children_eq, regained.layout?_eq, regained.lost⟩

end Regained

namespace Doubled

variable {before after : Tree} (doubled : Doubled before node parent box early late rect after)
include doubled

theorem box_present : after.contains box = true := by
  rw [contains_eq_isSome, doubled.mooring?_box]
  rfl

theorem box_ne {other : NodeId} (present : before.contains other = true) : box ≠ other := by
  rintro rfl
  exact Bool.false_ne_true (doubled.fresh.symm.trans present)

theorem children_box : after.children box = [] := by
  rw [doubled.children_eq, if_neg (doubled.box_ne doubled.slot.parent_present),
    children_of_not_contains doubled.fresh]

theorem getElem?_children : (after.children parent)[early.length + 1]? = some box := by
  rw [doubled.children_eq, if_pos rfl, List.getElem?_append_right (Nat.le_add_right _ 1),
    Nat.add_sub_cancel_left]
  rfl

theorem snd_destroy : (after.destroy box).2 = [box] := by
  have bare : (after.detach box).1.children box = [] := by
    rw [doubled.wellFormed.children_detach, doubled.children_box]
    rfl
  rw [destroy_of_contains doubled.box_present, subtree, descendants, bare]
  cases (after.detach box).1.size <;> rfl

theorem destroyed_destroy : (after.destroy box).1.destroyed = before.destroyed ++ [box] := by
  rw [Tree.destroyed_destroy, doubled.snd_destroy, doubled.destroyed_eq]

theorem destroy : Regained before node box (after.destroy box).1 := by
  have gone (other : NodeId) : other ∈ (after.destroy box).2 ↔ other = box := by
    rw [doubled.snd_destroy, List.mem_singleton]
  refine ⟨fun other => ?_, fun other => ?_, fun other seen => ?_, ?_⟩
  · rw [doubled.wellFormed.mooring?_destroy]
    split
    · next lost =>
        rw [(gone other).mp lost]
        exact ((mooring?_eq_none_iff before box).mpr doubled.fresh).symm
    · next kept => exact doubled.mooring?_eq other fun same => kept ((gone other).mpr same)
  · rw [doubled.wellFormed.children_destroy, if_pos doubled.box_present, doubled.children_eq]
    split
    · next lost =>
        rw [(gone other).mp lost, children_of_not_contains doubled.fresh]
    · split
      · next same =>
          have apart : box ∉ early ++ [node] := by
            intro listed
            have known : before.contains box = true := by
              rcases List.mem_append.mp listed with first | here
              · exact contains_of_parent? (doubled.slot.mem_children (List.mem_append_left _ first))
              · rw [List.mem_singleton.mp here]
                exact doubled.slot.present
            exact doubled.box_ne known rfl
          have split_eq : early ++ node :: box :: late = (early ++ [node]) ++ box :: late := by
            rw [List.append_assoc]
            rfl
          rw [same, doubled.slot.children_eq, split_eq, List.erase_append_right _ apart,
            List.erase_cons_head, List.append_assoc]
          rfl
      · refine List.erase_of_not_mem fun listed => ?_
        exact doubled.box_ne (contains_of_parent?
          ((doubled.slot.wellFormed.mem_children_iff other box).mp listed)) rfl
  · by_cases new : other = box
    · have lost : (after.destroy box).1.contains box = false := by
        rw [doubled.wellFormed.contains_destroy, if_pos ((gone box).mpr rfl)]
      rw [new, layout?, layout?, (contains_eq_false_iff _ box).mp lost,
        (contains_eq_false_iff _ box).mp doubled.fresh]
    · rw [layout?_eq_map, look?_destroy, if_neg fun lost => new ((gone other).mp lost),
        ← layout?_eq_map]
      exact doubled.layout?_eq other seen new
  · refine (doubled.wellFormed.destroy box).lost_of_destroyed box ?_
    rw [doubled.destroyed_destroy]
    exact List.mem_append_right _ (List.mem_singleton_self box)

end Doubled

/-! ### Docking at the placeholder -/

namespace Vacated

variable {before after : Tree} (vacated : Vacated before node parent box early late rect after)
include vacated

theorem edit_insertAtTarget :
    after.edit (Placement.insertAtTarget after box node) =
      (((after.insertChild parent early.length node).place node rect).destroy box).1 := by
  rw [Placement.insertAtTarget, vacated.layout?_box, vacated.isTargetBox, vacated.parent?_box,
    vacated.slot_box.indexOf?_eq]
  rfl

theorem regained_insertAtTarget :
    Regained before node box (after.edit (Placement.insertAtTarget after box node)) := by
  rw [vacated.edit_insertAtTarget]
  exact vacated.hang.destroy

theorem destroyed_insertAtTarget :
    (after.edit (Placement.insertAtTarget after box node)).destroyed =
      before.destroyed ++ [box] := by
  rw [vacated.edit_insertAtTarget]
  exact vacated.hang.destroyed_destroy

end Vacated
end Docking.Tree
